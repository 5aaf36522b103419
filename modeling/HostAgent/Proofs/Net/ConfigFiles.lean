import HostAgent.Net.Converge
import HostAgent.Proofs.Logged

/-!
# The configuration files

Two files are made to hold the texts of a configuration, one after the other. A file that holds its
text is left alone, any other is written.

* `filesHold` -- whether the files hold their texts;
* `writeNetworkConfigs_ends` -- what bringing them there asks of a host;
* `writeNetworkConfigs_dry` -- looking whether they do.
-/

namespace HostAgent.Net

/-- The request writes one of the two configuration files. -/
def WritesConfig (paths : NetPaths) (e : Event) : Prop :=
  ∃ path contents answer, e = .wrote path contents answer
    ∧ (path = paths.interfaces ∨ path = paths.dhclientConf)

section

variable {H : Type} [Host H] (paths : NetPaths)

/-- A file of the network is made to hold a text: it does so already, or it is written. -/
inductive TextConverged (path : Path) (text : String) (s : H) :
    List Event → Except Error Bool → Prop where
  | kept (held : holds s path (Utf8.encode text) = true) : TextConverged path text s [] (.ok false)
  | written (answer : Except Error Unit) (stale : holds s path (Utf8.encode text) = false) :
      TextConverged path text s [.wrote path (Utf8.encode text) answer]
        ((answer.map fun _ => true).mapError (.context ("Writing to " ++ path.text)))

/-- The configuration files are made to hold their texts, one after the other. -/
inductive FilesConverged (config : NetworkConfig) (s : H) :
    List Event → Except Error Bool → Prop where
  /-- the first file cannot be written -/
  | stuck {log : List Event} {e : Error}
      (first : TextConverged paths.interfaces config.interfaces s log (.error e)) :
      FilesConverged config s log (.error e)
  /-- there is no second file -/
  | alone {log : List Event} {changed : Bool} (alone : config.dhclient? = none)
      (first : TextConverged paths.interfaces config.interfaces s log (.ok changed)) :
      FilesConverged config s log (.ok changed)
  | both {log more : List Event} {t : H} {text : String} {changed : Bool} {r : Except Error Bool}
      (leased : config.dhclient? = some text)
      (first : TextConverged paths.interfaces config.interfaces s log (.ok changed))
      (leads : Leads log s t) (second : TextConverged paths.dhclientConf text t more r) :
      FilesConverged config s (log ++ more) (r.map fun changed' => changed || changed')

/-- The configuration files hold their texts. -/
def filesHold (s : H) (config : NetworkConfig) : Bool :=
  holds s paths.interfaces (Utf8.encode config.interfaces)
    && match config.dhclient? with
      | none => true
      | some text => holds s paths.dhclientConf (Utf8.encode text)

theorem convergeText_ends (path : Path) (text : String) (s : H) :
    (convergeText path text false).Ends s fun log r _ => TextConverged path text s log r := by
  unfold convergeText convergeFile
  refine Pass.EndsOn.within (P := fun log r _ =>
    TextConverged path text s log (r.mapError (.context ("Writing to " ++ path.text)))) ?_
    fun _ _ _ h => h
  refine Pass.EndsOn.before (a := holds s path (Utf8.encode text))
    (P := fun log t => log = [] ∧ t = s) (.still rfl ⟨rfl, rfl, rfl⟩) ?_
  intro _ t h
  obtain ⟨rfl, rfl⟩ := h
  cases hheld : holds t path (Utf8.encode text) with
  | true => exact .done (.kept hheld)
  | false =>
    refine (Pass.ends_writeFile path (Utf8.encode text) t).returning ?_ ?_
    · intro _ u _ hlog
      subst hlog
      exact .written (.ok u) hheld
    · intro _ e _ hlog
      subst hlog
      exact .written (.error e) hheld

theorem writeNetworkConfigs_ends (config : NetworkConfig) (s : H) :
    (writeNetworkConfigs paths config.interfaces config.dhclient? false).Ends s fun log r _ =>
      FilesConverged paths config s log r := by
  refine (convergeText_ends paths.interfaces config.interfaces s).leads.bind ?_ ?_
  · intro log changed t h
    obtain ⟨hleads, hfirst⟩ := h
    cases hdhclient : config.dhclient? with
    | none =>
      refine .done ?_
      rw [List.append_nil]
      exact .alone hdhclient hfirst
    | some text =>
      refine (convergeText_ends paths.dhclientConf text t).returning ?_ ?_
      · exact fun more changed' u hsecond => .both hdhclient hfirst hleads hsecond
      · exact fun more e u hsecond => .both hdhclient hfirst hleads hsecond
  · exact fun log e t h => .stuck h.2

/-- A dry run only looks. -/
theorem convergeText_dry (path : Path) (text : String) (s : H) :
    convergeText path text true s = (.ok (!holds s path (Utf8.encode text)), s) := by
  have hfile : convergeFile path (Utf8.encode text) true s
      = (.ok (!holds s path (Utf8.encode text)), s) := by
    unfold convergeFile
    rw [Pass.bind_apply]
    cases hheld : holds s path (Utf8.encode text) with
    | true => simp only [Pass.look, hheld]; rfl
    | false => simp only [Pass.look, hheld]; rfl
  rw [convergeText, Pass.within_apply, hfile]
  rfl

/-- **Looking for changes** tells whether the files hold their texts, and touches nothing. -/
theorem writeNetworkConfigs_dry (config : NetworkConfig) (s : H) :
    writeNetworkConfigs paths config.interfaces config.dhclient? true s
      = (.ok (!filesHold paths s config), s) := by
  unfold writeNetworkConfigs filesHold
  rw [Pass.bind_ok (convergeText_dry paths.interfaces config.interfaces s)]
  cases config.dhclient? with
  | none =>
    simp only [Bool.and_true]
    rfl
  | some text =>
    simp only [Bool.not_and]
    rw [Pass.bind_ok (convergeText_dry paths.dhclientConf text s)]
    rfl

end

section

variable {H : Type} [Host H] {paths : NetPaths} {config : NetworkConfig} {path : Path}
  {text : String} {log : List Event} {r : Except Error Bool}

/-- The event is a write that failed. -/
def isFailedWrite : Event → Bool
  | .wrote _ _ (.error _) => true
  | _ => false

theorem TextConverged.onHost {a : Agent H} (h : TextConverged path text a log r) :
    TextConverged path text a.host log r := by
  cases h with
  | kept held => exact .kept held
  | written answer stale => exact .written answer stale

theorem FilesConverged.onHost {a : Agent H} (h : FilesConverged paths config a log r) :
    FilesConverged paths config a.host log r := by
  cases h with
  | stuck first => exact .stuck first.onHost
  | alone alone first => exact .alone alone first.onHost
  | both leased first leads second =>
    exact .both leased first.onHost (leads_host leads).1 second.onHost

/-- A host with a log stands for its host. -/
theorem TextConverged.shown {l : Logged H} (h : TextConverged path text l log r) :
    TextConverged path text l.host log r := by
  cases h with
  | kept held => exact .kept held
  | written answer stale => exact .written answer stale

theorem FilesConverged.shown {l : Logged H} (h : FilesConverged paths config l log r) :
    FilesConverged paths config l.host log r := by
  cases h with
  | stuck first => exact .stuck first.shown
  | alone alone first => exact .alone alone first.shown
  | both leased first leads second =>
    exact .both leased first.shown leads.kept.1 second.shown

/-- Only the file itself is written. -/
theorem TextConverged.writes {s : H} (h : TextConverged path text s log r) {e : Event}
    (he : e ∈ log) : ∃ contents answer, e = .wrote path contents answer := by
  cases h with
  | kept _ => cases he
  | written answer _ => exact ⟨_, answer, List.mem_singleton.mp he⟩

/-- The result is an error exactly when the write failed. -/
theorem TextConverged.failed {s : H} (h : TextConverged path text s log r) :
    (∃ e, r = .error e) ↔ ∃ e ∈ log, isFailedWrite e = true := by
  cases h with
  | kept _ => simp
  | written answer _ =>
    cases answer with
    | ok u => simp [isFailedWrite, Except.map, Except.mapError]
    | error fault => simp [isFailedWrite, Except.map, Except.mapError]

theorem FilesConverged.writes {s : H} (h : FilesConverged paths config s log r) {e : Event}
    (he : e ∈ log) : WritesConfig paths e := by
  have hfirst : ∀ {log r}, TextConverged paths.interfaces config.interfaces s log r →
      e ∈ log → WritesConfig paths e := by
    intro log r h he
    obtain ⟨contents, answer, rfl⟩ := h.writes he
    exact ⟨_, contents, answer, rfl, Or.inl rfl⟩
  cases h with
  | stuck first => exact hfirst first he
  | alone _ first => exact hfirst first he
  | both _ first _ second =>
    rcases List.mem_append.mp he with he | he
    · exact hfirst first he
    · obtain ⟨contents, answer, rfl⟩ := second.writes he
      exact ⟨_, contents, answer, rfl, Or.inr rfl⟩

theorem FilesConverged.failed {s : H} (h : FilesConverged paths config s log r) :
    (∃ e, r = .error e) ↔ ∃ e ∈ log, isFailedWrite e = true := by
  cases h with
  | stuck first => exact first.failed
  | alone _ first => exact first.failed
  | @both log more t text changed r leased first leads second =>
    have hfirst : ¬ ∃ e ∈ log, isFailedWrite e = true := fun h => by
      obtain ⟨e, he⟩ := first.failed.mpr h
      cases he
    have hmap : (∃ e, (r.map fun changed' => changed || changed') = .error e)
        ↔ ∃ e, r = .error e := by
      cases r with
      | ok b => simp [Except.map]
      | error e => simp [Except.map]
    rw [hmap, second.failed]
    simp only [List.mem_append, or_and_right, exists_or, or_iff_right hfirst]

end

end HostAgent.Net
