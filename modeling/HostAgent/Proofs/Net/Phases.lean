import HostAgent.Proofs.Net.Order

/-!
# What the phase tells

An agent remembers the phase that its last pass over the network left behind. The phase starts anew
with every pass, so it tells how far that pass got and nothing about the ones before it.

* `TellsHowFar` -- what a phase tells about the log and the result of its pass;
* `NetworkPass.tells` -- one pass, from any phase on;
* `passesFrom_tell` -- one pass after another, on hosts that change in between.
-/

namespace HostAgent.Net

/-! ## 1. What is told -/

/-- The rest of a log from a command on that takes interfaces down. -/
def SinceDown (log after : List Event) : Prop :=
  ∃ before c answer, log = before ++ .ran c answer :: after ∧ c.name = "ifdown"

/-- Interfaces were taken down, and then a configuration file could not be written. -/
def FailsToWrite (paths : NetPaths) (log : List Event) : Prop :=
  ∃ after, SinceDown log after ∧ ∃ e ∈ after, WritesConfig paths e ∧ isFailedWrite e = true

/-- Interfaces were taken down and brought up, and no write of a configuration file failed. -/
def RestartsWell (paths : NetPaths) (log : List Event) : Prop :=
  ∃ after, SinceDown log after ∧ (∃ c answer, .ran c answer ∈ after ∧ c.name = "ifup")
    ∧ ∀ e ∈ after, WritesConfig paths e → isFailedWrite e = false

/-- The addresses or the name servers of the host are not as they should be. -/
def FailsValidation {α : Type} (r : Except Error α) : Prop :=
  ∃ e, r = .error (.context "Validating static network configuration" e)
    ∨ r = .error (.context "Validating DNS configuration" e)

/-- No interface is touched, and no client is killed: no line starts with one of the tools for that. -/
def Calm (log : List Event) : Prop :=
  ∀ line ∈ linesIn log, ∀ tool ∈ ["ifdown", "ifup", "pkill"], Text.hasStart tool line = false

/-- The phase tells how far a pass got with the networks. -/
structure TellsHowFar {α : Type} (paths : NetPaths) (networks : Networks) (log : List Event)
    (r : Except Error α) (phase : Phase) : Prop where
  /-- no phase was entered out of order -/
  inOrder : ∀ e source target, r = .error e → .invalidTransition source target ∉ e.causes
  not_written : phase ≠ .written
  validated_iff : phase = .validated ↔ (∃ a, r = .ok a) ∧ networks.isPreconfigured = false
  stopped_iff : phase = .stopped ↔ FailsToWrite paths log
  started_iff : phase = .started ↔ RestartsWell paths log ∧ FailsValidation r
  idle : phase = .idle → Calm log

/-! ## 2. Logs -/

section

variable {paths : NetPaths} {networks : Networks} {a b log after resolver kernel check : List Event}

theorem calm_append : Calm (a ++ b) ↔ Calm a ∧ Calm b := by
  unfold Calm
  rw [linesIn_append, List.forall_mem_append]

/-- A log is calm when its commands are of three other tools. -/
theorem calm_of_names (h : ∀ c ∈ commandsIn log, c.name ∈ ["resolvconf", "sysctl", "ip"]) :
    Calm log := by
  have hother : ∀ name ∈ ["resolvconf", "sysctl", "ip"], ∀ tool ∈ ["ifdown", "ifup", "pkill"],
      ¬ tool.toList <+: name.toList ∧ ¬ name.toList <+: tool.toList := by decide
  intro line hline tool htool
  obtain ⟨c, hc, rfl⟩ := List.mem_map.mp hline
  exact not_hasStart c.text_starts (hother c.name (h c hc) tool htool)

theorem ResolverWork.calm (h : ResolverWork paths resolver) : Calm resolver := by
  refine calm_of_names fun c hc => ?_
  rw [h.command hc]
  decide

theorem KernelWork.calm (h : KernelWork kernel) : Calm kernel := by
  obtain ⟨commands, hran, hall⟩ := h.ran
  refine calm_of_names fun c hc => ?_
  rw [hran.commandsIn_eq] at hc
  obtain ⟨switch, rfl⟩ := hall c hc
  simp [setSwitchLine]

theorem CheckWork.calm (h : CheckWork check) : Calm check := by
  obtain ⟨commands, hran, hall⟩ := h.ran
  refine calm_of_names fun c hc => ?_
  rw [hran.commandsIn_eq] at hc
  rw [hall c hc]
  decide

/-- No command of a calm log takes interfaces down. -/
theorem Calm.name_ne (h : Calm log) {c : CommandLine} (hc : c ∈ commandsIn log) :
    c.name ≠ "ifdown" := by
  intro hname
  have hstart : Text.hasStart c.name c.text = true := Text.startsWith_iff.mpr c.text_starts
  have hline := h c.text (List.mem_map_of_mem hc) "ifdown" List.mem_cons_self
  rw [hname, hline] at hstart
  cases hstart

theorem SinceDown.mem (h : SinceDown log after) {e : Event} (he : e ∈ after) : e ∈ log := by
  obtain ⟨before, c, answer, rfl, -⟩ := h
  exact List.mem_append_right _ (List.mem_cons_of_mem _ he)

/-- Nothing is since interfaces were taken down when none were. -/
theorem Calm.not_sinceDown (h : Calm log) : ¬ SinceDown log after := by
  intro hsince
  obtain ⟨before, c, answer, rfl, hname⟩ := hsince
  refine h.name_ne ?_ hname
  rw [commandsIn_append]
  exact List.mem_append_right _ List.mem_cons_self

/-- What comes before interfaces are taken down does not count. -/
theorem sinceDown_append (h : Calm a) : SinceDown (a ++ b) after ↔ SinceDown b after := by
  constructor
  · intro hsince
    obtain ⟨before, c, answer, hsplit, hname⟩ := hsince
    rcases List.append_eq_append_iff.mp hsplit with ⟨more, rfl, hmore⟩ | ⟨more, ha, hmore⟩
    · exact ⟨more, c, answer, hmore, hname⟩
    · cases more with
      | nil => exact ⟨[], c, answer, hmore.symm, hname⟩
      | cons e more =>
        -- then the command is one of the first log
        have he : e = .ran c answer := (List.cons.inj hmore).1.symm
        refine absurd hname (h.name_ne ?_)
        rw [ha, commandsIn_append, he]
        exact List.mem_append_right _ List.mem_cons_self
  · intro hsince
    obtain ⟨before, c, answer, rfl, hname⟩ := hsince
    exact ⟨a ++ before, c, answer, (List.append_assoc _ _ _).symm, hname⟩

/-- A log of commands has no failed write. -/
theorem ranOnly_not_failed {commands : List CommandLine} (h : RanOnly commands log) {e : Event}
    (he : e ∈ log) : isFailedWrite e = false := by
  obtain ⟨c, -, answer, rfl⟩ := h.ran he
  rfl

theorem CheckWork.not_failed (h : CheckWork check) {e : Event} (he : e ∈ check) :
    isFailedWrite e = false := by
  obtain ⟨commands, hran, -⟩ := h.ran
  exact ranOnly_not_failed hran he

theorem failsToWrite_append (h : Calm a) : FailsToWrite paths (a ++ b) ↔ FailsToWrite paths b := by
  simp only [FailsToWrite, sinceDown_append h]

theorem restartsWell_append (h : Calm a) : RestartsWell paths (a ++ b) ↔ RestartsWell paths b := by
  simp only [RestartsWell, sinceDown_append h]

/-- Nothing fails to be written in a log without a failed write. -/
theorem not_failsToWrite (h : ∀ e ∈ log, isFailedWrite e = false) : ¬ FailsToWrite paths log := by
  intro hfails
  obtain ⟨after, hsince, e, he, -, hfailed⟩ := hfails
  rw [h e (hsince.mem he)] at hfailed
  cases hfailed

/-! ## 3. Restarts -/

variable {config : NetworkConfig} {interfaces : List String} {h : Scripted}

/-- A restart whose files were written has no failed write. -/
theorem Restarted.not_failed {changed : Bool}
    (hr : Restarted paths config interfaces h log (.ok changed)) {e : Event} (he : e ∈ log) :
    isFailedWrite e = false := by
  cases hr with
  | @intro quiet writes down up h₁ _ calm _ writing =>
    rcases List.mem_append.mp he with he | he
    · exact ranOnly_not_failed calm he
    · rcases List.mem_cons.mp he with rfl | he
      · rfl
      · rcases List.mem_append.mp he with he | he
        · rw [← Bool.not_eq_true]
          intro hfailed
          obtain ⟨_, hr⟩ := writing.failed.mpr ⟨e, he, hfailed⟩
          cases hr
        · rw [List.mem_singleton.mp he]
          rfl

theorem Restarted.well {changed : Bool}
    (hr : Restarted paths config interfaces h log (.ok changed))
    (hcheck : ∀ e ∈ check, isFailedWrite e = false) : RestartsWell paths (log ++ check) := by
  have hwritten : ∀ e ∈ log ++ check, isFailedWrite e = false := fun e he =>
    (List.mem_append.mp he).elim (fun he => hr.not_failed he) (hcheck e)
  cases hr with
  | @intro quiet writes down up h₁ _ _ _ _ =>
    have hsince : SinceDown (quiet ++ .ran (takeDown config.interfaceNames) down
        :: (writes ++ [.ran (bringUp config.interfaceNames) up]) ++ check)
          (writes ++ [.ran (bringUp config.interfaceNames) up] ++ check) :=
      ⟨quiet, takeDown config.interfaceNames, down,
        by simp only [List.append_assoc, List.cons_append], rfl⟩
    refine ⟨_, hsince, ⟨bringUp config.interfaceNames, up, ?_, rfl⟩, fun e he _ => ?_⟩
    · exact List.mem_append_left _ (List.mem_append_right _ (List.mem_singleton_self _))
    · exact hwritten e (hsince.mem he)

theorem Restarted.fails {e : Error} (hr : Restarted paths config interfaces h log (.error e)) :
    FailsToWrite paths log := by
  cases hr with
  | @intro quiet writes down up h₁ _ _ _ writing =>
    obtain ⟨e, he, hfailed⟩ := writing.failed.mp ⟨_, rfl⟩
    exact ⟨_, ⟨quiet, _, down, rfl, rfl⟩, e, List.mem_append_left _ he, writing.writes he, hfailed⟩

/-! ## 4. One pass -/

variable {α β : Type} {r : Except Error α} {phase : Phase}

theorem tells_inOrder (h : InOrder r) (e : Error) (source target : String) (hr : r = .error e) :
    .invalidTransition source target ∉ e.causes :=
  Error.not_mem_causes_of_inOrder (h e hr) source target

/-- A pass that leaves the interfaces alone ends where it starts, or all is well. -/
theorem TellsHowFar.of_calm (hcalm : Calm log) (hinOrder : InOrder r)
    (hphase : phase = .idle ∧ ((∃ e, r = .error e) ∨ networks.isPreconfigured = true)
      ∨ phase = .validated ∧ (∃ a, r = .ok a) ∧ networks.isPreconfigured = false) :
    TellsHowFar paths networks log r phase := by
  have hfails : ¬ FailsToWrite paths log := fun ⟨_, hsince, _⟩ => hcalm.not_sinceDown hsince
  have hrestarts : ¬ RestartsWell paths log := fun ⟨_, hsince, _⟩ => hcalm.not_sinceDown hsince
  rcases hphase with ⟨rfl, hend⟩ | ⟨rfl, hdone⟩
  · refine ⟨tells_inOrder hinOrder, nofun, ⟨nofun, fun h => ?_⟩, ⟨nofun, fun h => absurd h hfails⟩,
      ⟨nofun, fun h => absurd h.1 hrestarts⟩, fun _ => hcalm⟩
    obtain ⟨⟨a, rfl⟩, hpre⟩ := h
    rcases hend with ⟨e, he⟩ | hend
    · cases he
    · rw [hpre] at hend
      cases hend
  · exact ⟨tells_inOrder hinOrder, nofun, ⟨fun _ => hdone, fun _ => rfl⟩,
      ⟨nofun, fun h => absurd h hfails⟩, ⟨nofun, fun h => absurd h.1 hrestarts⟩, nofun⟩

/-- A pass that restarts interfaces with all files written ends there, or all is well. -/
theorem TellsHowFar.of_restart (hpre : networks.isPreconfigured = false)
    (hwell : RestartsWell paths log) (hwritten : ¬ FailsToWrite paths log) (hinOrder : InOrder r)
    (hphase : phase = .started ∧ FailsValidation r ∨ phase = .validated ∧ ∃ a, r = .ok a) :
    TellsHowFar paths networks log r phase := by
  rcases hphase with ⟨rfl, hfails⟩ | ⟨rfl, a, rfl⟩
  · refine ⟨tells_inOrder hinOrder, nofun, ⟨nofun, fun h => ?_⟩, ⟨nofun, fun h => absurd h hwritten⟩,
      ⟨fun _ => ⟨hwell, hfails⟩, fun _ => rfl⟩, nofun⟩
    obtain ⟨⟨a, rfl⟩, -⟩ := h
    obtain ⟨e, he | he⟩ := hfails
    · cases he
    · cases he
  · refine ⟨tells_inOrder hinOrder, nofun, ⟨fun _ => ⟨⟨a, rfl⟩, hpre⟩, fun _ => rfl⟩,
      ⟨nofun, fun h => absurd h hwritten⟩, ⟨nofun, fun h => ?_⟩, nofun⟩
    obtain ⟨-, e, he | he⟩ := h
    · cases he
    · cases he

/-- A pass whose files could not be written ends with that error. -/
theorem TellsHowFar.of_stop {e : Error} (hfails : FailsToWrite paths log)
    (hinOrder : e.inOrder = true) :
    TellsHowFar paths networks log
      (.error (.context "Updating network configuration" e) : Except Error α) .stopped := by
  refine ⟨tells_inOrder (.error hinOrder), nofun, ⟨nofun, fun h => ?_⟩,
    ⟨fun _ => hfails, fun _ => rfl⟩, ⟨nofun, fun h => ?_⟩, nofun⟩
  · obtain ⟨⟨a, ha⟩, -⟩ := h
    cases ha
  · obtain ⟨-, e', he | he⟩ := h
    · exact absurd (Error.context.inj (Except.error.inj he)).1 (by decide)
    · exact absurd (Error.context.inj (Except.error.inj he)).1 (by decide)

/-- What comes before does not matter when it is calm. -/
theorem TellsHowFar.after_calm (ha : Calm a) (h : TellsHowFar paths networks b r phase) :
    TellsHowFar paths networks (a ++ b) r phase := by
  refine ⟨h.inOrder, h.not_written, h.validated_iff, ?_, ?_, fun hidle => ?_⟩
  · rw [failsToWrite_append ha]
    exact h.stopped_iff
  · rw [restartsWell_append ha]
    exact h.started_iff
  · exact calm_append.mpr ⟨ha, h.idle hidle⟩

theorem map_eq_error {f : α → β} {e : Error} : r.map f = .error e ↔ r = .error e := by
  cases r with
  | ok a => exact ⟨nofun, nofun⟩
  | error e' => exact ⟨fun h => by cases h; rfl, fun h => by cases h; rfl⟩

theorem map_eq_ok {f : α → β} : (∃ b, r.map f = .ok b) ↔ ∃ a, r = .ok a := by
  cases r with
  | ok a => exact ⟨fun _ => ⟨a, rfl⟩, fun _ => ⟨f a, rfl⟩⟩
  | error e => exact ⟨nofun, nofun⟩

/-- The value of a pass does not matter. -/
theorem TellsHowFar.map (f : α → β) (h : TellsHowFar paths networks log r phase) :
    TellsHowFar paths networks log (r.map f) phase := by
  refine ⟨?_, h.not_written, ?_, h.stopped_iff, ?_, h.idle⟩
  · simpa only [map_eq_error] using h.inOrder
  · simpa only [map_eq_ok] using h.validated_iff
  · simpa only [FailsValidation, map_eq_error] using h.started_iff

/-- **From the detection of interfaces on** the phase tells how far the pass got. -/
theorem Course.tells {r : Except Error (List InterfaceAddress)}
    (hpre : networks.isPreconfigured = false) (hc : Course paths networks h log r phase) :
    TellsHowFar paths networks log r phase := by
  cases hc with
  | unknown _ inOrder =>
    have hcalm : Calm [] := fun c hc => by cases hc
    exact .of_calm hcalm (.error inOrder) (Or.inl ⟨rfl, Or.inl ⟨_, rfl⟩⟩)
  | refused _ onKernel inOrder =>
    exact .of_calm onKernel.calm (.error inOrder) (Or.inl ⟨rfl, Or.inl ⟨_, rfl⟩⟩)
  | stopped _ onKernel _ files =>
    cases files with
    | stopped _ restart inOrder => exact .after_calm onKernel.calm (.of_stop restart.fails inOrder)
  | @checked _ _ kernel bounce check _ _ r' phase₁ _ _ onKernel _ files _ checks =>
    have hchecked : InOrder r' := by
      cases checks with
      | misaddressed _ inOrder => exact .error inOrder
      | unresolved _ inOrder => exact .error inOrder
      | passed _ _ _ => exact .ok ()
    have hcheck := checks.checkWork
    refine .map _ ?_
    rw [List.append_assoc]
    refine .after_calm onKernel.calm ?_
    cases files with
    | unchanged _ =>
      refine .of_calm hcheck.calm hchecked ?_
      cases checks with
      | misaddressed _ _ => exact Or.inl ⟨rfl, Or.inl ⟨_, rfl⟩⟩
      | unresolved _ _ => exact Or.inl ⟨rfl, Or.inl ⟨_, rfl⟩⟩
      | passed _ _ _ => exact Or.inr ⟨rfl, ⟨(), rfl⟩, hpre⟩
    | restarted _ restart =>
      have hwritten : ∀ e ∈ bounce ++ check, isFailedWrite e = false := fun e he =>
        (List.mem_append.mp he).elim (fun he => restart.not_failed he) fun he => hcheck.not_failed he
      refine .of_restart hpre (restart.well fun e he => hcheck.not_failed he)
        (not_failsToWrite hwritten) hchecked ?_
      cases checks with
      | misaddressed _ _ => exact Or.inl ⟨rfl, _, Or.inl rfl⟩
      | unresolved _ _ => exact Or.inl ⟨rfl, _, Or.inr rfl⟩
      | passed _ _ _ => exact Or.inr ⟨rfl, (), rfl⟩

/-- **After one pass, from any phase on**, the phase tells how far the pass got. -/
theorem NetworkPass.tells {a : Agent Scripted} {r : Except Error (Option (List InterfaceAddress))}
    (hp : NetworkPass paths networks a log r phase) : TellsHowFar paths networks log r phase := by
  cases hp with
  | preconfigured pre onResolver inOrder =>
    exact .of_calm onResolver.calm inOrder (Or.inl ⟨rfl, Or.inr pre⟩)
  | configured pre onResolver _ course =>
    exact .after_calm onResolver.calm (.map _ (course.tells pre))

end

/-! ## 5. One pass after another -/

/-- A pass over the network that was made. -/
structure PassMade where
  networks : Networks
  before : Agent Scripted
  result : Except Error (Option (List InterfaceAddress))
  after : Agent Scripted

/-- What a pass that was made has asked of its host. -/
def PassMade.log (paths : NetPaths) (pass : PassMade) : List Event :=
  logBy (setupNetworking paths pass.networks) pass.before

/-- Passes by one agent, each over the networks and on the host that are given for it. What the agent
    remembers goes from each pass to the next. -/
def passesFrom (paths : NetPaths) (a : Agent Scripted) : List (Networks × Scripted) → List PassMade
  | [] => []
  | (networks, host) :: more =>
    let before := { a with host }
    let (result, after) := setupNetworking paths networks before
    ⟨networks, before, result, after⟩ :: passesFrom paths after more

/-- **After every pass of a sequence the phase tells exactly how far that pass got**, whatever the
    networks, the hosts and the scripts: no phase is entered out of order, and the phase is validated
    after a pass that ends well with networks to configure, stopped after a failed write, started
    after a failed check of restarted interfaces, and otherwise idle, with no interface touched. -/
theorem passesFrom_tell (paths : NetPaths) (a : Agent Scripted) (l : List (Networks × Scripted)) :
    ∀ pass ∈ passesFrom paths a l, Leads (pass.log paths) pass.before.host pass.after.host
      ∧ pass.after.host.commands = pass.before.host.commands ++ linesIn (pass.log paths)
      ∧ TellsHowFar paths pass.networks (pass.log paths) pass.result pass.after.phase := by
  induction l generalizing a with
  | nil => exact fun pass hpass => by cases hpass
  | cons call more ih =>
    obtain ⟨networks, host⟩ := call
    intro pass hpass
    rcases List.mem_cons.mp hpass with rfl | hpass
    · obtain ⟨hlog, hgoes⟩ :=
        NetworkPass.of_eq (Prod.eta (setupNetworking paths networks { a with host })).symm
      exact ⟨hlog, hlog.recorded.1, hgoes.tells⟩
    · exact ih _ pass hpass

/-- One network with a fixed address. -/
def fixedNetwork : Networks :=
  NameMap.ofList
    [("private", { ip := "10.0.0.5", netmask := "255.255.255.0", mac := "00:15:5d:00:00:01" })]

/-- A host with one interface, which reports no addresses. -/
def oneInterface : Scripted :=
  ({} : Scripted).addNetworkDevice ⟨"/sys/class/net"⟩ "eth0" "00:15:5d:00:00:01"

/-- Four passes: a file cannot be written, an address is missing, all is well, there is no
    interface. -/
def fourCalls : List (Networks × Scripted) :=
  [(leasedNetwork, failingHost.host), (fixedNetwork, oneInterface), (leasedNetwork, oneInterface),
    (leasedNetwork, {})]

/-- Each of the four passes ends in a phase of its own. Only the first one has asked in vain for a
    file to be written, and it ends accordingly. -/
theorem passesFrom_tell_fourCalls :
    (passesFrom {} { host := {} } fourCalls).map (fun pass => pass.after.phase)
        = [.stopped, .started, .validated, .idle]
      ∧ (passesFrom {} { host := {} } fourCalls).map (fun pass =>
          (linesIn (pass.log {})).map (Text.hasStart "ifdown"))
        = [[false, false, true, false], [false, false, true, false, false],
          [false, false, true, false], []]
      ∧ (passesFrom {} { host := {} } fourCalls).map (fun pass => (pass.log {}).any isFailedWrite)
        = [true, false, false, false]
      ∧ ∃ first, (passesFrom {} { host := {} } fourCalls).head? = some first
        ∧ FailsToWrite {} (first.log {}) := by
  refine ⟨by decide +kernel, by decide +kernel, by decide +kernel, _, rfl, ?_⟩
  obtain ⟨-, -, htells⟩ := passesFrom_tell {} { host := {} } fourCalls _ List.mem_cons_self
  exact htells.stopped_iff.mp (by decide +kernel)

end HostAgent.Net
