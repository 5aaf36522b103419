import HostAgent.Proofs.FileSystem
import HostAgent.Proofs.Net.Order

/-!
# What the configuration files hold

Whether the configuration files hold the texts of a configuration decides whether interfaces are
restarted. Bringing them there either succeeds, and then they do, or it ends in an error, and then
they do not: a write that failed is seen by the next pass. This needs that both files are files of
their own and not links.

* `FilesConverged.held` -- the files hold their texts exactly when they could be written;
* `Converges.held` -- the same for the part of a pass that may restart interfaces.
-/

namespace HostAgent

/-! ## 1. One file -/

namespace Scripted

variable {h h' : Scripted} {p : Path} {bs : Bytes}

theorem linkAt?_congr (hlinks : h'.links = h.links) (p : Path) : h'.linkAt? p = h.linkAt? p := by
  unfold linkAt?
  rw [hlinks]

theorem holds_congr (hfile : h'.fileAt? p = h.fileAt? p) : holds h' p bs = holds h p bs := by
  rw [Bool.eq_iff_iff, holds_iff, holds_iff, hfile]

end Scripted

namespace Net

/-! ## 2. Both files -/

/-- The configuration files are two, and no links. -/
structure FilesPlain (paths : NetPaths) (h : Scripted) : Prop where
  distinct : paths.interfaces.components ≠ paths.dhclientConf.components
  interfaces : h.linkAt? paths.interfaces = none
  dhclientConf : h.linkAt? paths.dhclientConf = none

section

variable {paths : NetPaths} {config : NetworkConfig} {path : Path} {text : String}
  {log : List Event} {r : Except Error Bool} {h h' : Scripted}

theorem FilesPlain.of_nodup (hd : (filePlaces paths).Nodup)
    (hinterfaces : h.linkAt? paths.interfaces = none)
    (hdhclientConf : h.linkAt? paths.dhclientConf = none) : FilesPlain paths h := by
  refine ⟨fun heq => ?_, hinterfaces, hdhclientConf⟩
  refine (List.nodup_cons.mp hd).1 ?_
  rw [heq]
  exact List.mem_cons_self

theorem FilesApart.filesPlain (ha : FilesApart paths h) : FilesPlain paths h :=
  .of_nodup ha.distinct ha.interfaces ha.dhclientConf

theorem FilesPlain.of_same (hp : FilesPlain paths h) (hlinks : h'.links = h.links) :
    FilesPlain paths h' :=
  ⟨hp.distinct, (Scripted.linkAt?_congr hlinks _).trans hp.interfaces,
    (Scripted.linkAt?_congr hlinks _).trans hp.dhclientConf⟩

/-- A log that puts no link at a configuration file leaves them plain. -/
theorem FilesPlain.after (hp : FilesPlain paths h) (hl : Leads log h h')
    (hno : ∀ target path answer, .linked target path answer ∈ log →
      path.components ≠ paths.interfaces.components
        ∧ path.components ≠ paths.dhclientConf.components) : FilesPlain paths h' :=
  ⟨hp.distinct,
    (hl.link_kept fun target path answer he => (hno target path answer he).1).trans hp.interfaces,
    (hl.link_kept fun target path answer he => (hno target path answer he).2).trans hp.dhclientConf⟩

/-- What the files hold follows from the bytes in them. -/
theorem filesHold_congr (hfiles : ∀ p, IsConfigFile paths p → h'.fileAt? p = h.fileAt? p) :
    filesHold paths h' config = filesHold paths h config := by
  unfold filesHold
  rw [Scripted.holds_congr (hfiles _ (Or.inl rfl))]
  refine congrArg _ ?_
  cases config.dhclient? with
  | none => rfl
  | some text =>
    exact Scripted.holds_congr (hfiles _ (Or.inr rfl))

/-- Commands do not matter for what the files hold. -/
theorem filesHold_script (recorded : List String) (queued : List (String × List Reply)) :
    filesHold paths { h with commands := recorded, queued } config = filesHold paths h config := rfl

theorem filesHold_of_ranOnly (config : NetworkConfig) {commands : List CommandLine}
    (hran : RanOnly commands log) (hl : Leads log h h') :
    filesHold paths h' config = filesHold paths h config
      ∧ (FilesPlain paths h → FilesPlain paths h') := by
  obtain ⟨recorded, queued, rfl⟩ := hran.host hl
  exact ⟨filesHold_script recorded queued, fun hp => ⟨hp.distinct, hp.interfaces, hp.dhclientConf⟩⟩

/-- **The file holds its text exactly when it could be written**, if it is no link; no other file
    changes, and no link. -/
theorem TextConverged.held (ht : TextConverged path text h log r) (hl : Leads log h h')
    (hp : h.linkAt? path = none) :
    holds h' path (Utf8.encode text) = r.isOk ∧ h'.links = h.links
      ∧ ∀ p : Path, h.linkAt? p = none → path.components ≠ p.components →
        h'.fileAt? p = h.fileAt? p := by
  cases ht with
  | kept held =>
    cases hl
    exact ⟨held, rfl, fun _ _ _ => rfl⟩
  | written answer stale =>
    cases hl with
    | cons hwrote hnil =>
      cases hnil
      have hsnd : (h.writeAt path (Utf8.encode text)).2 = h' := congrArg Prod.snd hwrote
      obtain ⟨hlinks, hfiles⟩ := Scripted.writeAt_of_plain (Utf8.encode text) hp
      rw [hsnd] at hlinks hfiles
      have hlink := Scripted.linkAt?_congr hlinks
      refine ⟨?_, hlinks, fun p hplain hne => ?_⟩
      · rcases Scripted.write_read hwrote with ⟨rfl, hfile⟩ | ⟨⟨e, rfl⟩, rfl⟩
        · exact Scripted.holds_iff.mpr hfile
        · exact stale
      · have hplain' : h'.linkAt? p = none := (hlink p).trans hplain
        rw [Scripted.fileAt?_of_plain hplain, Scripted.fileAt?_of_plain hplain',
          hfiles p.components hne]

/-- **The files hold their texts exactly when they could be written.** -/
theorem FilesConverged.held (hf : FilesConverged paths config h log r) (hl : Leads log h h')
    (hp : FilesPlain paths h) :
    filesHold paths h' config = r.isOk ∧ FilesPlain paths h' := by
  cases hf with
  | stuck first =>
    obtain ⟨hheld, hlinks, -⟩ := first.held hl hp.interfaces
    refine ⟨?_, hp.of_same hlinks⟩
    rw [filesHold, hheld]
    rfl
  | alone alone first =>
    obtain ⟨hheld, hlinks, -⟩ := first.held hl hp.interfaces
    refine ⟨?_, hp.of_same hlinks⟩
    rw [filesHold, hheld, alone]
    rfl
  | @both log more t text changed r leased first leads second =>
    have hsecond := hl.rest leads
    obtain ⟨hheld, hlinks, hfiles⟩ := first.held leads hp.interfaces
    have hp₁ := hp.of_same hlinks
    obtain ⟨hheld', hlinks', hfiles'⟩ := second.held hsecond hp₁.dhclientConf
    have hp₂ := hp₁.of_same hlinks'
    -- the second write leaves the first file as it is
    have hkept : holds h' paths.interfaces (Utf8.encode config.interfaces) = true := by
      rw [Scripted.holds_congr (hfiles' paths.interfaces hp₁.interfaces hp.distinct.symm), hheld]
      rfl
    refine ⟨?_, hp₂⟩
    rw [filesHold, hkept, leased, Bool.true_and]
    show holds h' paths.dhclientConf (Utf8.encode text) = _
    rw [hheld']
    cases r with
    | ok _ => rfl
    | error _ => rfl

/-- The same for a whole restart. -/
theorem Restarted.held {interfaces : List String}
    (hr : Restarted paths config interfaces h log r) (hl : Leads log h h')
    (hp : FilesPlain paths h) : filesHold paths h' config = r.isOk ∧ FilesPlain paths h' := by
  cases hr with
  | @intro quiet writes down up h₁ _ calm stopping writing =>
    have hsplit : quiet ++ .ran (takeDown config.interfaceNames) down
        :: (writes ++ [.ran (bringUp config.interfaceNames) up])
          = (quiet ++ [.ran (takeDown config.interfaceNames) down])
            ++ (writes ++ [.ran (bringUp config.interfaceNames) up]) := by
      rw [List.append_assoc, List.singleton_append]
    rw [hsplit] at hl
    obtain ⟨u, hwrites, hup⟩ := leads_append.mp (hl.rest stopping)
    obtain ⟨v, hcalm, hdown⟩ := leads_append.mp stopping
    have hplain : FilesPlain paths h₁ :=
      (filesHold_of_ranOnly config (.cons ⟨down, rfl⟩ .nil) hdown).2
        ((filesHold_of_ranOnly config calm hcalm).2 hp)
    obtain ⟨hheld, hplain'⟩ := writing.held hwrites hplain
    obtain ⟨hsame, hafter⟩ := filesHold_of_ranOnly config
      (.cons ⟨up, rfl⟩ .nil : RanOnly [bringUp config.interfaceNames] _) hup
    exact ⟨hsame.trans hheld, hafter hplain'⟩

/-- **What the files hold after a pass has brought them there**: their texts, unless a write
    failed. -/
theorem Converges.held {interfaces : List String} {r : Except Error Unit} {phase : Phase}
    (hc : Converges paths config interfaces h log r phase) (hl : Leads log h h')
    (hp : FilesPlain paths h) : filesHold paths h' config = r.isOk ∧ FilesPlain paths h' := by
  cases hc with
  | unchanged held =>
    cases hl
    exact ⟨held, hp⟩
  | restarted _ restart => exact restart.held hl hp
  | stopped _ restart _ => exact restart.held hl hp

/-- What a file holds, as bytes. -/
theorem filesHold_iff :
    filesHold paths h config = true
      ↔ h.fileAt? paths.interfaces = some (Utf8.encode config.interfaces)
        ∧ ∀ text, config.dhclient? = some text →
          h.fileAt? paths.dhclientConf = some (Utf8.encode text) := by
  unfold filesHold
  rw [Bool.and_eq_true, Scripted.holds_iff]
  refine and_congr_right fun _ => ?_
  cases config.dhclient? with
  | none => exact ⟨fun _ => nofun, fun _ => rfl⟩
  | some text =>
    refine Scripted.holds_iff.trans ⟨fun hfile text' heq => ?_, fun hall => ?_⟩
    · cases heq
      exact hfile
    · exact hall text rfl

/-! ## 3. A whole pass -/

theorem Configured.unique {networks : Networks} {found found' : NameMap String}
    {config' : NetworkConfig} (hk : Configured paths networks h found config)
    (hk' : Configured paths networks h found' config') : found = found' ∧ config = config' := by
  have hfound : found = found' := Except.ok.inj (hk.macs.symm.trans hk'.macs)
  rw [← hfound] at hk'
  exact ⟨hfound, Except.ok.inj (hk.records.symm.trans hk'.records)⟩

/-- The resolver's part puts no link at a configuration file. -/
theorem ResolverWork.plain {resolver : List Event} (hw : ResolverWork paths resolver)
    (hl : Leads resolver h h') (hd : (filePlaces paths).Nodup) (hp : FilesPlain paths h) :
    FilesPlain paths h' := by
  refine hp.after hl fun target path answer he => ?_
  obtain rfl : path = paths.resolvConf := hw.about _ he
  exact ⟨fun heq => not_written_resolvConf hd (Or.inl heq),
    fun heq => not_written_resolvConf hd (Or.inr (Or.inl heq))⟩

/-- The resolver's part leaves the configuration files as they are. -/
theorem ResolverWork.held (config : NetworkConfig) {resolver : List Event}
    (hw : ResolverWork paths resolver) (hl : Leads resolver h h') (ha : FilesApart paths h) :
    filesHold paths h' config = filesHold paths h config :=
  filesHold_congr fun _ hp =>
    fileAt?_of_harmless hl ha.distinct ha.plain (fun e he => Or.inl (hw.about e he)) hp

theorem KernelWork.held (config : NetworkConfig) {kernel : List Event} (hk : KernelWork kernel)
    (hl : Leads kernel h h') : filesHold paths h' config = filesHold paths h config
      ∧ (FilesPlain paths h → FilesPlain paths h') := by
  obtain ⟨commands, hran, -⟩ := hk.ran
  exact filesHold_of_ranOnly config hran hl

theorem CheckWork.held (config : NetworkConfig) {check : List Event} (hc : CheckWork check)
    (hl : Leads check h h') : filesHold paths h' config = filesHold paths h config
      ∧ (FilesPlain paths h → FilesPlain paths h') := by
  obtain ⟨commands, hran, -⟩ := hc.ran
  exact filesHold_of_ranOnly config hran hl

/-- **After a pass the phase tells what the files hold**: their texts once interfaces are started or
    the host is validated, and not their texts while interfaces count as stopped. -/
theorem Course.held {networks : Networks} {found : NameMap String}
    {r : Except Error (List InterfaceAddress)} {phase : Phase}
    (hc : Course paths networks h log r phase) (hl : Leads log h h') (hp : FilesPlain paths h)
    (hknown : Configured paths networks h found config) :
    (phase = .started ∨ phase = .validated → filesHold paths h' config = true)
      ∧ (phase = .stopped → filesHold paths h' config = false) ∧ FilesPlain paths h' := by
  have hidle : ∀ {h'}, FilesPlain paths h' → (Phase.idle = .started ∨ Phase.idle = .validated →
      filesHold paths h' config = true) ∧ (Phase.idle = .stopped → filesHold paths h' config = false)
        ∧ FilesPlain paths h' := fun hplain => by
    refine ⟨fun h => ?_, nofun, hplain⟩
    rcases h with h | h
    · cases h
    · cases h
  cases hc with
  | unknown _ _ =>
    cases hl
    exact hidle hp
  | refused _ onKernel _ => exact hidle ((onKernel.held config hl).2 hp)
  | @stopped found' config' kernel bounce h₁ e _ known onKernel leads files =>
    obtain ⟨rfl, rfl⟩ := hknown.unique known
    obtain ⟨hheld, hplain⟩ := files.held (hl.rest leads) ((onKernel.held config leads).2 hp)
    cases files with
    | stopped _ _ _ =>
      refine ⟨fun h => ?_, fun _ => hheld, hplain⟩
      rcases h with h | h
      · cases h
      · cases h
  | @checked found' config' kernel bounce check h₁ h₂ r' phase₁ _ known onKernel leads files
      restarting checks =>
    obtain ⟨rfl, rfl⟩ := hknown.unique known
    have hcheck : Leads check h₂ h' := hl.rest (leads.append restarting)
    obtain ⟨hheld, hplain⟩ := files.held restarting ((onKernel.held config leads).2 hp)
    obtain ⟨hsame, hafter⟩ := checks.checkWork.held config hcheck
    have hphase : phase ≠ .stopped := by
      cases checks with
      | passed _ _ _ => nofun
      | misaddressed _ _ => cases files <;> nofun
      | unresolved _ _ => cases files <;> nofun
    exact ⟨fun _ => hsame.trans hheld, fun h => absurd h hphase, hafter hplain⟩

end

end Net

end HostAgent
