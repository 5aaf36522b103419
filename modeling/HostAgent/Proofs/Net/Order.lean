import HostAgent.Proofs.Net.Course

/-!
# The order of a pass over the network

The log of a whole pass falls into four parts: work on the resolver, switches of the kernel, the
restart of interfaces, and a check. Each of the first and the last two may be missing or stop early,
but the restart is there as a whole or not at all.

* `NetworkPass.parts` -- the parts of the log;
* `Parts.files` -- the configuration files before and after the restart;
* `setupNetworking_restarts_whole` -- all of it, for every host.
-/

namespace HostAgent.Net

/-! ## 1. The parts -/

/-- The parts of a log of the pass over the network, from a host on. -/
structure Parts (paths : NetPaths) (networks : Networks) (h : Scripted)
    (resolver kernel bounce check : List Event) : Prop where
  onResolver : ResolverWork paths resolver
  onKernel : KernelWork kernel
  /-- interfaces are restarted as a whole: those of the host are found, and those that are
      configured on them are restarted -/
  restart : bounce = [] ∨ ∃ h₁ found config, Leads resolver h h₁
    ∧ macsUnder h₁ paths.sysClassNet = .ok found ∧ configOf networks found = .ok config
    ∧ config.interfaceNames ≠ [] ∧ Bounce paths found.values config.interfaceNames bounce
  checked : CheckWork check
  /-- only the resolver is looked after when every network is configured by other means -/
  preconfigured : networks.isPreconfigured = true → kernel = [] ∧ bounce = [] ∧ check = []

section

variable {paths : NetPaths} {networks : Networks} {a : Agent Scripted}

/-- A pass that stops before it has looked for interfaces. -/
theorem Parts.resolverOnly {h : Scripted} {resolver : List Event}
    (hresolver : ResolverWork paths resolver) : Parts paths networks h resolver [] [] [] :=
  ⟨hresolver, .nil, Or.inl rfl, Or.inl rfl, fun _ => ⟨rfl, rfl, rfl⟩⟩

/-- A way that a pass goes from the detection of interfaces on falls into parts. -/
theorem Course.parts {h h₀ : Scripted} {resolver rest : List Event}
    {r : Except Error (List InterfaceAddress)} {phase : Phase}
    (hc : Course paths networks h rest r phase) (hpre : networks.isPreconfigured = false)
    (hresolver : ResolverWork paths resolver) (hleads : Leads resolver h₀ h) :
    ∃ kernel bounce check, rest = kernel ++ bounce ++ check
      ∧ Parts paths networks h₀ resolver kernel bounce check := by
  have hparts : ∀ {kernel bounce check}, KernelWork kernel →
      (bounce = [] ∨ ∃ found config, Configured paths networks h found config
        ∧ Bounce paths found.values config.interfaceNames bounce) → CheckWork check →
      Parts paths networks h₀ resolver kernel bounce check := by
    intro kernel bounce check hkernel hbounce hcheck
    refine ⟨hresolver, hkernel, ?_, hcheck, fun hyes => ?_⟩
    · rcases hbounce with rfl | ⟨found, config, hknown, hbounce⟩
      · exact Or.inl rfl
      · exact Or.inr ⟨h, found, config, hleads, hknown.macs, hknown.records,
          interfaceNames_ne_nil hpre hknown.records, hbounce⟩
    · rw [hpre] at hyes
      cases hyes
  have hfiles : ∀ {found config h₁ bounce r phase}, Configured paths networks h found config →
      Converges paths config found.values h₁ bounce r phase →
        bounce = [] ∨ ∃ found config, Configured paths networks h found config
          ∧ Bounce paths found.values config.interfaceNames bounce := by
    intro found config h₁ bounce r phase hknown hc
    cases hc with
    | unchanged _ => exact Or.inl rfl
    | restarted _ restart => exact Or.inr ⟨found, config, hknown, restart.bounce⟩
    | stopped _ restart _ => exact Or.inr ⟨found, config, hknown, restart.bounce⟩
  cases hc with
  | unknown _ _ => exact ⟨[], [], [], rfl, hparts .nil (Or.inl rfl) (Or.inl rfl)⟩
  | refused _ onKernel _ =>
    exact ⟨rest, [], [], by simp only [List.append_nil],
      hparts onKernel (Or.inl rfl) (Or.inl rfl)⟩
  | @stopped _ _ kernel bounce _ _ _ known onKernel _ files =>
    exact ⟨kernel, bounce, [], by simp only [List.append_nil],
      hparts onKernel (hfiles known files) (Or.inl rfl)⟩
  | @checked _ _ kernel bounce check _ _ _ _ _ known onKernel _ files _ checks =>
    exact ⟨kernel, bounce, check, rfl, hparts onKernel (hfiles known files) checks.checkWork⟩

/-- **The log of the pass falls into its parts.** -/
theorem NetworkPass.parts {log : List Event} {r : Except Error (Option (List InterfaceAddress))}
    {phase : Phase} (h : NetworkPass paths networks a log r phase) :
    ∃ resolver kernel bounce check, log = resolver ++ kernel ++ bounce ++ check
      ∧ Parts paths networks a.host resolver kernel bounce check := by
  cases h with
  | preconfigured _ onResolver _ =>
    exact ⟨log, [], [], [], by simp only [List.append_nil], .resolverOnly onResolver⟩
  | @configured resolver rest _ _ pre onResolver leads course =>
    obtain ⟨kernel, bounce, check, rfl, hparts⟩ := course.parts pre onResolver leads
    exact ⟨resolver, kernel, bounce, check, by simp only [List.append_assoc], hparts⟩

end

/-! ## 2. Paths that are apart -/

/-- The places of the configured paths. -/
def placesOf (paths : NetPaths) : List Place :=
  [paths.interfaces, paths.dhclientConf, paths.resolvConf, paths.resolvconfBase,
    paths.resolvconfRun, paths.sysClassNet].map Path.components

/-- The places of the configured files. -/
def filePlaces (paths : NetPaths) : List Place :=
  [paths.interfaces, paths.dhclientConf, paths.resolvConf, paths.resolvconfBase,
    paths.resolvconfRun].map Path.components

/-- The configured paths are pairwise distinct, and those that are written are no links. -/
structure Apart (paths : NetPaths) (h : Scripted) : Prop where
  distinct : (placesOf paths).Nodup
  interfaces : h.linkAt? paths.interfaces = none
  dhclientConf : h.linkAt? paths.dhclientConf = none
  resolvconfBase : h.linkAt? paths.resolvconfBase = none

/-- The configured files are at different places, and those that are written are no links. -/
structure FilesApart (paths : NetPaths) (h : Scripted) : Prop where
  distinct : (filePlaces paths).Nodup
  interfaces : h.linkAt? paths.interfaces = none
  dhclientConf : h.linkAt? paths.dhclientConf = none
  resolvconfBase : h.linkAt? paths.resolvconfBase = none

/-- The places that are written. -/
def Written (paths : NetPaths) (place : Place) : Prop :=
  place = paths.interfaces.components ∨ place = paths.dhclientConf.components
    ∨ place = paths.resolvconfBase.components

/-- The path is that of a configuration file. -/
def IsConfigFile (paths : NetPaths) (p : Path) : Prop :=
  p = paths.interfaces ∨ p = paths.dhclientConf

/-- The request is one of the resolver's, or a command that takes no interface down or up. -/
def Harmless (paths : NetPaths) (e : Event) : Prop :=
  AboutResolver paths e
    ∨ ∃ c answer, e = .ran c answer ∧ c.name ≠ "ifdown" ∧ c.name ≠ "ifup"

section

variable {paths : NetPaths} {h h₁ h' : Scripted} {e : Event} {p : Path}

theorem IsConfigFile.written (hp : IsConfigFile paths p) : Written paths p.components := by
  rcases hp with rfl | rfl
  · exact Or.inl rfl
  · exact Or.inr (Or.inl rfl)

theorem Apart.files (ha : Apart paths h) : FilesApart paths h :=
  ⟨ha.distinct.sublist (List.sublist_append_left (filePlaces paths) [paths.sysClassNet.components]),
    ha.interfaces, ha.dhclientConf, ha.resolvconfBase⟩

theorem FilesApart.plain (ha : FilesApart paths h) : Scripted.Plain (Written paths) h := by
  intro place h
  rcases h with rfl | rfl | rfl
  · exact ha.interfaces
  · exact ha.dhclientConf
  · exact ha.resolvconfBase

/-- The resolver's configuration is at a place of its own. -/
theorem not_written_resolvConf (hd : (filePlaces paths).Nodup) :
    ¬ Written paths paths.resolvConf.components := by
  simp only [filePlaces, List.map_cons, List.map_nil, List.nodup_cons, List.mem_cons,
    List.not_mem_nil, or_false, not_or] at hd
  obtain ⟨⟨-, hi, -⟩, ⟨hd, -⟩, ⟨hr, -⟩, -⟩ := hd
  intro h'
  rcases h' with h | h | h
  · exact hi h.symm
  · exact hd h.symm
  · exact hr h

/-- So is its base. -/
theorem base_ne_configFile (hd : (filePlaces paths).Nodup) (hp : IsConfigFile paths p) :
    paths.resolvconfBase.components ≠ p.components := by
  simp only [filePlaces, List.map_cons, List.map_nil, List.nodup_cons, List.mem_cons,
    List.not_mem_nil, or_false, not_or] at hd
  obtain ⟨⟨-, -, hi, -⟩, ⟨-, hd, -⟩, -⟩ := hd
  rcases hp with rfl | rfl
  · exact fun h => hi h.symm
  · exact fun h => hd h.symm

theorem Harmless.respects (hd : (filePlaces paths).Nodup) (he : Harmless paths e) :
    e.Respects (Written paths) := by
  rcases he with he | ⟨c, answer, rfl, -⟩
  · cases e with
    | ran c answer => exact trivial
    | slept ms => exact trivial
    | wrote path contents answer =>
      cases he
      exact Or.inr (Or.inr rfl)
    | copied source target answer =>
      obtain ⟨-, rfl⟩ := he
      exact Or.inr (Or.inr rfl)
    | linked target path answer =>
      cases he
      exact not_written_resolvConf hd
  · exact trivial

theorem Harmless.spares (hd : (filePlaces paths).Nodup) (he : Harmless paths e)
    (hp : IsConfigFile paths p) : e.Spares p.components := by
  have hresolvConf : paths.resolvConf.components ≠ p.components := fun h =>
    not_written_resolvConf hd (h ▸ hp.written)
  rcases he with he | ⟨c, answer, rfl, -⟩
  · cases e with
    | ran c answer => exact trivial
    | slept ms => exact trivial
    | wrote path contents answer =>
      cases he
      exact base_ne_configFile hd hp
    | copied source target answer =>
      obtain ⟨-, rfl⟩ := he
      exact base_ne_configFile hd hp
    | linked target path answer =>
      cases he
      exact hresolvConf
  · exact trivial

theorem Harmless.name (he : Harmless paths e) {c : CommandLine} (hc : e.command? = some c) :
    c.name ≠ "ifdown" ∧ c.name ≠ "ifup" := by
  rcases he with he | ⟨c', answer, rfl, hname⟩
  · cases e with
    | ran c' answer =>
      cases he
      cases hc
      exact ⟨by decide, by decide⟩
    | slept ms => cases hc
    | wrote path contents answer => cases hc
    | copied source target answer => cases hc
    | linked target path answer => cases hc
  · cases hc
    exact hname

/-- Harmless requests leave the configuration files alone. -/
theorem fileAt?_of_harmless {log : List Event} (hl : Leads log h h') (hd : (filePlaces paths).Nodup)
    (hplain : Scripted.Plain (Written paths) h) (hall : ∀ e ∈ log, Harmless paths e)
    (hp : IsConfigFile paths p) : h'.fileAt? p = h.fileAt? p :=
  hl.file_kept hplain (fun e he => (hall e he).respects hd) hp.written
    fun e he => (hall e he).spares hd hp

end

/-! ## 3. Before, during and after the restart -/

/-- The log of a pass without a restart. -/
def Uneventful (paths : NetPaths) (log : List Event) : Prop := ∀ e ∈ log, Harmless paths e

/-- The log of a pass with a restart, around the two commands that take interfaces down and up. -/
structure Restarts (paths : NetPaths) (log before : List Event) (down : Event)
    (writes : List Event) (up : Event) (after : List Event) : Prop where
  log_eq : log = (before ++ down :: writes) ++ up :: after
  harmless_before : ∀ e ∈ before, Harmless paths e
  takes_down : ∃ names answer, down = .ran (takeDown names) answer
  writes_config : ∀ e ∈ writes, WritesConfig paths e
  brings_up : ∃ names answer, up = .ran (bringUp names) answer
  harmless_after : ∀ e ∈ after, Harmless paths e

section

variable {paths : NetPaths} {networks : Networks} {h h₁ h' : Scripted}
  {resolver kernel bounce check before after : List Event} {p : Path}

theorem uneventful_of_ranOnly {commands : List CommandLine} {log : List Event}
    (hran : RanOnly commands log)
    (hnames : ∀ c ∈ commands, c.name ≠ "ifdown" ∧ c.name ≠ "ifup") : Uneventful paths log := by
  intro e he
  obtain ⟨c, hc, answer, rfl⟩ := hran.ran he
  exact Or.inr ⟨c, answer, rfl, hnames c hc⟩

theorem KernelWork.harmless (hk : KernelWork kernel) : Uneventful paths kernel := by
  obtain ⟨commands, hran, hall⟩ := hk.ran
  refine uneventful_of_ranOnly hran fun c hc => ?_
  obtain ⟨switch, rfl⟩ := hall c hc
  exact ⟨by simp [setSwitchLine], by simp [setSwitchLine]⟩

theorem CheckWork.harmless (hc : CheckWork check) : Uneventful paths check := by
  obtain ⟨commands, hran, hall⟩ := hc.ran
  refine uneventful_of_ranOnly hran fun c hmem => ?_
  rw [hall c hmem]
  exact ⟨by decide, by decide⟩

/-- A pass restarts interfaces once or not at all. -/
theorem Parts.restarts (hparts : Parts paths networks h resolver kernel bounce check) :
    Uneventful paths (resolver ++ kernel ++ bounce ++ check)
      ∨ ∃ first down writes up last,
        Restarts paths (resolver ++ kernel ++ bounce ++ check) first down writes up last := by
  have hlead : Uneventful paths (resolver ++ kernel) := by
    intro e he
    rcases List.mem_append.mp he with he | he
    · exact Or.inl (hparts.onResolver.about e he)
    · exact hparts.onKernel.harmless e he
  have hcheck : Uneventful paths check := hparts.checked.harmless
  rcases hparts.restart with rfl | ⟨_, found, config, -, -, -, -, quiet, writes, down, up, rfl,
    hquiet, hwrites⟩
  · left
    intro e he
    rw [List.append_nil] at he
    exact (List.mem_append.mp he).elim (hlead e) (hcheck e)
  · right
    have hcalm : Uneventful paths quiet := by
      refine uneventful_of_ranOnly hquiet fun c hc => ?_
      rcases List.mem_cons.mp hc with rfl | hc
      · exact ⟨by decide, by decide⟩
      · obtain ⟨interface, -, rfl⟩ := List.mem_map.mp hc
        exact ⟨by simp [dropLease], by simp [dropLease]⟩
    refine ⟨resolver ++ kernel ++ quiet, .ran (takeDown config.interfaceNames) down, writes,
      .ran (bringUp config.interfaceNames) up, check, ?_⟩
    refine ⟨?_, ?_, ⟨_, _, rfl⟩, hwrites, ⟨_, _, rfl⟩, hcheck⟩
    · simp only [List.append_assoc, List.cons_append, List.nil_append]
    · exact fun e he => (List.mem_append.mp he).elim (hlead e) (hcalm e)

variable {log first writes last : List Event} {down up : Event}

/-- What comes before the interfaces go down is harmless. -/
theorem Restarts.start_harmless (hr : Restarts paths log first down writes up last)
    (hsplit : log = before ++ after) (hno : ∀ c ∈ commandsIn before, c.name ≠ "ifdown") :
    Uneventful paths before := by
  rw [hr.log_eq, List.append_assoc, List.cons_append] at hsplit
  rcases List.append_eq_append_iff.mp hsplit with ⟨more, hbefore, hmore⟩ | ⟨more, hfirst, -⟩
  · cases more with
    | nil =>
      rw [hbefore, List.append_nil]
      exact hr.harmless_before
    | cons e more =>
      -- then the command that takes interfaces down has been run
      obtain ⟨names, answer, hdown⟩ := hr.takes_down
      have he : e = down := (List.cons.inj hmore).1.symm
      refine absurd rfl (hno (takeDown names) ?_)
      rw [hbefore, commandsIn_append, he, hdown]
      exact List.mem_append_right _ List.mem_cons_self
  · intro e he
    refine hr.harmless_before e ?_
    rw [hfirst]
    exact List.mem_append_left _ he

/-- What comes after the interfaces went up is harmless. -/
theorem Restarts.end_harmless (hr : Restarts paths log first down writes up last)
    (hsplit : log = before ++ after) (hup : ∃ c ∈ commandsIn before, c.name = "ifup") :
    Uneventful paths after := by
  have hearly : ∀ c ∈ commandsIn (first ++ down :: writes), c.name ≠ "ifup" := by
    intro c hc
    obtain ⟨e, he, hcommand⟩ := List.mem_filterMap.mp hc
    rcases List.mem_append.mp he with he | he
    · exact ((hr.harmless_before e he).name hcommand).2
    · rcases List.mem_cons.mp he with rfl | he
      · obtain ⟨names, answer, rfl⟩ := hr.takes_down
        cases hcommand
        simp [takeDown]
      · obtain ⟨path, contents, answer, rfl, -⟩ := hr.writes_config e he
        cases hcommand
  have hnot : ∀ more, before ++ more ≠ first ++ down :: writes := by
    intro more heq
    obtain ⟨c, hc, hname⟩ := hup
    refine hearly c ?_ hname
    rw [← heq, commandsIn_append]
    exact List.mem_append_left _ hc
  rw [hr.log_eq] at hsplit
  rcases List.append_eq_append_iff.mp hsplit with ⟨more, hbefore, hmore⟩ | ⟨more, hfirst, -⟩
  · cases more with
    | nil =>
      rw [List.append_nil] at hbefore
      exact absurd (by rw [hbefore, List.append_nil]) (hnot [])
    | cons e more =>
      intro e' he'
      refine hr.harmless_after e' ?_
      rw [(List.cons.inj hmore).2]
      exact List.mem_append_right _ he'
  · exact absurd hfirst.symm (hnot more)

/-- Every request of a restart respects the places that are written. -/
theorem Restarts.respects (hr : Restarts paths log first down writes up last)
    (hd : (filePlaces paths).Nodup) : ∀ e ∈ log, e.Respects (Written paths) := by
  intro e he
  rw [hr.log_eq] at he
  rcases List.mem_append.mp he with he | he
  · rcases List.mem_append.mp he with he | he
    · exact (hr.harmless_before e he).respects hd
    · rcases List.mem_cons.mp he with rfl | he
      · obtain ⟨names, answer, rfl⟩ := hr.takes_down
        exact trivial
      · obtain ⟨path, contents, answer, rfl, hpath⟩ := hr.writes_config e he
        exact IsConfigFile.written hpath
  · rcases List.mem_cons.mp he with rfl | he
    · obtain ⟨names, answer, rfl⟩ := hr.brings_up
      exact trivial
    · exact (hr.harmless_after e he).respects hd

/-- Every request of a pass respects the places that are written. -/
theorem Parts.respects (hparts : Parts paths networks h resolver kernel bounce check)
    (hd : (filePlaces paths).Nodup) :
    ∀ e ∈ resolver ++ kernel ++ bounce ++ check, e.Respects (Written paths) := by
  rcases hparts.restarts with hcalm | ⟨first, down, writes, up, last, hr⟩
  · exact fun e he => (hcalm e he).respects hd
  · exact hr.respects hd

/-- The configuration files at any moment of a pass: as they were until the interfaces go down, and
    as they will be once the interfaces are up. -/
theorem Parts.files (hparts : Parts paths networks h resolver kernel bounce check)
    (hapart : Apart paths h) (hsplit : resolver ++ kernel ++ bounce ++ check = before ++ after)
    (hbefore : Leads before h h₁) (hafter : Leads after h₁ h') (hp : IsConfigFile paths p) :
    ((∀ c ∈ commandsIn before, c.name ≠ "ifdown") → h₁.fileAt? p = h.fileAt? p)
      ∧ ((∃ c ∈ commandsIn before, c.name = "ifup") → h'.fileAt? p = h₁.fileAt? p) := by
  have hd := hapart.files.distinct
  have hplain := hapart.files.plain
  have hplain₁ : Scripted.Plain (Written paths) h₁ := hbefore.stays_plain hplain fun e he =>
    hparts.respects hd e (hsplit ▸ List.mem_append_left _ he)
  rcases hparts.restarts with hcalm | ⟨first, down, writes, up, last, hr⟩
  · rw [hsplit] at hcalm
    have hstart : Uneventful paths before := fun e he => hcalm e (List.mem_append_left _ he)
    have hend : Uneventful paths after := fun e he => hcalm e (List.mem_append_right _ he)
    exact ⟨fun _ => fileAt?_of_harmless hbefore hd hplain hstart hp,
      fun _ => fileAt?_of_harmless hafter hd hplain₁ hend hp⟩
  · exact ⟨fun hno => fileAt?_of_harmless hbefore hd hplain (hr.start_harmless hsplit hno) hp,
      fun hup => fileAt?_of_harmless hafter hd hplain₁ (hr.end_harmless hsplit hup) hp⟩

end

/-! ## 4. The whole pass -/

/-- **Interfaces are never left down, and configuration files change only while they are down.** What
    a pass asks of its host falls into parts in order: the resolver, the kernel, a restart that is
    whole or missing, and a check. Until interfaces are taken down the configuration files are what
    they were, and from when they are brought up they are what they will be. -/
theorem setupNetworking_restarts_whole (paths : NetPaths) (networks : Networks)
    {a a' : Agent Scripted} {r : Except Error (Option (List InterfaceAddress))}
    (hapart : Apart paths a.host) (hpass : setupNetworking paths networks a = (r, a')) :
    let log := logBy (setupNetworking paths networks) a
    Leads log a.host a'.host
      ∧ a'.host.commands = a.host.commands ++ linesIn log
      ∧ (∃ resolver kernel bounce check, log = resolver ++ kernel ++ bounce ++ check
        ∧ Parts paths networks a.host resolver kernel bounce check)
      ∧ ∀ before after h₁ p, log = before ++ after → Leads before a.host h₁ →
        IsConfigFile paths p →
          ((∀ c ∈ commandsIn before, c.name ≠ "ifdown") → h₁.fileAt? p = a.host.fileAt? p)
            ∧ ((∃ c ∈ commandsIn before, c.name = "ifup") →
              a'.host.fileAt? p = h₁.fileAt? p) := by
  obtain ⟨hlog, hgoes⟩ := NetworkPass.of_eq hpass
  obtain ⟨resolver, kernel, bounce, check, heq, hparts⟩ := hgoes.parts
  refine ⟨hlog, hlog.recorded.1, ⟨resolver, kernel, bounce, check, heq, hparts⟩, ?_⟩
  intro before after h₁ p hsplit hbefore hp
  rw [hsplit] at hlog
  exact hparts.files hapart (heq.symm.trans hsplit) hbefore (hlog.rest hbefore) hp

/-- One network with a leased address. -/
def leasedNetwork : Networks :=
  NameMap.ofList [("private", { kind := .dynamic, mac := "00:15:5d:00:00:01" })]

/-- A host with one interface, on which the interfaces file cannot be written. -/
def failingHost : Agent Scripted :=
  { host := (({} : Scripted).addNetworkDevice ⟨"/sys/class/net"⟩ "eth0" "00:15:5d:00:00:01")
      |>.failWrites ⟨"/etc/network/interfaces"⟩ }

/-- The file cannot be written while the interface is down, and the interface comes up again. -/
theorem failingHost_restarts_whole :
    Apart {} failingHost.host
      ∧ (setupNetworking {} leasedNetwork failingHost).1.isOk = false
      ∧ (logBy (setupNetworking {} leasedNetwork) failingHost).map Event.command?
        = [some killClients, some (dropLease "eth0"), some (takeDown ["eth0"]), none,
          some (bringUp ["eth0"])]
      ∧ (logBy (setupNetworking {} leasedNetwork) failingHost).map isFailedWrite
        = [false, false, false, true, false]
      ∧ ∃ resolver kernel bounce check,
        logBy (setupNetworking {} leasedNetwork) failingHost = resolver ++ kernel ++ bounce ++ check
          ∧ Parts {} leasedNetwork failingHost.host resolver kernel bounce check := by
  have hapart : Apart {} failingHost.host := ⟨by decide +kernel, rfl, rfl, rfl⟩
  obtain ⟨-, -, hparts, -⟩ :=
    setupNetworking_restarts_whole {} leasedNetwork hapart (Prod.eta _).symm
  exact ⟨hapart, by decide +kernel, by decide +kernel, by decide +kernel, hparts⟩

end HostAgent.Net
