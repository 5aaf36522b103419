import HostAgent.Proofs.Net.Blind
import HostAgent.Proofs.Net.Checks

/-!
# The course of a pass over the network

Where a pass stops, with its log, its result and the phase that it leaves behind. A pass that has
interfaces to configure learns which ones, sets switches of the kernel, brings files and interfaces
to the configuration, and checks the host; it may stop in each of these.

* `Course`, `Course.passed` -- the ways that a pass can go once the resolver has been looked after,
  and how the one that ends well does so;
* `NetworkPass` -- the whole pass, from an agent on;
* `setupNetworking_goes` -- every pass goes one of these ways.
-/

namespace HostAgent.Net

/-! ## 1. Ways to go -/

/-- The interfaces of the host are known, and the networks have a configuration on them. -/
structure Configured {S : Type} [Files S] (paths : NetPaths) (networks : Networks) (s : S)
    (found : NameMap String) (config : NetworkConfig) : Prop where
  macs : macsUnder s paths.sysClassNet = .ok found
  records : configOf networks found = .ok config

/-- The course of a pass from the detection of interfaces on. -/
inductive Course (paths : NetPaths) (networks : Networks) (h : Scripted) :
    List Event → Except Error (List InterfaceAddress) → Phase → Prop where
  /-- there is no configuration -/
  | unknown {e : Error} (unknown : ∀ found config, ¬ Configured paths networks h found config)
      (inOrder : e.inOrder = true) : Course paths networks h [] (.error e) .idle
  /-- the kernel refuses a switch -/
  | refused {found : NameMap String} {config : NetworkConfig} {kernel : List Event} {e : Error}
      (known : Configured paths networks h found config) (onKernel : KernelWork kernel)
      (inOrder : e.inOrder = true) :
      Course paths networks h kernel (.error (.context "Enabling IPv6 in kernel" e)) .idle
  /-- a configuration file cannot be written -/
  | stopped {found : NameMap String} {config : NetworkConfig} {kernel bounce : List Event}
      {h₁ : Scripted} {e : Error} {phase : Phase}
      (known : Configured paths networks h found config) (onKernel : KernelWork kernel)
      (leads : Leads kernel h h₁)
      (files : Converges paths config found.values h₁ bounce (.error e) phase) :
      Course paths networks h (kernel ++ bounce) (.error e) phase
  /-- the host is checked -/
  | checked {found : NameMap String} {config : NetworkConfig} {kernel bounce check : List Event}
      {h₁ h₂ : Scripted} {r : Except Error Unit} {phase phase' : Phase}
      (known : Configured paths networks h found config) (onKernel : KernelWork kernel)
      (leads : Leads kernel h h₁)
      (files : Converges paths config found.values h₁ bounce (.ok ()) phase)
      (restarting : Leads bounce h₁ h₂) (checks : Checked paths config h₂ phase check r phase') :
      Course paths networks h (kernel ++ bounce ++ check)
        (r.map fun _ => announcedAddresses config) phase'

/-- The agent when it is about to detect interfaces: it has looked after the resolver if a network
    is bound to an alias interface, whatever became of that. -/
def beforeDetection {H : Type} [Host H] (paths : NetPaths) (networks : Networks) (a : Agent H) :
    Agent H :=
  if networks.hasInterfaceAlias then (writeResolvConf paths networks { a with phase := .idle }).2
  else { a with phase := .idle }

/-- A whole pass, from an agent on. -/
inductive NetworkPass (paths : NetPaths) (networks : Networks) (a : Agent Scripted) :
    List Event → Except Error (Option (List InterfaceAddress)) → Phase → Prop where
  /-- only the resolver is looked after -/
  | preconfigured {log : List Event} {r : Except Error (Option (List InterfaceAddress))}
      (pre : networks.isPreconfigured = true) (onResolver : ResolverWork paths log)
      (inOrder : InOrder r) : NetworkPass paths networks a log r .idle
  | configured {resolver rest : List Event} {r : Except Error (List InterfaceAddress)}
      {phase : Phase} (pre : networks.isPreconfigured = false)
      (onResolver : ResolverWork paths resolver)
      (leads : Leads resolver a.host (beforeDetection paths networks a).host)
      (course : Course paths networks (beforeDetection paths networks a).host rest r phase) :
      NetworkPass paths networks a (resolver ++ rest) (r.map some) phase

/-- A course that ends well ends in a check, which the host passes. -/
theorem Course.passed {paths : NetPaths} {networks : Networks} {h h' : Scripted} {log : List Event}
    {addresses : List InterfaceAddress} {phase : Phase}
    (hc : Course paths networks h log (.ok addresses) phase) (hl : Leads log h h') :
    ∃ found config before check, Configured paths networks h found config ∧ log = before ++ check
      ∧ AddressCheck config.checked check (.ok ())
      ∧ Resolves paths.resolvConf config.dnsServers h'
      ∧ addresses = announcedAddresses config ∧ phase = .validated := by
  generalize hr : (Except.ok addresses : Except Error (List InterfaceAddress)) = r at hc
  cases hc with
  | unknown _ _ => cases hr
  | refused _ _ _ => cases hr
  | stopped _ _ _ _ => cases hr
  | @checked found config kernel bounce check h₁ h₂ r' _ _ known _ leads _ restarting checks =>
    cases checks with
    | misaddressed _ _ => cases hr
    | unresolved _ _ => cases hr
    | @passed h₃ checked asking resolver =>
      have hcheck : Leads check h₂ h' := hl.rest (leads.append restarting)
      obtain rfl : h₃ = h' := asking.unique hcheck
      exact ⟨found, config, _, check, known, rfl, checked, resolver, Except.ok.inj hr, rfl⟩

/-! ## 2. Every pass goes one of them -/

section

variable {H : Type} [Host H] {paths : NetPaths} {networks : Networks}

/-- A host with a log stands for its host. -/
theorem configured_shown {l : Logged H} {found : NameMap String} {config : NetworkConfig} :
    Configured paths networks l found config ↔ Configured paths networks l.host found config :=
  ⟨fun h => ⟨h.macs, h.records⟩, fun h => ⟨h.macs, h.records⟩⟩

theorem computeNetworkConfig_ends (paths : NetPaths) (networks : Networks) (a : Agent H) :
    (computeNetworkConfig paths networks).EndsOn Agent.host a fun log r b => log = [] ∧ b = a
      ∧ ∀ config, r = .ok config ↔ ∃ found, Configured paths networks a.host found config := by
  unfold computeNetworkConfig
  cases hfound : macsUnder a.host paths.sysClassNet with
  | ok found =>
    refine (detectMacs_ends _ hfound).before ?_
    intro _ b h
    obtain ⟨rfl, rfl⟩ := h
    refine .ofResult ⟨rfl, rfl, fun config => ⟨fun h => ⟨found, hfound, h⟩, ?_⟩⟩
    intro h
    obtain ⟨found', hmacs, hrecords⟩ := h
    rw [hfound] at hmacs
    cases hmacs
    exact hrecords
  | error e =>
    have hdetect : ((detectMacs paths.sysClassNet).within "Getting network interfaces") a
        = (.error (.context "Getting network interfaces" e), a) := by
      rw [Pass.within_apply]
      show (Except.mapError _ (macsUnder a.host paths.sysClassNet), a) = _
      rw [hfound]
      rfl
    refine .still (Pass.bind_error hdetect) ⟨rfl, rfl, fun config => ⟨nofun, ?_⟩⟩
    intro h
    obtain ⟨found', hmacs, -⟩ := h
    rw [hfound] at hmacs
    cases hmacs

/-- The configuration that a pass computes. -/
theorem computed_iff {a : Agent H} {config : NetworkConfig} :
    (computeNetworkConfig paths networks a).1 = .ok config
      ↔ ∃ found, Configured paths networks a.host found config := by
  obtain ⟨_, -, -, -, hconfig⟩ := computeNetworkConfig_ends paths networks a
  exact hconfig config

/-- The resolver's part of a pass on an agent. -/
theorem writeResolvConf_endsOn (paths : NetPaths) (networks : Networks) (a : Agent H) :
    (writeResolvConf paths networks).EndsOn Agent.host a fun log _ b =>
      ResolverWork paths log ∧ b.phase = a.phase :=
  (writeResolvConf_ends paths networks a).onHost fun _ _ _ h hphase _ => ⟨h, hphase⟩

/-- Looking after the resolver is the same on a host with a log. -/
theorem beforeDetection_plain (paths : NetPaths) (networks : Networks) (a : Agent (Logged H)) :
    (beforeDetection paths networks a).plain = beforeDetection paths networks a.plain := by
  unfold beforeDetection
  split
  · have hblind := writeResolvConf_blind (Logged.inFront (H := H)).agent paths networks
    exact (congrArg Prod.snd (hblind.plain { a with phase := .idle })).symm
  · rfl

end

section

variable {paths : NetPaths} {networks : Networks} {a : Agent (Logged Scripted)}

theorem convergeConfigured_goes (hphase : a.phase = .idle)
    (hpre : networks.isPreconfigured = false) :
    (convergeConfigured paths networks).EndsOn Agent.host a fun log r b =>
      Course paths networks a.host.host log r b.phase := by
  refine ((computeNetworkConfig_ends paths networks a).errors
    (computeNetworkConfig_inOrder paths networks)).bind ?_ ?_
  · intro _ config b h
    obtain ⟨⟨rfl, rfl, hconfig⟩, -⟩ := h
    obtain ⟨found, hknown⟩ := (hconfig config).mp rfl
    have known : Configured paths networks b.host.host found config := configured_shown.mp hknown
    have hnames : config.interfaceNames ≠ [] := interfaceNames_ne_nil hpre hknown.records
    have hkernel : (setupIpv6 config.hasVersion6 : Pass (Agent (Logged Scripted)) Unit).EndsOn
        Agent.host b fun log r c => KernelWork log
          ∧ (∀ e, r = .error e → ∃ e', e = .context "Enabling IPv6 in kernel" e')
          ∧ c.phase = .idle :=
      (setupIpv6_ends config.hasVersion6 b).onHost fun _ _ _ h hc _ => ⟨h.1, h.2, hc.trans hphase⟩
    refine ((hkernel.errors (setupIpv6_inOrder _)).leads).bind ?_ ?_
    · intro kernel _ c h
      obtain ⟨hleads, ⟨hk, -, hc⟩, -⟩ := h
      have hmacs : macsUnder c.host.host paths.sysClassNet = .ok found := by
        obtain ⟨switches, -, hran⟩ := hk
        obtain ⟨recorded, queued, hhost⟩ := hran.host hleads.kept.1
        rw [hhost, macsUnder_script, known.macs]
      refine (convergeFiles_ends config hc hnames hmacs).leads.bind ?_ ?_
      · intro bounce _ d h
        obtain ⟨hrestarting, hfiles⟩ := h
        have hnext : d.phase.canBecome .validated = true := by
          generalize d.phase = phase at hfiles
          cases hfiles with
          | unchanged _ => rfl
          | restarted _ _ => rfl
        refine (validateNetwork_ends paths config hnext).returning ?_ ?_
        · intro check _ e hchecks
          rw [List.nil_append, ← List.append_assoc]
          exact .checked known hk hleads.kept.1 hfiles hrestarting.kept.1 hchecks
        · intro check fault e hchecks
          rw [List.nil_append, ← List.append_assoc]
          exact .checked known hk hleads.kept.1 hfiles hrestarting.kept.1 hchecks
      · intro bounce fault d h
        rw [List.nil_append]
        exact .stopped known hk hleads.kept.1 h.2
    · intro kernel e c h
      obtain ⟨-, ⟨hk, herror, hc⟩, hinOrder⟩ := h
      obtain ⟨e', rfl⟩ := herror e rfl
      have hcause : (Error.context "Enabling IPv6 in kernel" e').inOrder = true := hinOrder _ rfl
      rw [hc]
      exact .refused known hk hcause
  · intro _ e b h
    obtain ⟨⟨rfl, rfl, hconfig⟩, hinOrder⟩ := h
    rw [hphase]
    refine .unknown (fun found config hknown => ?_) (hinOrder e rfl)
    cases (hconfig config).mpr ⟨found, configured_shown.mpr hknown⟩

/-- **Every pass over the network goes one of the ways.** -/
theorem setupNetworking_goes (paths : NetPaths) (networks : Networks)
    (a : Agent (Logged Scripted)) :
    (setupNetworking paths networks).EndsOn Agent.host a fun log r b =>
      NetworkPass paths networks a.plain log r b.phase := by
  unfold setupNetworking
  refine Pass.EndsOn.before (a := ()) (P := fun log b => log = [] ∧ b = { a with phase := .idle })
    (.unseen rfl rfl ⟨rfl, rfl, rfl⟩) ?_
  intro _ b h
  obtain ⟨rfl, rfl⟩ := h
  cases hpre : networks.isPreconfigured with
  | true =>
    rw [if_pos rfl]
    refine ((writeResolvConf_endsOn paths networks { a with phase := .idle }).errors
      (writeResolvConf_inOrder paths networks)).within_bind ?_ ?_
    · intro log _ c _ h
      obtain ⟨⟨hwork, hc⟩, -⟩ := h
      refine .done ?_
      rw [hc, List.append_nil]
      exact .preconfigured hpre hwork (.ok none)
    · intro log e c h
      obtain ⟨⟨hwork, hc⟩, hinOrder⟩ := h
      rw [hc]
      exact .preconfigured hpre hwork (.error (hinOrder e rfl))
  | false =>
    rw [if_neg Bool.false_ne_true]
    refine Pass.EndsOn.returning (P := fun log r b => ∃ resolver rest, log = resolver ++ rest
      ∧ ResolverWork paths resolver
      ∧ Leads resolver a.host.host (beforeDetection paths networks a.plain).host
      ∧ Course paths networks (beforeDetection paths networks a.plain).host rest r b.phase)
      ?_ ?_ ?_
    · unfold convergeNetworks
      rw [← beforeDetection_plain]
      by_cases halias : networks.hasInterfaceAlias = true
      · have hbefore : beforeDetection paths networks a
            = (writeResolvConf paths networks { a with phase := .idle }).2 := if_pos halias
        obtain ⟨resolver, hleads, hwork, hphase⟩ :=
          writeResolvConf_endsOn paths networks { a with phase := .idle }
        rw [if_pos halias, hbefore]
        refine Pass.EndsOn.before (a := ()) (P := fun log b => log = resolver
          ∧ b = (writeResolvConf paths networks { a with phase := .idle }).2)
          ⟨resolver, hleads, rfl, rfl, rfl⟩ ?_
        intro _ b h
        obtain ⟨rfl, rfl⟩ := h
        refine (convergeConfigured_goes hphase hpre).mono ?_
        exact fun rest r c hcourse => ⟨_, rest, rfl, hwork, hleads.kept.1, hcourse⟩
      · have hbefore : beforeDetection paths networks a = { a with phase := .idle } :=
          if_neg halias
        rw [if_neg halias, hbefore]
        refine (convergeConfigured_goes rfl hpre).mono ?_
        exact fun rest r c hcourse =>
          ⟨[], rest, rfl, .nil paths, .nil _, hcourse⟩
    · intro log addresses b h
      obtain ⟨resolver, rest, rfl, hwork, hleads, hcourse⟩ := h
      exact .configured hpre hwork hleads hcourse
    · intro log e b h
      obtain ⟨resolver, rest, rfl, hwork, hleads, hcourse⟩ := h
      exact .configured hpre hwork hleads hcourse

/-- **The log of a pass that is given with its outcome.** -/
theorem NetworkPass.of_eq {a a' : Agent Scripted}
    {r : Except Error (Option (List InterfaceAddress))}
    (hpass : setupNetworking paths networks a = (r, a')) :
    let log := logBy (setupNetworking paths networks) a
    Leads log a.host a'.host ∧ NetworkPass paths networks a log r a'.phase := by
  have hends := logBy_ends (setupNetworking_blind Logged.inFront paths networks)
    (Q := fun log r b => NetworkPass paths networks a log r b.phase)
    (setupNetworking_goes paths networks a.logged)
  rw [hpass] at hends
  exact hends

end

end HostAgent.Net
