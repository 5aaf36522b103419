import HostAgent.Proofs.Net.Held
import HostAgent.Proofs.Net.Phases

/-!
# One pass after another over the same networks

A pass decides by what the configuration files hold whether interfaces are restarted, and after a
pass the phase tells what they hold. So the phase of one pass tells what the next one will do, if
nobody else changes files in between: interfaces that were started are left alone, and a file that
could not be written is not forgotten. The work on the resolver, which an alias interface brings
with every pass, makes no difference.

* `NetworkPass.leaves` -- what a pass leaves behind for the next one;
* `Course.leaves_alone`, `Course.restarts_again` -- what the next one does with it;
* `setupNetworking_again` -- both, for any two passes.
-/

namespace HostAgent.Net

/-! ## 1. What the next pass may do -/

/-- No interface is touched, no client is killed, no record of a lease is dropped, and no request is
    about a configuration file. -/
structure Undisturbed (paths : NetPaths) (log : List Event) : Prop where
  calm : Calm log
  leases : ∀ line ∈ linesIn log, Text.hasStart "resolvconf -d" line = false
  files : ∀ e ∈ log, ∀ p, IsConfigFile paths p → e.Spares p.components

/-- After some requests a pass from a host on finds that a configuration file would change, and then
    it restarts the interfaces of the configuration. -/
def RestartsAgain (paths : NetPaths) (config : NetworkConfig) (h : Scripted) (log : List Event) :
    Prop :=
  ∃ before bounce after h₁, ∃ interfaces : List String,
    log = before ++ bounce ++ after ∧ Leads before h h₁
    ∧ writeNetworkConfigs paths config.interfaces config.dhclient? true h₁ = (.ok true, h₁)
    ∧ commandsIn bounce = killClients :: interfaces.map dropLease
      ++ [takeDown config.interfaceNames, bringUp config.interfaceNames]

section

variable {paths : NetPaths} {networks : Networks} {config : NetworkConfig}
  {found : NameMap String} {h h' : Scripted} {log : List Event}

theorem undisturbed_append {a b : List Event} (ha : Undisturbed paths a)
    (hb : Undisturbed paths b) : Undisturbed paths (a ++ b) := by
  refine ⟨calm_append.mpr ⟨ha.calm, hb.calm⟩, ?_, ?_⟩
  · rw [linesIn_append]
    exact List.forall_mem_append.mpr ⟨ha.leases, hb.leases⟩
  · exact List.forall_mem_append.mpr ⟨ha.files, hb.files⟩

/-- A calm log of commands that are no resolver's. -/
theorem undisturbed_of_ranOnly {commands : List CommandLine} (hran : RanOnly commands log)
    (hcalm : Calm log) (hnames : ∀ c ∈ commands, c.name ∈ ["sysctl", "ip"]) :
    Undisturbed paths log := by
  have hother : ∀ name ∈ ["sysctl", "ip"], ¬ "resolvconf -d".toList <+: name.toList
      ∧ ¬ name.toList <+: "resolvconf -d".toList := by decide
  refine ⟨hcalm, fun line hline => ?_, fun e he p _ => ?_⟩
  · obtain ⟨c, hc, rfl⟩ := List.mem_map.mp hline
    rw [hran.commandsIn_eq] at hc
    exact not_hasStart c.text_starts (hother c.name (hnames c hc))
  · obtain ⟨c, -, answer, rfl⟩ := hran.ran he
    exact trivial

theorem ResolverWork.undisturbed (hd : (filePlaces paths).Nodup) (hw : ResolverWork paths log) :
    Undisturbed paths log := by
  refine ⟨hw.calm, fun line hline => ?_, fun e he p hp => ?_⟩
  · obtain ⟨c, hc, rfl⟩ := List.mem_map.mp hline
    rw [hw.command hc]
    decide
  · exact Harmless.spares hd (Or.inl (hw.about e he)) hp

theorem KernelWork.undisturbed (hk : KernelWork log) : Undisturbed paths log := by
  obtain ⟨commands, hran, hall⟩ := hk.ran
  refine undisturbed_of_ranOnly hran hk.calm fun c hc => ?_
  obtain ⟨switch, rfl⟩ := hall c hc
  simp [setSwitchLine]

theorem CheckWork.undisturbed (hc : CheckWork log) : Undisturbed paths log := by
  obtain ⟨commands, hran, hall⟩ := hc.ran
  refine undisturbed_of_ranOnly hran hc.calm fun c hmem => ?_
  rw [hall c hmem]
  decide

/-! ## 2. The next pass -/

/-- **Files that hold their texts are left alone**, and so are the interfaces. -/
theorem Course.leaves_alone {r : Except Error (List InterfaceAddress)} {phase : Phase}
    (hc : Course paths networks h log r phase) (hk : Configured paths networks h found config)
    (hheld : filesHold paths h config = true) :
    ∃ kernel check, log = kernel ++ check ∧ KernelWork kernel ∧ CheckWork check := by
  cases hc with
  | unknown _ _ => exact ⟨[], [], rfl, .nil, Or.inl rfl⟩
  | refused _ onKernel _ => exact ⟨log, [], (List.append_nil _).symm, onKernel, Or.inl rfl⟩
  | @stopped _ _ kernel bounce _ _ _ known onKernel leads files =>
    obtain ⟨rfl, rfl⟩ := hk.unique known
    cases files with
    | stopped stale _ _ =>
      rw [(onKernel.held config leads).1, hheld] at stale
      cases stale
  | @checked _ _ kernel bounce check _ _ _ _ _ known onKernel leads files _ checks =>
    obtain ⟨rfl, rfl⟩ := hk.unique known
    cases files with
    | unchanged _ =>
      refine ⟨kernel, check, ?_, onKernel, checks.checkWork⟩
      rw [List.append_nil]
    | restarted stale _ =>
      rw [(onKernel.held config leads).1, hheld] at stale
      cases stale

/-- **Files that do not hold their texts make the interfaces restart**, unless the kernel refuses a
    switch. -/
theorem Course.restarts_again {r : Except Error (List InterfaceAddress)} {phase : Phase}
    (hc : Course paths networks h log r phase) (hk : Configured paths networks h found config)
    (hstale : filesHold paths h config = false)
    (hkernel : ∀ e, r ≠ .error (.context "Enabling IPv6 in kernel" e)) :
    RestartsAgain paths config h log := by
  have hagain : ∀ {kernel bounce check h₁ r₁}, KernelWork kernel → Leads kernel h h₁ →
      Restarted paths config found.values h₁ bounce r₁ →
        RestartsAgain paths config h (kernel ++ bounce ++ check) := by
    intro kernel bounce check h₁ r₁ hwork hl restart
    refine ⟨kernel, bounce, check, h₁, found.values, rfl, hl, ?_, restart.commands⟩
    rw [writeNetworkConfigs_dry, (hwork.held config hl).1, hstale]
    rfl
  cases hc with
  | unknown unknown _ => exact absurd hk (unknown found config)
  | refused _ _ _ => exact absurd rfl (hkernel _)
  | @stopped _ _ kernel bounce _ _ _ known onKernel leads files =>
    obtain ⟨rfl, rfl⟩ := hk.unique known
    cases files with
    | stopped _ restart _ =>
      rw [← List.append_nil (kernel ++ bounce)]
      exact hagain onKernel leads restart
  | @checked _ _ kernel bounce check _ _ _ _ _ known onKernel leads files _ _ =>
    obtain ⟨rfl, rfl⟩ := hk.unique known
    cases files with
    | unchanged held =>
      rw [(onKernel.held config leads).1, hstale] at held
      cases held
    | restarted _ restart => exact hagain onKernel leads restart

/-! ## 3. What a pass leaves behind -/

/-- A pass that gets past the idle phase knows what it has to configure. -/
theorem Course.known {r : Except Error (List InterfaceAddress)} {phase : Phase}
    (hc : Course paths networks h log r phase) (hphase : phase ≠ .idle) :
    ∃ found config, Configured paths networks h found config := by
  cases hc with
  | unknown _ _ => exact absurd rfl hphase
  | refused _ _ _ => exact absurd rfl hphase
  | stopped known _ _ _ => exact ⟨_, _, known⟩
  | checked known _ _ _ _ _ => exact ⟨_, _, known⟩

variable {a : Agent Scripted} {r : Except Error (Option (List InterfaceAddress))} {phase : Phase}

/-- Files that are apart stay apart. -/
theorem NetworkPass.apart (hp : NetworkPass paths networks a log r phase)
    (hl : Leads log a.host h') (ha : FilesApart paths a.host) : FilesApart paths h' := by
  obtain ⟨resolver, kernel, bounce, check, rfl, hparts⟩ := hp.parts
  have hplain : Scripted.Plain (Written paths) h' :=
    hl.stays_plain ha.plain (hparts.respects ha.distinct)
  exact ⟨ha.distinct, hplain _ (Or.inl rfl), hplain _ (Or.inr (Or.inl rfl)),
    hplain _ (Or.inr (Or.inr rfl))⟩

/-- **What the files hold after a pass follows from its phase**, unless it is idle. -/
theorem NetworkPass.leaves (hp : NetworkPass paths networks a log r phase)
    (hl : Leads log a.host h') (ha : FilesApart paths a.host) (hphase : phase ≠ .idle) :
    networks.isPreconfigured = false ∧ ∃ found config,
      Configured paths networks (beforeDetection paths networks a).host found config
        ∧ (phase = .started ∨ phase = .validated → filesHold paths h' config = true)
        ∧ (phase = .stopped → filesHold paths h' config = false) := by
  cases hp with
  | preconfigured _ _ _ => exact absurd rfl hphase
  | @configured resolver rest _ _ pre onResolver leads course =>
    obtain ⟨found, config, hknown⟩ := course.known hphase
    obtain ⟨hheld, hstale, -⟩ :=
      course.held (hl.rest leads) (onResolver.plain leads ha.distinct ha.filesPlain) hknown
    exact ⟨pre, found, config, hknown, hheld, hstale⟩

/-- Files are apart on a host with the same links. -/
theorem FilesApart.of_same (ha : FilesApart paths h) (hlinks : h'.links = h.links) :
    FilesApart paths h' := by
  have hlink := Scripted.linkAt?_congr hlinks
  exact ⟨ha.distinct, (hlink _).trans ha.interfaces, (hlink _).trans ha.dhclientConf,
    (hlink _).trans ha.resolvconfBase⟩

/-- They hold the same on a host with the same files as well. -/
theorem filesHold_of_same (hfiles : h'.files = h.files) (hlinks : h'.links = h.links) :
    filesHold paths h' config = filesHold paths h config := by
  refine filesHold_congr fun p _ => ?_
  unfold Scripted.fileAt? Scripted.resolve
  rw [hfiles, hlinks]

end

/-! ## 4. Two passes -/

/-- **The phase of a pass tells what the next one does.** Between two passes over the same networks
    files and links stay as they are, and both find the same interfaces; all else about the host may
    change, its script and what cannot be written included. After a pass that started interfaces or
    validated the host, the next one leaves interfaces and configuration files alone. After a pass
    that could not write a file, the next one finds that a file would change and restarts the
    interfaces; the kernel is all that can stop it before. -/
theorem setupNetworking_again (paths : NetPaths) (networks : Networks)
    {a a' b b' : Agent Scripted} {r r' : Except Error (Option (List InterfaceAddress))}
    (hapart : FilesApart paths a.host) (hfirst : setupNetworking paths networks a = (r, a'))
    (hfiles : b.host.files = a'.host.files) (hlinks : b.host.links = a'.host.links)
    (hmacs : macsUnder (beforeDetection paths networks b).host paths.sysClassNet
      = macsUnder (beforeDetection paths networks a).host paths.sysClassNet)
    (hsecond : setupNetworking paths networks b = (r', b')) :
    let log := logBy (setupNetworking paths networks) b
    Leads log b.host b'.host ∧ b'.host.commands = b.host.commands ++ linesIn log
      ∧ (a'.phase = .started ∨ a'.phase = .validated → Undisturbed paths log
        ∧ ∀ p, IsConfigFile paths p → b'.host.writeCount p = b.host.writeCount p)
      ∧ (a'.phase = .stopped → (∀ e, r' ≠ .error (.context "Enabling IPv6 in kernel" e)) →
        ∃ config, (computeNetworkConfig paths networks (beforeDetection paths networks b)).1
            = .ok config
          ∧ RestartsAgain paths config b.host log) := by
  obtain ⟨hlog₁, hgoes₁⟩ := NetworkPass.of_eq hfirst
  obtain ⟨hlog, hgoes⟩ := NetworkPass.of_eq hsecond
  refine ⟨hlog, hlog.recorded.1, ?_⟩
  generalize logBy (setupNetworking paths networks) b = log at hlog hgoes ⊢
  have hapart₁ : FilesApart paths a'.host := hgoes₁.apart hlog₁ hapart
  have hapart₂ : FilesApart paths b.host := hapart₁.of_same hlinks
  -- what the first pass left behind, as the second one finds it
  have hleft : a'.phase ≠ .idle → networks.isPreconfigured = false ∧ ∃ found config,
      Configured paths networks (beforeDetection paths networks b).host found config
        ∧ (a'.phase = .started ∨ a'.phase = .validated → filesHold paths b.host config = true)
        ∧ (a'.phase = .stopped → filesHold paths b.host config = false) := by
    intro hphase
    obtain ⟨hpre, found, config, hknown, hheld, hstale⟩ := hgoes₁.leaves hlog₁ hapart hphase
    rw [← filesHold_of_same hfiles hlinks] at hheld hstale
    exact ⟨hpre, found, config, ⟨hmacs.trans hknown.macs, hknown.records⟩, hheld, hstale⟩
  have hd := hapart₂.distinct
  have hquiet : Undisturbed paths log → Undisturbed paths log
      ∧ ∀ p, IsConfigFile paths p → b'.host.writeCount p = b.host.writeCount p :=
    fun h => ⟨h, fun p hp => hlog.writeCount_kept fun e he => h.files e he p hp⟩
  generalize b'.phase = phase' at hgoes
  cases hgoes with
  | preconfigured pre onResolver _ =>
    refine ⟨fun _ => hquiet (onResolver.undisturbed hd), fun hstopped _ => ?_⟩
    obtain ⟨hpre, -⟩ := hleft (by rw [hstopped]; nofun)
    rw [pre] at hpre
    cases hpre
  | @configured resolver rest r₂ _ _ onResolver leads course =>
    constructor
    · intro hphase
      have hbusy : a'.phase ≠ .idle := by
        rcases hphase with hphase | hphase
        · rw [hphase]
          nofun
        · rw [hphase]
          nofun
      obtain ⟨-, found, config, hknown, hheld, -⟩ := hleft hbusy
      have hheld' := (onResolver.held config leads hapart₂).trans (hheld hphase)
      obtain ⟨kernel, check, rfl, hkernel, hcheck⟩ := course.leaves_alone hknown hheld'
      exact hquiet (undisturbed_append (onResolver.undisturbed hd)
        (undisturbed_append hkernel.undisturbed hcheck.undisturbed))
    · intro hstopped hkernel
      obtain ⟨-, found, config, hknown, -, hstale⟩ := hleft (by rw [hstopped]; nofun)
      refine ⟨config, computed_iff.mpr ⟨found, hknown⟩, ?_⟩
      have hstale' := (onResolver.held config leads hapart₂).trans (hstale hstopped)
      have hkernel' : ∀ e, r₂ ≠ .error (.context "Enabling IPv6 in kernel" e) :=
        fun e he => hkernel e (by rw [he]; rfl)
      obtain ⟨before, bounce, after, h₁, interfaces, rfl, hl, hdry, hcommands⟩ :=
        course.restarts_again hknown hstale' hkernel'
      refine ⟨resolver ++ before, bounce, after, h₁, interfaces, ?_, leads.append hl, hdry,
        hcommands⟩
      simp only [List.append_assoc]

/-- A network of IPv6 on an alias interface, which provides DNS. -/
def aliasNetwork : Networks :=
  NameMap.ofList
    [("public", { ip := "fd00::6", netmask := "64", gateway := "fd00::1", dns := ["fd00::1"],
                  defaultFor := { dns := true }, aliasName := some "eth0:0" })]

/-- A host with one interface, on which the resolver knows the server. -/
def resolvingHost : Agent Scripted :=
  { host := oneInterface.putFile ⟨"/run/resolvconf/resolv.conf"⟩ (Utf8.encode "nameserver fd00::1\n") }

/-- The interfaces file of the network on that host. -/
def aliasInterfaces : List String :=
  ["# Generated by cirrus-agent\n", "auto lo\n", "iface lo inet loopback\n", "\n", "auto eth0:0\n",
    "iface eth0:0 inet6 static\n", "    address fd00::6\n", "    netmask 64\n",
    "    gateway fd00::1\n", "\n", "accept_ra 1\n", "dns-nameservers fd00::1\n"]

/-- The host as a pass over the network leaves it, with an agent that remembers the pass. -/
def settledHost : Agent Scripted :=
  { host := (resolvingHost.host.putFile ⟨"/etc/resolvconf/resolv.conf.d/base"⟩
        (Utf8.encode (resolvFile ["fd00::1"]))
      |>.putFile ⟨"/etc/network/interfaces"⟩ (aliasInterfaces.flatMap Utf8.encode)).putLink
      ⟨"/run/resolvconf/resolv.conf"⟩ ⟨"/etc/resolv.conf"⟩
    phase := .validated }

/-- A host on which a file could not be written, once it can be. -/
def repairedHost : Agent Scripted := { host := oneInterface, phase := .stopped }

/-- The host is validated, and the next pass leaves it alone, though it looks after the resolver
    again. A file cannot be written, and the next pass restarts the interface. -/
theorem setupNetworking_again_settled :
    FilesApart {} resolvingHost.host ∧ FilesApart {} failingHost.host
      ∧ (setupNetworking {} aliasNetwork resolvingHost).2.phase = .validated
      ∧ settledHost.host.files = (setupNetworking {} aliasNetwork resolvingHost).2.host.files
      ∧ settledHost.host.links = (setupNetworking {} aliasNetwork resolvingHost).2.host.links
      ∧ (setupNetworking {} aliasNetwork settledHost).2.host.commands
        = "resolvconf -u" :: ipv6Switches.map ("sysctl -w " ++ ·)
      ∧ Undisturbed {} (logBy (setupNetworking {} aliasNetwork) settledHost)
      ∧ (setupNetworking {} leasedNetwork failingHost).2.phase = .stopped
      ∧ repairedHost.host.files = (setupNetworking {} leasedNetwork failingHost).2.host.files
      ∧ repairedHost.host.links = (setupNetworking {} leasedNetwork failingHost).2.host.links
      ∧ (setupNetworking {} leasedNetwork repairedHost).2.host.commands
        = ["pkill dhclient", "resolvconf -d eth0.dhclient", "ifdown --force eth0",
          "ifup --force eth0"]
      ∧ ∃ config, RestartsAgain {} config repairedHost.host
        (logBy (setupNetworking {} leasedNetwork) repairedHost) := by
  have hdistinct : (filePlaces {}).Nodup := by decide +kernel
  have hapart : FilesApart {} resolvingHost.host := ⟨hdistinct, rfl, rfl, rfl⟩
  have hapart' : FilesApart {} failingHost.host := ⟨hdistinct, rfl, rfl, rfl⟩
  obtain ⟨hvalidated, hfiles, hlinks⟩ :
      (setupNetworking {} aliasNetwork resolvingHost).2.phase = .validated
        ∧ settledHost.host.files = (setupNetworking {} aliasNetwork resolvingHost).2.host.files
        ∧ settledHost.host.links = (setupNetworking {} aliasNetwork resolvingHost).2.host.links := by
    decide +kernel
  obtain ⟨hstopped, hfiles', hlinks'⟩ :
      (setupNetworking {} leasedNetwork failingHost).2.phase = .stopped
        ∧ repairedHost.host.files = (setupNetworking {} leasedNetwork failingHost).2.host.files
        ∧ repairedHost.host.links = (setupNetworking {} leasedNetwork failingHost).2.host.links := by
    decide +kernel
  have hmacs : macsUnder (beforeDetection {} aliasNetwork settledHost).host ⟨"/sys/class/net"⟩
      = macsUnder (beforeDetection {} aliasNetwork resolvingHost).host ⟨"/sys/class/net"⟩ := by
    decide +kernel
  have hmacs' : macsUnder (beforeDetection {} leasedNetwork repairedHost).host ⟨"/sys/class/net"⟩
      = macsUnder (beforeDetection {} leasedNetwork failingHost).host ⟨"/sys/class/net"⟩ := by
    decide +kernel
  obtain ⟨hok, hcommands⟩ : (setupNetworking {} leasedNetwork repairedHost).1.isOk = true
      ∧ (setupNetworking {} leasedNetwork repairedHost).2.host.commands
        = ["pkill dhclient", "resolvconf -d eth0.dhclient", "ifdown --force eth0",
          "ifup --force eth0"] := by decide +kernel
  obtain ⟨-, -, hquiet, -⟩ := setupNetworking_again {} aliasNetwork hapart
    (Prod.eta _).symm hfiles hlinks hmacs (Prod.eta _).symm
  obtain ⟨-, -, -, hagain⟩ := setupNetworking_again {} leasedNetwork hapart'
    (Prod.eta _).symm hfiles' hlinks' hmacs' (Prod.eta _).symm
  obtain ⟨config, -, hrestarts⟩ := hagain hstopped fun e he => by
    rw [he] at hok
    cases hok
  exact ⟨hapart, hapart', hvalidated, hfiles, hlinks, by decide +kernel,
    (hquiet (Or.inr hvalidated)).1, hstopped, hfiles', hlinks', hcommands, config, hrestarts⟩

end HostAgent.Net
