import HostAgent.Net.Converge
import HostAgent.Proofs.Blind

/-!
# What a pass over the network cannot see

A pass over the network goes by what its requests are answered, and by the phase that the agent
remembers. All its commands run in front, so that it ends alike on hosts that are alike there. An
announcement runs in the background, and ends alike on hosts of which no command tells them apart.

* `setupNetworking_blind` -- the pass over the network, from its parts;
* `announceAll_blind` -- the announcement of addresses.
-/

namespace HostAgent.Net

section

variable {S T : Type} [Host S] [Host T] {R : S → T → Prop}

/-! ## 1. Interfaces and files -/

section

variable {allowed : CommandLine → Prop}

/-- Interfaces are found by looking at files. -/
theorem detectMacs_blind (h : Likeness allowed R) (directory : Path) :
    Blind R (detectMacs directory) (detectMacs directory) := by
  refine .reading fun s t hst => ?_
  have hentry : (addEntry t : NameMap String → Path → _) = addEntry s := by
    funext found entry
    unfold addEntry macAt
    rw [h.contents hst, h.present hst]
  unfold macsUnder
  rw [h.entries hst, hentry]

theorem computeNetworkConfig_blind (h : Likeness allowed R) (paths : NetPaths)
    (networks : Networks) :
    Blind R (computeNetworkConfig paths networks) (computeNetworkConfig paths networks) :=
  .bind ((detectMacs_blind h _).within _) fun _ => .ofResult _

theorem keepResolvConf_blind (h : Likeness allowed R) (paths : NetPaths) :
    Blind R (keepResolvConf paths) (keepResolvConf paths) := by
  refine .bind ((h.followLinks _).within _) fun target => ?_
  split
  · exact (h.copyFile _ _).within _
  · exact .done ()

theorem writeBase_blind (h : Likeness allowed R) (paths : NetPaths) (dnsServers : List String) :
    Blind R (writeBase paths dnsServers) (writeBase paths dnsServers) := by
  unfold writeBase
  split
  · exact keepResolvConf_blind h paths
  · exact (h.writeFile _ _).within _

theorem writeNetworkConfigs_blind (h : Likeness allowed R) (paths : NetPaths) (interfaces : String)
    (dhclient : Option String) (dryRun : Bool) :
    Blind R (writeNetworkConfigs paths interfaces dhclient dryRun)
      (writeNetworkConfigs paths interfaces dhclient dryRun) := by
  have htext : ∀ path text,
      Blind R (convergeText path text dryRun) (convergeText path text dryRun) :=
    fun path text => (h.convergeFile _ _ _).within _
  refine .bind (htext _ _) fun changed => ?_
  cases dhclient with
  | none => exact .done _
  | some text => exact .bind (htext _ _) fun _ => .done _

theorem validateDns_blind (h : Likeness allowed R) (resolvConf : Path) (dnsServers : List String) :
    Blind R (validateDns resolvConf dnsServers) (validateDns resolvConf dnsServers) := by
  unfold validateDns
  split
  · exact .done ()
  · refine .bind ((h.readText _).within _) fun contents => ?_
    split
    · exact .done ()
    · exact .fail _

end

/-! ## 2. Commands in front -/

theorem writeResolvConf_blind (h : Likeness InFront R) (paths : NetPaths) (networks : Networks) :
    Blind R (writeResolvConf paths networks) (writeResolvConf paths networks) := by
  refine .bind (writeBase_blind h paths _) fun _ => .bind ((h.makeLink _ _).within _) fun _ => ?_
  exact .bind ((h.tool _ (by decide)).within _) fun _ => .done ()

theorem setupIpv6_blind (h : Likeness InFront R) (enable : Bool) :
    Blind R (setupIpv6 enable) (setupIpv6 enable) := by
  have hswitch : ∀ switch, Blind R (setSwitch switch) (setSwitch switch) := fun switch =>
    .bind ((h.tool _ (by decide)).within _) fun _ => .done ()
  unfold setupIpv6
  split
  · exact (Blind.forEach fun switch _ => hswitch switch).within _
  · exact .done ()

theorem removeDhcpDns_blind (h : Likeness InFront R) (paths : NetPaths) :
    Blind R (removeDhcpDns paths) (removeDhcpDns paths) := by
  refine .bind (h.tool _ (by decide)).ignored fun _ => ?_
  refine .bind ((detectMacs_blind h _).within _) fun interfaces => ?_
  exact .forEach fun interface _ => (h.tool _ (by decide)).ignored

theorem runInterfaceCommand_blind (h : Likeness InFront R) {command : String}
    (hcommand : command ∈ netTools) (names : List String) :
    Blind R (runInterfaceCommand command names) (runInterfaceCommand command names) := by
  unfold runInterfaceCommand
  split
  · exact .done ()
  · exact (h.tool _ (List.mem_append_left _ hcommand)).ignored

/-- **Validation asks for no address of a single interface**: fixed ones are known. -/
theorem validateAddresses_blind (h : Likeness InFront R) (config : NetworkConfig) :
    Blind R (validateAddresses (staticAddresses config))
      (validateAddresses (staticAddresses config)) := by
  have hlist : Blind R getSystemAddresses getSystemAddresses :=
    .bind ((h.runCommand (by decide)).within _) fun _ => .ofResult _
  unfold validateAddresses
  split
  · exact .done ()
  · refine .bind (hlist.within _) fun reported => .forEach fun address haddress => ?_
    obtain ⟨r, -, rfl⟩ := List.mem_map.mp haddress
    unfold validateAddress
    dsimp only
    split
    · exact .fail _
    · refine .bind (.done _) fun expected => ?_
      split
      · exact .done ()
      · exact .fail _

end

/-! ## 3. The pass -/

section

variable {H K : Type} [Host H] [Host K] {R : H → K → Prop}

omit [Host H] [Host K] in
/-- The phase is part of what an agent remembers. -/
theorem advance_blind (next : Phase) : Blind (Agent.Like R) (advance next) (advance next) := by
  intro a b hab
  unfold advance
  rw [hab.phase]
  cases a.phase.advance next with
  | ok phase => exact ⟨rfl, hab.host, rfl, hab.owner⟩
  | error e => exact ⟨rfl, hab⟩

theorem applyNetworkConfig_blind (h : Likeness InFront R) (paths : NetPaths)
    (config : NetworkConfig) :
    Blind (Agent.Like R) (applyNetworkConfig paths config) (applyNetworkConfig paths config) := by
  have hdown := runInterfaceCommand_blind h.agent (by decide : "ifdown" ∈ netTools)
    config.interfaceNames
  have hup := runInterfaceCommand_blind h.agent (by decide : "ifup" ∈ netTools)
    config.interfaceNames
  refine .bind (removeDhcpDns_blind h.agent paths) fun _ => .bind hdown fun _ => ?_
  refine .bind (advance_blind _) fun _ => ?_
  refine .bind (writeNetworkConfigs_blind h.agent paths _ _ _).tried fun outcome => ?_
  cases outcome with
  | ok _ => exact .bind (advance_blind _) fun _ => .bind hup fun _ => advance_blind _
  | error e => exact .bind hup fun _ => .fail _

theorem convergeFiles_blind (h : Likeness InFront R) (paths : NetPaths) (config : NetworkConfig) :
    Blind (Agent.Like R) (convergeFiles paths config) (convergeFiles paths config) := by
  refine .bind ((writeNetworkConfigs_blind h.agent paths _ _ _).within _) fun changed => ?_
  split
  · exact applyNetworkConfig_blind h paths config
  · exact .done ()

theorem validateNetwork_blind (h : Likeness InFront R) (paths : NetPaths) (config : NetworkConfig) :
    Blind (Agent.Like R) (validateNetwork paths config) (validateNetwork paths config) :=
  .bind ((validateAddresses_blind h.agent config).within _) fun _ =>
    .bind ((validateDns_blind h.agent _ _).within _) fun _ => advance_blind _

/-- The pass from the detection of interfaces on. -/
def convergeConfigured (paths : NetPaths) (networks : Networks) :
    Pass (Agent H) (List InterfaceAddress) := do
  let config ← computeNetworkConfig paths networks
  setupIpv6 config.hasVersion6
  convergeFiles paths config
  validateNetwork paths config
  return announcedAddresses config

theorem convergeConfigured_blind (h : Likeness InFront R) (paths : NetPaths) (networks : Networks) :
    Blind (Agent.Like R) (convergeConfigured paths networks) (convergeConfigured paths networks) :=
  .bind (computeNetworkConfig_blind h.agent paths networks) fun config =>
    .bind (setupIpv6_blind h.agent _) fun _ => .bind (convergeFiles_blind h paths config) fun _ =>
      .bind (validateNetwork_blind h paths config) fun _ => .done _

/-- **The pass over the network** ends alike on hosts that are alike in front, and asks the same of
    them. -/
theorem setupNetworking_blind (h : Likeness InFront R) (paths : NetPaths) (networks : Networks) :
    Blind (Agent.Like R) (setupNetworking paths networks) (setupNetworking paths networks) := by
  have hidle : Blind (Agent.Like R) (Pass.change fun a => { a with phase := .idle })
      (Pass.change fun a => { a with phase := .idle }) :=
    fun a b hab => ⟨rfl, hab.host, rfl, hab.owner⟩
  have hresolver := writeResolvConf_blind h.agent paths networks
  have hconverge : Blind (Agent.Like R) (convergeNetworks paths networks)
      (convergeNetworks paths networks) := by
    unfold convergeNetworks
    split
    · exact .bind hresolver.ignored fun _ => convergeConfigured_blind h paths networks
    · exact convergeConfigured_blind h paths networks
  unfold setupNetworking
  refine .bind hidle fun _ => ?_
  split
  · exact .bind (hresolver.within _) fun _ => .done none
  · exact .bind hconverge fun _ => .done _

end

/-! ## 4. The announcement -/

section

variable {S T : Type} [Host S] [Host T] {R : S → T → Prop}

theorem awaitPresence_blind (h : Likeness (fun _ => True) R) (delayMs : UInt64) (path : Path)
    (left : Nat) :
    Blind R (awaitPresence delayMs path left) (awaitPresence delayMs path left) := by
  induction left with
  | zero => exact h.filePresent path
  | succ left ih =>
    refine .bind (h.filePresent path) fun present => ?_
    split
    · exact .done true
    · exact .bind (h.pause delayMs) fun _ => ih

theorem resolve_blind (h : Likeness (fun _ => True) R) (address : InterfaceAddress) :
    Blind R address.resolve address.resolve := by
  cases address with
  | immediate interface ip => exact .done ip
  | resolving interface =>
    refine .bind ((h.runCommand trivial).within _) fun output => .bind (.ofResult _) fun _ => ?_
    split
    · exact .done _
    · exact .fail _

theorem arpings_blind (h : Likeness (fun _ => True) R) (delayMs : UInt64) (interface ip : String)
    (count : Nat) :
    Blind R (arpings delayMs interface ip count) (arpings delayMs interface ip count) := by
  have harping : Blind R (arping interface ip) (arping interface ip) := by
    refine .bind (h.runCommand trivial).tried fun answer => ?_
    split
    · exact .done none
    · exact .done _
  induction count using arpings.induct with
  | case1 => exact .done none
  | case2 => exact harping
  | case3 count ih =>
    exact .bind harping fun _ => .bind (h.pause _) fun _ => .bind ih fun _ => .done _

theorem announce_blind (h : Likeness (fun _ => True) R) (policy : ArpingPolicy) (directory : Path)
    (address : InterfaceAddress) :
    Blind R (announce policy directory address) (announce policy directory address) := by
  have hawait : Blind R (awaitInterface policy directory address.interface)
      (awaitInterface policy directory address.interface) := by
    refine .bind (awaitPresence_blind h _ _ _) fun present => ?_
    split
    · exact .done ()
    · exact .fail _
  refine .bind hawait fun _ => .bind (resolve_blind h address) fun ip => ?_
  split
  · exact .done ()
  · refine .bind (arpings_blind h _ _ _ _) fun fault => ?_
    split
    · exact .done ()
    · exact .fail _

/-- **The announcement** ends alike on hosts that no command tells apart, and asks the same of
    them. -/
theorem announceAll_blind (h : Likeness (fun _ => True) R) (policy : ArpingPolicy)
    (directory : Path) (addresses : List InterfaceAddress) :
    Blind R (announceAll policy directory addresses) (announceAll policy directory addresses) := by
  have heach : Blind R (announceEach policy directory addresses)
      (announceEach policy directory addresses) := by
    induction addresses with
    | nil => exact .done none
    | cons address more ih =>
      refine .bind (announce_blind h policy directory address).tried fun result => ?_
      refine .bind ih fun later => ?_
      split
      · exact .done later
      · exact .done _
  refine .bind heach fun fault => ?_
  split
  · exact .done ()
  · exact .fail _

end

end HostAgent.Net
