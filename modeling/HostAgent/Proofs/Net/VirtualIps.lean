import HostAgent.Agent.Reconcile
import HostAgent.Proofs.NameMap
import HostAgent.Proofs.Net.Phases

/-!
# Virtual IPs

No interface has a virtual IP, so declaring one configures nothing. The networks that are no virtual
IPs decide what a pass does, and the rules for a lone network count those alone. One question is
asked of all networks: whether one is bound to an alias interface.

* `Networks.AddsVips` -- virtual IPs under new names, none of them on an alias interface;
* `setupNetworking_congr` -- what a pass depends on;
* `setupNetworking_plus_vips` -- a pass is the same with such virtual IPs and without them.
-/

namespace HostAgent

/-! ## 1. Networks -/

namespace Networks

variable {networks vips : Networks}

/-- The networks with more of them declared. -/
def plus (networks more : Networks) : Networks := networks.union more

theorem get?_plus (networks more : Networks) (name : String) :
    (networks.plus more).get? name = (more.get? name).or (networks.get? name) :=
  NameMap.get?_union networks more name

/-- The second networks are virtual IPs under names that the first ones do not have, and none is
    bound to an alias interface. -/
def AddsVips (networks vips : Networks) : Prop :=
  ∀ e ∈ vips.entries, e.2.isVip = true ∧ e.2.hasAlias = false ∧ networks.get? e.1 = none

instance (networks vips : Networks) : Decidable (AddsVips networks vips) :=
  inferInstanceAs (Decidable (∀ e ∈ vips.entries, _))

theorem AddsVips.of_get? (h : AddsVips networks vips) {name : String} {n : Network}
    (hget : vips.get? name = some n) :
    n.isVip = true ∧ n.hasAlias = false ∧ networks.get? name = none :=
  h (name, n) (NameMap.mem_entries_iff.mpr hget)

/-- **The networks that are no virtual IPs stay the same.** -/
theorem nonVip_plus (h : AddsVips networks vips) :
    (networks.plus vips).nonVip = networks.nonVip := by
  refine NameMap.ext_get? fun name => ?_
  unfold nonVip
  rw [NameMap.get?_filter, NameMap.get?_filter, get?_plus]
  cases hvip : vips.get? name with
  | none => rw [Option.none_or]
  | some n =>
    obtain ⟨hn, -, hfresh⟩ := h.of_get? hvip
    rw [Option.some_or, hfresh, Option.filter_none, Option.filter_some, hn]
    rfl

/-- The same networks are bound to alias interfaces. -/
theorem hasInterfaceAlias_plus (h : AddsVips networks vips) :
    (networks.plus vips).hasInterfaceAlias = networks.hasInterfaceAlias := by
  unfold hasInterfaceAlias
  rw [Bool.eq_iff_iff, NameMap.any_values_iff, NameMap.any_values_iff]
  refine exists_congr fun name => exists_congr fun n => and_congr_left fun halias => ?_
  rw [get?_plus]
  cases hvip : vips.get? name with
  | none => rw [Option.none_or]
  | some n' =>
    obtain ⟨-, hn', hfresh⟩ := h.of_get? hvip
    rw [Option.some_or, hfresh]
    -- the virtual IP is on no alias interface
    have hne : n' ≠ n := by
      rintro rfl
      rw [hn'] at halias
      cases halias
    simp [hne]

/-- Whether all addresses are there already is asked of networks that are no virtual IPs. -/
theorem isPreconfigured_eq (networks : Networks) :
    networks.isPreconfigured = networks.nonVip.values.all fun n => n.preconfigured := by
  unfold isPreconfigured nonVip NameMap.values
  rw [NameMap.entries_filter, List.filter_map]
  rfl

end Networks

namespace Net

/-! ## 2. What a pass depends on -/

section

variable {S H : Type} {networks networks' : Networks}

theorem configOf_congr (h : networks.nonVip = networks'.nonVip) :
    configOf networks = configOf networks' := by
  funext interfaces
  unfold configOf
  rw [h]

theorem computeNetworkConfig_congr [Files S] (paths : NetPaths)
    (h : networks.nonVip = networks'.nonVip) :
    (computeNetworkConfig paths networks : Pass S NetworkConfig)
      = computeNetworkConfig paths networks' := by
  unfold computeNetworkConfig
  rw [configOf_congr h]

theorem writeResolvConf_congr [Commands S] [Files S] (paths : NetPaths)
    (h : networks.nonVip = networks'.nonVip) :
    (writeResolvConf paths networks : Pass S Unit) = writeResolvConf paths networks' := by
  unfold writeResolvConf
  rw [h]

/-- **A pass depends on the networks that are no virtual IPs**, and on whether some network is bound
    to an alias interface. -/
theorem setupNetworking_congr [Commands H] [Files H] (paths : NetPaths)
    (h : networks.nonVip = networks'.nonVip)
    (halias : networks.hasInterfaceAlias = networks'.hasInterfaceAlias) :
    (setupNetworking paths networks : Pass (Agent H) _) = setupNetworking paths networks' := by
  have hconverge : (convergeNetworks paths networks : Pass (Agent H) _)
      = convergeNetworks paths networks' := by
    unfold convergeNetworks
    rw [halias, writeResolvConf_congr paths h, computeNetworkConfig_congr paths h]
  unfold setupNetworking
  rw [Networks.isPreconfigured_eq, Networks.isPreconfigured_eq networks', h, hconverge,
    writeResolvConf_congr paths h]

end

/-! ## 3. Virtual IPs added -/

/-- **Virtual IPs change nothing**, on every host. Whether all addresses are there already, and what
    is to be configured on any interfaces, is as without them: the rules for a lone network, by
    which its MAC address is inferred and it provides the default route and the name servers, count
    the other networks alone. So a pass is the same on every agent: it ends alike, with the same
    addresses to announce, and leaves the same commands, files and phase behind; and so does the
    convergence that announces them. -/
theorem setupNetworking_plus_vips {H : Type} [Host H] (paths : NetPaths) {networks vips : Networks}
    (hvips : networks.AddsVips vips) :
    (networks.plus vips).isPreconfigured = networks.isPreconfigured
      ∧ (∀ interfaces, configOf (networks.plus vips) interfaces = configOf networks interfaces)
      ∧ (∀ a : Agent H,
        setupNetworking paths (networks.plus vips) a = setupNetworking paths networks a)
      ∧ ∀ (config : AgentConfig) (settings : Settings) (a : Agent H),
        Reconcile.network config { settings with networks := networks.plus vips } a
          = Reconcile.network config { settings with networks } a := by
  have hsame : (networks.plus vips).nonVip = networks.nonVip := Networks.nonVip_plus hvips
  have halias : (networks.plus vips).hasInterfaceAlias = networks.hasInterfaceAlias :=
    Networks.hasInterfaceAlias_plus hvips
  refine ⟨?_, fun interfaces => ?_, fun a => ?_, fun config settings a => ?_⟩
  · rw [Networks.isPreconfigured_eq, Networks.isPreconfigured_eq networks, hsame]
  · rw [configOf_congr hsame]
  · rw [setupNetworking_congr paths hsame halias]
  · unfold Reconcile.network Reconcile.converge
    rw [setupNetworking_congr config.network hsame halias]

/-- A lone network without a MAC address, which is declared to be the default for nothing. -/
def loneNetwork : Networks :=
  NameMap.ofList
    [("private", { ip := "10.0.0.5", netmask := "255.255.255.0", gateway := "10.0.0.1",
                   dns := ["10.0.0.1"] })]

/-- Virtual IPs on both sides of it, one of which claims to be the default for everything. -/
def claimingVips : Networks :=
  NameMap.ofList
    [("front", { kind := .vip, ip := "10.0.0.100", mac := "00:15:5d:00:00:09", dns := ["10.9.9.9"],
                 defaultFor := { dns := true, gateway := true } }),
     ("shared", { kind := .vip, ip := "10.0.0.101", aliasName := some "" })]

/-- A host with one interface that has the address of the lone network. -/
def loneHost : Agent Scripted :=
  { host := (oneInterface.putFile ⟨"/etc/resolv.conf"⟩ (Utf8.encode "nameserver 10.0.0.1\n")).stand
      "ip -j addr show" (.success
        "[\x7b\"ifname\":\"eth0\",\"addr_info\":[\x7b\"family\":\"inet\",\"local\":\"10.0.0.5\"\x7d]\x7d]") }

/-- The network is still alone among virtual IPs: its interface is found without a MAC address, and
    it is announced. -/
theorem setupNetworking_plus_vips_loneNetwork :
    loneNetwork.AddsVips claimingVips
      ∧ setupNetworking {} (loneNetwork.plus claimingVips) loneHost
        = setupNetworking {} loneNetwork loneHost
      ∧ (setupNetworking {} (loneNetwork.plus claimingVips) loneHost).1
        = .ok (some [.immediate "eth0" "10.0.0.5"]) := by
  have hvips : loneNetwork.AddsVips claimingVips := by decide +kernel
  obtain ⟨-, -, hpass, -⟩ := setupNetworking_plus_vips (H := Scripted) {} hvips
  refine ⟨hvips, hpass loneHost, ?_⟩
  rw [hpass loneHost]
  decide +kernel

end Net

end HostAgent
