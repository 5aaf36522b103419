import HostAgent.Net.Audience
import HostAgent.Proofs.Net.Phases
import HostAgent.Proofs.Reconcile
import Mathlib.Data.List.TakeWhile

/-!
# What is announced

A pass ends in a list of addresses exactly when it ends well and had something to configure, and then
the host was validated last. The list has one entry per interface with an address of its own: fixed
addresses first, then those that are asked from the host when they are announced, each kind in the
order of interface names. It is handed over once, and in every other case nothing is announced. An
audience hears the list up to the first address that the host does not have.

* `EndsInNumber`, `isVirtualInterface_iff` -- the names of alias interfaces;
* `Describes`, `Announces` -- the list of a configuration, back to the networks;
* `Resolved`, `Heard` -- which part of a list is heard;
* `HandsOver`, `Silent` -- what becomes of a list, and what a pass without one announces;
* `setupNetworking_announces` -- when there is a list, what is in it, and who hears it.
-/

namespace HostAgent.Net

/-! ## 1. Alias interfaces -/

/-- The name ends in a colon and decimal digits. -/
def EndsInNumber (name : String) : Prop :=
  ∃ start digits, digits ≠ [] ∧ (∀ c ∈ digits, Text.isDecimalDigit c = true)
    ∧ name.toList = start ++ ':' :: digits

/-- **The names of alias interfaces** are those that end in a colon and digits. -/
theorem isVirtualInterface_iff (name : String) :
    isVirtualInterface name = true ↔ EndsInNumber name := by
  unfold isVirtualInterface
  rw [Bool.and_eq_true, decide_eq_true_eq, Bool.not_eq_true', List.isEmpty_eq_false_iff]
  constructor
  · intro h
    obtain ⟨hdigits, hcolon⟩ := h
    obtain ⟨start, hrest⟩ := List.head?_eq_some_iff.mp hcolon
    refine ⟨start.reverse, (name.toList.reverse.takeWhile Text.isDecimalDigit).reverse,
      fun hnil => hdigits (List.reverse_eq_nil_iff.mp hnil), fun c hc => ?_, ?_⟩
    · exact List.mem_takeWhile_imp (List.mem_reverse.mp hc)
    · have hsplit : name.toList.reverse
          = name.toList.reverse.takeWhile Text.isDecimalDigit ++ ':' :: start := by
        rw [← hrest]
        exact (List.prefix_iff_eq_append.mp (List.takeWhile_prefix _)).symm
      have hname := congrArg List.reverse hsplit
      rw [List.reverse_reverse, List.reverse_append, List.reverse_cons, List.append_assoc,
        List.singleton_append] at hname
      exact hname
  · intro h
    obtain ⟨start, digits, hdigits, hall, hname⟩ := h
    -- the colon is no digit, so that the digits end there
    have htake : name.toList.reverse.takeWhile Text.isDecimalDigit = digits.reverse := by
      have hcolon : Text.isDecimalDigit ':' = false := by decide +kernel
      rw [hname, List.reverse_append, List.reverse_cons, List.append_assoc,
        List.takeWhile_append_of_pos fun c hc => hall c (List.mem_reverse.mp hc)]
      simp [hcolon]
    rw [htake]
    refine ⟨fun hnil => hdigits (List.reverse_eq_nil_iff.mp hnil), ?_⟩
    rw [hname]
    simp

instance (name : String) : Decidable (EndsInNumber name) :=
  decidable_of_iff _ (isVirtualInterface_iff name)

/-! ## 2. From networks to addresses -/

/-- The record of a declared network, on interfaces that are known by their MAC addresses. -/
inductive Describes (inferred : Option String) (found : NameMap String) :
    String × Network → InterfaceRecord → Prop where
  /-- the network declares its address -/
  | static {e : String × Network} {r : StaticRecord} (fixed : e.2.isDhcp = false)
      (interface : interfaceOf inferred found e.1 e.2 = .ok (r.name, r.mac))
      (address : r.address = e.2.ip) : Describes inferred found e (.static r)
  | dhcp {e : String × Network} {r : DhcpRecord} (leased : e.2.isDhcp = true)
      (interface : interfaceOf inferred found e.1 e.2 = .ok (r.name, r.mac)) :
      Describes inferred found e (.dhcp r)

/-- The addresses that are announced for networks under their configuration. -/
structure Announces (networks : Networks) (found : NameMap String) (config : NetworkConfig)
    (addresses : List InterfaceAddress) : Prop where
  /-- the configuration has one record per network that is no virtual IP -/
  records : ∃ records, List.Forall₂ (Describes (inferredMac? networks.nonVip found) found)
      networks.nonVip.entries records
    ∧ config.statics.Perm (records.filterMap InterfaceRecord.static?)
    ∧ config.dhcps.Perm (records.filterMap InterfaceRecord.dhcp?)
  statics_sorted : config.statics.Pairwise fun r r' => r.name ≤ r'.name
  dhcps_sorted : config.dhcps.Pairwise fun r r' => r.name ≤ r'.name
  /-- alias interfaces have no address of their own -/
  addresses : addresses
    = ((config.statics.filter fun r => ¬ EndsInNumber r.name).map fun r =>
        .immediate r.name r.address)
      ++ config.dhcps.map fun r => .resolving r.name

section

variable {networks : Networks} {found : NameMap String} {config : NetworkConfig}

/-- **A network's record is about its interface and its address.** -/
theorem recordOf_describes {isOnly : Bool} {inferred : Option String} {e : String × Network}
    {record : InterfaceRecord} (h : recordOf isOnly inferred found e.1 e.2 = .ok record) :
    Describes inferred found e record := by
  obtain ⟨name, mac, hinterface, ⟨hleased, rfl⟩ | ⟨hfixed, r, rfl, hrecord⟩⟩ := recordOf_eq_ok h
  · exact .dhcp hleased hinterface
  · obtain ⟨-, rfl, rfl, haddress⟩ := staticRecord_eq_ok hrecord
    exact .static hfixed hinterface haddress

/-- **The announced addresses are those of the networks.** -/
theorem announces_of_configOf (h : configOf networks found = .ok config) :
    Announces networks found config (announcedAddresses config) := by
  obtain ⟨records, hrecords, rfl⟩ := configOf_eq_ok h
  refine ⟨⟨records, ?_, List.mergeSort_perm _ _, List.mergeSort_perm _ _⟩,
    sortedBy_pairwise _ _, sortedBy_pairwise _ _, ?_⟩
  · exact (mapM_eq_ok_iff.mp hrecords).imp fun e record hrecord => recordOf_describes hrecord
  · have halias : (fun r : StaticRecord => !r.isVirtual)
        = fun r => decide ¬ EndsInNumber r.name := by
      funext r
      rw [Bool.eq_iff_iff, Bool.not_eq_true', decide_eq_true_eq, ← isVirtualInterface_iff,
        Bool.not_eq_true]
      rfl
    unfold announcedAddresses staticAddresses
    rw [halias]

end

/-! ## 3. Hearing -/

section

variable {S : Type} [Commands S] {addresses : List InterfaceAddress} {s t : S}

/-- Addresses that the host has when it is asked for them one after another, with what is heard. -/
inductive Resolved : S → List InterfaceAddress → List (String × String) → S → Prop where
  | nil (s : S) : Resolved s [] [] s
  | cons {s t u : S} {address : InterfaceAddress} {ip : String} {more : List InterfaceAddress}
      {pairs : List (String × String)} (first : address.resolve s = (.ok ip, t))
      (rest : Resolved t more pairs u) :
      Resolved s (address :: more) ((address.interface, ip) :: pairs) u

/-- The audience hears a list of addresses up to the first one that the host does not have; the
    outcome is its error, if there is one. -/
inductive Heard (audience : Audience) (s : S) (addresses : List InterfaceAddress) :
    Except Error Unit → Audience → S → Prop where
  | all {pairs : List (String × String)} {t : S} (resolved : Resolved s addresses pairs t) :
      Heard audience s addresses (.ok ()) { audience with heard := audience.heard ++ pairs } t
  | upTo {before after : List InterfaceAddress} {address : InterfaceAddress}
      {pairs : List (String × String)} {t u : S} {e : Error}
      (split : addresses = before ++ address :: after) (resolved : Resolved s before pairs t)
      (fails : address.resolve t = (.error e, u)) :
      Heard audience s addresses (.error e)
        { audience with heard := audience.heard ++ pairs } u

/-- One more address in front. -/
theorem Heard.cons {audience audience' : Audience} {address : InterfaceAddress} {ip : String}
    {r : Except Error Unit} {u : S} (first : address.resolve s = (.ok ip, t))
    (h : Heard { audience with heard := audience.heard ++ [(address.interface, ip)] } t addresses r
      audience' u) : Heard audience s (address :: addresses) r audience' u := by
  cases h with
  | @all pairs _ resolved =>
    rw [List.append_assoc, List.singleton_append]
    exact .all (.cons first resolved)
  | @upTo before after address' pairs _ _ e split resolved fails =>
    rw [List.append_assoc, List.singleton_append]
    exact .upTo (congrArg (address :: ·) split) (.cons first resolved) fails

/-- **Hearing goes on up to the first address that the host does not have.** -/
theorem hearEach_heard (audience : Audience) (addresses : List InterfaceAddress) (s : S) :
    ∃ outcome audience' t, audience.hearEach addresses s = (.ok (outcome, audience'), t)
      ∧ Heard audience s addresses outcome audience' t := by
  induction addresses generalizing audience s with
  | nil =>
    refine ⟨.ok (), audience, s, rfl, ?_⟩
    have hall : Heard audience s [] (.ok ()) { audience with heard := audience.heard ++ [] } s :=
      .all (.nil s)
    rw [List.append_nil] at hall
    exact hall
  | cons address more ih =>
    rcases hresolve : address.resolve s with ⟨r, t⟩
    have htried : address.resolve.tried s = (.ok r, t) := by rw [Pass.tried_apply, hresolve]
    unfold Audience.hearEach
    rw [Pass.bind_ok htried]
    cases r with
    | error e =>
      refine ⟨.error e, audience, t, rfl, ?_⟩
      have hupTo : Heard audience s (address :: more) (.error e)
          { audience with heard := audience.heard ++ [] } t :=
        .upTo (List.nil_append _).symm (.nil s) hresolve
      rw [List.append_nil] at hupTo
      exact hupTo
    | ok ip =>
      obtain ⟨outcome, audience', u, hhear, hheard⟩ := ih _ t
      exact ⟨outcome, audience', u, hhear, hheard.cons hresolve⟩

end

/-! ## 4. When there is something to announce -/

section

variable {paths : NetPaths} {networks : Networks} {config : NetworkConfig} {log : List Event}
  {h h' : Scripted}

/-- The last thing in a log is a check that finds the host as it is configured. -/
structure ValidatedLast (paths : NetPaths) (config : NetworkConfig) (log : List Event)
    (h : Scripted) : Prop where
  addresses : ∃ before check, log = before ++ check ∧ AddressCheck config.checked check (.ok ())
  servers : Resolves paths.resolvConf config.dnsServers h

/-- What was done before does not matter. -/
theorem ValidatedLast.after {before : List Event} (hv : ValidatedLast paths config log h) :
    ValidatedLast paths config (before ++ log) h := by
  obtain ⟨more, check, rfl, hcheck⟩ := hv.addresses
  exact ⟨⟨before ++ more, check, (List.append_assoc _ _ _).symm, hcheck⟩, hv.servers⟩

/-- **A pass that ends well has validated the host last.** -/
theorem Course.validatedLast {addresses : List InterfaceAddress} {phase : Phase}
    (hc : Course paths networks h log (.ok addresses) phase) (hl : Leads log h h') :
    ∃ found config, Configured paths networks h found config
      ∧ addresses = announcedAddresses config ∧ phase = .validated
      ∧ ValidatedLast paths config log h' := by
  obtain ⟨found, config, before, check, hknown, hlog, hcheck, hresolves, haddresses, hphase⟩ :=
    hc.passed hl
  exact ⟨found, config, hknown, haddresses, hphase, ⟨before, check, hlog, hcheck⟩, hresolves⟩

/-- Nothing is announced when all networks are configured by other means. -/
theorem setupNetworking_silent {a : Agent Scripted} (hpre : networks.isPreconfigured = true)
    (addresses : List InterfaceAddress) :
    (setupNetworking paths networks a).1 ≠ .ok (some addresses) := by
  have hpass : setupNetworking paths networks a = ((writeResolvConf paths networks).within
      "Writing resolv.conf" >>= fun _ => pure none) { a with phase := .idle } := by
    unfold setupNetworking
    rw [if_pos hpre]
    rfl
  rw [hpass]
  rcases hresolver : (writeResolvConf paths networks).within "Writing resolv.conf"
    { a with phase := .idle } with ⟨e | u, b⟩
  · rw [Pass.bind_error hresolver]
    nofun
  · rw [Pass.bind_ok hresolver]
    nofun

end

/-! ## 5. The hand-over -/

/-- A list of addresses is handed over once, to the announcement: when networking is all that is
    brought to the settings, right after that; else when the disk is done as well. Every address then
    has its turn, and nothing is announced before. -/
structure HandsOver (config : AgentConfig) (settings : Settings) (a b : Agent Scripted)
    (addresses : List InterfaceAddress) : Prop where
  quiet : ∀ line ∈ linesIn (logBy (setupNetworking config.network settings.networks) a)
      ++ linesIn (logBy (Reconcile.partition config settings) b), isBackground line = false
  network : ∃ turns, Announcements config.arping config.network.sysClassNet b addresses turns
        (Reconcile.network config settings a).2
      ∧ logBy (Reconcile.network config settings) a
        = logBy (setupNetworking config.network settings.networks) a ++ turns.flatMap Turn.log
  apply : ∃ turns, Announcements config.arping config.network.sysClassNet
        (Reconcile.partition config settings b).2 addresses turns
        (Reconcile.apply config settings a).2
      ∧ logBy (Reconcile.apply config settings) a
        = logBy (setupNetworking config.network settings.networks) a
          ++ logBy (Reconcile.partition config settings) b ++ turns.flatMap Turn.log

/-- Nothing is announced, whether or not the disk is looked after. -/
def Silent (config : AgentConfig) (settings : Settings) (a : Agent Scripted) : Prop :=
  ∀ line ∈ linesIn (logBy (Reconcile.network config settings) a)
    ++ linesIn (logBy (Reconcile.apply config settings) a), isBackground line = false

section

variable {config : AgentConfig} {settings : Settings} {a b : Agent Scripted}
  {addresses : List InterfaceAddress} {r : Except Error (Option (List InterfaceAddress))}

/-- Bringing networking to the settings is the pass over it. -/
theorem converge_eq (hpass : setupNetworking config.network settings.networks a = (r, b)) :
    Reconcile.converge config settings a
      = (r.mapError fun e => .during "Failed to set up networking" (.pass e), b) := by
  unfold Reconcile.converge step
  rw [hpass]

/-- **The addresses that a pass ends in are handed over once.** -/
theorem handsOver (hpass : setupNetworking config.network settings.networks a
    = (.ok (some addresses), b)) : HandsOver config settings a b addresses := by
  have hconverge : Reconcile.converge config settings a = (.ok (some addresses), b) :=
    converge_eq hpass
  refine ⟨?_, ?_, ?_⟩
  · exact List.forall_mem_append.mpr
      ⟨(Reconcile.converge_log config settings a).2.2, (Reconcile.partition_log config settings b).2⟩
  · obtain ⟨turns, hturns, hlog⟩ :=
      announceAll_log config.arping config.network.sysClassNet addresses b
    have hnetwork : Reconcile.network config settings a
        = (.ok (), (Reconcile.background config (some addresses) b).2) := by
      unfold Reconcile.network
      rw [hconverge]
    refine ⟨turns, ?_, ?_⟩
    · rw [hnetwork]
      exact hturns
    · rw [← hlog, Reconcile.network_log hconverge]
      rfl
  · obtain ⟨turns, hturns, hlog⟩ := announceAll_log config.arping config.network.sysClassNet
      addresses (Reconcile.partition config settings b).2
    have happly : Reconcile.apply config settings a
        = ((Reconcile.partition config settings b).1, (Reconcile.background config (some addresses)
          (Reconcile.partition config settings b).2).2) := by
      unfold Reconcile.apply
      rw [hconverge]
    refine ⟨turns, ?_, ?_⟩
    · rw [happly]
      exact hturns
    · rw [← hlog, Reconcile.apply_log hconverge]
      rfl

/-- **Without addresses nothing is announced.** -/
theorem silent (hpass : setupNetworking config.network settings.networks a = (r, b))
    (hr : ∀ addresses, r ≠ .ok (some addresses)) : Silent config settings a := by
  have hconverge := converge_eq hpass
  have hnet := (Reconcile.converge_log config settings a).2.2
  cases r with
  | error e =>
    obtain ⟨hnetwork, happly⟩ := Reconcile.failed_log hconverge
    unfold Silent
    rw [hnetwork, happly]
    exact List.forall_mem_append.mpr ⟨hnet, hnet⟩
  | ok addresses =>
    cases addresses with
    | some l => exact absurd rfl (hr l)
    | none =>
      have hdisk := (Reconcile.partition_log config settings b).2
      have hnone : ∀ c, logBy (Reconcile.background config none) (c : Agent Scripted) = [] :=
        fun _ => rfl
      unfold Silent
      rw [Reconcile.network_log hconverge, Reconcile.apply_log hconverge, hnone, hnone,
        List.append_nil, List.append_nil, linesIn_append]
      exact List.forall_mem_append.mpr ⟨hnet, List.forall_mem_append.mpr ⟨hnet, hdisk⟩⟩

end

/-- **Addresses are announced once the host is validated, and never after a failure**, for every
    host and every script. A pass ends in a list of addresses exactly when it ends well and some
    network that is no virtual IP is not configured by other means. Then it has validated the host
    last, the list is that of its configuration, and it is handed over once; an audience in place of
    the network, as long as it does not refuse, hears it up to the first address that the host, as it
    is by then, does not have. In every other case nothing is announced. -/
theorem setupNetworking_announces (config : AgentConfig) (settings : Settings)
    {a b : Agent Scripted} {r : Except Error (Option (List InterfaceAddress))}
    (hpass : setupNetworking config.network settings.networks a = (r, b)) :
    let log := logBy (setupNetworking config.network settings.networks) a
    ((∃ addresses, r = .ok (some addresses)) ↔ r.isOk = true
        ∧ ∃ e ∈ settings.networks.entries, e.2.isVip = false ∧ e.2.preconfigured = false)
      ∧ ((∀ addresses, r ≠ .ok (some addresses)) → Silent config settings a)
      ∧ ∀ addresses, r = .ok (some addresses) →
        b.phase = .validated
          ∧ (∃ found computed, Leads log a.host b.host
            ∧ Configured config.network settings.networks
              (beforeDetection config.network settings.networks a).host found computed
            ∧ ValidatedLast config.network computed log b.host
            ∧ Announces settings.networks found computed addresses)
          ∧ HandsOver config settings a b addresses
          ∧ ∀ (audience : Audience) (c : Agent Scripted), audience.refusal = none →
            ∃ outcome audience' c', audience.hear addresses c = (.ok (outcome, audience'), c')
              ∧ Heard audience c addresses outcome audience' c' := by
  obtain ⟨hlog, hgoes⟩ := NetworkPass.of_eq hpass
  rw [← isPreconfigured_eq_false_iff]
  refine ⟨?_, silent hpass, fun addresses hr => ?_⟩
  · cases hpre : settings.networks.isPreconfigured with
    | true =>
      refine ⟨fun h => ?_, fun h => nomatch h.2⟩
      obtain ⟨addresses, heq⟩ := h
      exact absurd ((congrArg Prod.fst hpass).trans heq) (setupNetworking_silent hpre addresses)
    | false =>
      generalize logBy (setupNetworking config.network settings.networks) a = log, b.phase = phase
        at hgoes
      cases hgoes with
      | preconfigured pre _ _ =>
        rw [hpre] at pre
        cases pre
      | @configured resolver rest r _ _ _ _ _ =>
        cases r with
        | error e => exact ⟨nofun, fun h => nomatch h.1⟩
        | ok addresses => exact ⟨fun _ => ⟨rfl, rfl⟩, fun _ => ⟨addresses, rfl⟩⟩
  · have hover : HandsOver config settings a b addresses := handsOver (hr ▸ hpass)
    generalize logBy (setupNetworking config.network settings.networks) a = log, hphase : b.phase
      = phase at hlog hgoes ⊢
    cases hgoes with
    | preconfigured pre _ _ =>
      exact absurd ((congrArg Prod.fst hpass).trans hr) (setupNetworking_silent pre addresses)
    | @configured resolver rest r _ _ onResolver leads course =>
      have hrest := hlog.rest leads
      cases r with
      | error e => cases hr
      | ok addresses' =>
        cases hr
        obtain ⟨found, computed, hknown, rfl, rfl, hvalidated⟩ := course.validatedLast hrest
        refine ⟨rfl, ⟨found, computed, hlog, hknown, hvalidated.after,
          announces_of_configOf hknown.records⟩, hover, fun audience c hwilling => ?_⟩
        unfold Audience.hear
        rw [hwilling]
        exact hearEach_heard audience _ c

/-- A network with a fixed address, and one with a leased address. -/
def mixedNetworks : Networks :=
  NameMap.ofList
    [("leased", { kind := .dynamic, mac := "00:15:5d:00:00:02" }),
     ("private", { ip := "10.0.0.5", netmask := "255.255.255.0", mac := "00:15:5d:00:00:01" })]

/-- The settings of an agent with these networks and no disk. -/
def mixedSettings : Settings := { agentId := "agent-1", networks := mixedNetworks }

/-- One announcement per address. -/
def onceConfig : AgentConfig := { arping := { iterations := 1 } }

/-- A host with two interfaces, of which the first one has its address. -/
def mixedHost : Agent Scripted :=
  { host := (oneInterface.addNetworkDevice ⟨"/sys/class/net"⟩ "eth1" "00:15:5d:00:00:02").stand
      "ip -j addr show" (.success
        "[\x7b\"ifname\":\"eth0\",\"addr_info\":[\x7b\"family\":\"inet\",\"local\":\"10.0.0.5\"\x7d]\x7d]") }

/-- The fixed address comes first, and is announced and heard; the leased address is not there in
    time. -/
theorem setupNetworking_announces_mixed :
    (setupNetworking {} mixedNetworks mixedHost).1
        = .ok (some [.immediate "eth0" "10.0.0.5", .resolving "eth1"])
      ∧ (setupNetworking {} mixedNetworks mixedHost).2.phase = .validated
      ∧ HandsOver onceConfig mixedSettings mixedHost (setupNetworking {} mixedNetworks mixedHost).2
        [.immediate "eth0" "10.0.0.5", .resolving "eth1"]
      ∧ (Reconcile.network onceConfig mixedSettings mixedHost).2.host.commands
        = ["pkill dhclient", "resolvconf -d eth0.dhclient", "resolvconf -d eth1.dhclient",
          "ifdown --force eth1 eth0", "ifup --force eth1 eth0", "ip -j addr show",
          "arping -c 1 -U -I eth0 10.0.0.5", "ip -j addr show dev eth1"]
      ∧ ∃ outcome audience' b',
        Heard {} mixedHost [.immediate "eth0" "10.0.0.5", .resolving "eth1"] outcome audience' b'
          ∧ outcome.isOk = false ∧ audience'.heard = [("eth0", "10.0.0.5")] := by
  have hlist : (setupNetworking {} mixedNetworks mixedHost).1
      = .ok (some [.immediate "eth0" "10.0.0.5", .resolving "eth1"]) := by decide +kernel
  have hends : (Audience.hear {} [.immediate "eth0" "10.0.0.5", .resolving "eth1"] mixedHost).1.map
      (fun ending => (ending.1.isOk, ending.2.heard)) = .ok (false, [("eth0", "10.0.0.5")]) := by
    decide +kernel
  have hcommands : (Reconcile.network onceConfig mixedSettings mixedHost).2.host.commands
      = ["pkill dhclient", "resolvconf -d eth0.dhclient", "resolvconf -d eth1.dhclient",
        "ifdown --force eth1 eth0", "ifup --force eth1 eth0", "ip -j addr show",
        "arping -c 1 -U -I eth0 10.0.0.5", "ip -j addr show dev eth1"] := by decide +kernel
  have hpaths : onceConfig.network = {} := rfl
  have hnetworks : mixedSettings.networks = mixedNetworks := rfl
  have hannounces := setupNetworking_announces onceConfig mixedSettings (a := mixedHost)
    (Prod.eta _).symm
  rw [hpaths, hnetworks] at hannounces
  obtain ⟨hphase, -, hover, hhears⟩ := hannounces.2.2 _ hlist
  obtain ⟨outcome, audience', b', hhear, hheard⟩ := hhears {} mixedHost rfl
  rw [hhear] at hends
  obtain ⟨houtcome, haudience⟩ := Prod.mk.inj (Except.ok.inj hends)
  exact ⟨hlist, hphase, hover, hcommands, outcome, audience', b', hheard, houtcome, haudience⟩

end HostAgent.Net
