import HostAgent.Proofs.Net.Held
import HostAgent.Proofs.Net.Phases

/-!
# A pass that ends well

Success means that the host is as declared, whether or not anything had to be changed: the
configuration files hold what was rendered, every fixed address is among those that the host
reports, and the resolver knows a server. A host that reports its addresses and lacks one of them
makes the pass fail, and the error is about the first interface that is wrong.

* `Reported` -- an address is reported, in whatever spelling;
* `Converged` -- the host is as declared;
* `setupNetworking_converges` -- what success means, and what a missing address leads to.
-/

namespace HostAgent.Net

/-! ## 1. What is reported -/

/-- The host reports the address of a record for its interface, in whatever spelling. -/
def Reported (reported : List SystemAddress) (r : StaticRecord) : Prop :=
  ∃ a ∈ reported, a.interface = r.name
    ∧ ∃ address, Ip.Address.parse? a.ip = some address ∧ Ip.Address.parse? r.address = some address

/-- The error about a record whose address is not reported. -/
inductive Accuses (reported : List SystemAddress) (r : StaticRecord) : Error → Prop where
  /-- nothing is reported for the interface -/
  | unknown (unlisted : ∀ a ∈ reported, a.interface ≠ r.name) :
      Accuses reported r (.unknownInterface r.name)
  /-- other addresses are -/
  | mismatch (listed : ∃ a ∈ reported, a.interface = r.name) :
      Accuses reported r (.addressMismatch r.name r.address
        (Text.join ", " ((reported.filter fun a => a.interface = r.name).map SystemAddress.ip)))

/-- The error is about the first record of a list whose address is not reported. -/
def AccusesFirst (reported : List SystemAddress) (records : List StaticRecord) (e : Error) : Prop :=
  ∃ before record after, records = before ++ record :: after
    ∧ (∀ r ∈ before, Reported reported r) ∧ ¬ Reported reported record
    ∧ Accuses reported record e

section

variable {reported : List SystemAddress} {r : StaticRecord} {records : List StaticRecord}

/-- Two spellings of which one can be read are the same address when both are read as it. -/
theorem sameAddress_iff {s t : String} {address : Ip.Address}
    (ht : Ip.Address.parse? t = some address) :
    Ip.sameAddress s t = true ↔ Ip.Address.parse? s = some address := by
  unfold Ip.sameAddress
  rw [ht]
  cases hs : Ip.Address.parse? s with
  | none =>
    -- the same text would be read as well
    refine ⟨fun heq => ?_, nofun⟩
    rw [of_decide_eq_true heq, ht] at hs
    cases hs
  | some other => exact ⟨fun heq => congrArg some (of_decide_eq_true heq),
      fun heq => decide_eq_true (Option.some.inj heq)⟩

theorem reported_iff (hr : ∃ address, Ip.Address.parse? r.address = some address) :
    Reported reported r ↔ ((reported.filter fun a => a.interface = r.name).any
      fun a => Ip.sameAddress a.ip r.address) = true := by
  obtain ⟨address, hparse⟩ := hr
  simp only [List.any_eq_true, List.mem_filter, decide_eq_true_eq, sameAddress_iff hparse,
    Reported, hparse]
  constructor
  · rintro ⟨a, ha, hname, _, hip, heq⟩
    exact ⟨a, ⟨ha, hname⟩, hip.trans heq.symm⟩
  · rintro ⟨a, ⟨ha, hname⟩, hip⟩
    exact ⟨a, ha, hname, address, hip, rfl⟩

theorem addressFault?_eq_none_iff (hr : ∃ address, Ip.Address.parse? r.address = some address) :
    addressFault? reported r = none ↔ Reported reported r := by
  rw [reported_iff hr]
  unfold addressFault?
  dsimp only
  split
  · rename_i hnone
    rw [List.isEmpty_iff.mp hnone]
    exact ⟨nofun, nofun⟩
  · split
    · rename_i hsame
      exact ⟨fun _ => hsame, fun _ => rfl⟩
    · rename_i hsame
      exact ⟨nofun, fun h => absurd h hsame⟩

/-- **The fault is an error about the record.** -/
theorem accuses_of_addressFault? {e : Error} (h : addressFault? reported r = some e) :
    Accuses reported r e := by
  unfold addressFault? at h
  dsimp only at h
  split at h
  · rename_i hnone
    cases h
    refine .unknown fun a ha hname => ?_
    refine List.not_mem_nil (a := a) ?_
    rw [← List.isEmpty_iff.mp hnone]
    exact List.mem_filter.mpr ⟨ha, decide_eq_true hname⟩
  · rename_i hsome
    split at h
    · cases h
    · cases h
      refine .mismatch ?_
      obtain ⟨a, ha⟩ := List.exists_mem_of_ne_nil _ fun hnil => hsome (List.isEmpty_iff.mpr hnil)
      obtain ⟨hmem, hname⟩ := List.mem_filter.mp ha
      exact ⟨a, hmem, of_decide_eq_true hname⟩

/-- **Checking records in order ends well exactly when every address is reported.** -/
theorem verdict_ok_iff
    (hparse : ∀ r ∈ records, ∃ address, Ip.Address.parse? r.address = some address) :
    verdict (records.findSome? (addressFault? reported)) = .ok ()
      ↔ ∀ r ∈ records, Reported reported r := by
  have hnone : verdict (records.findSome? (addressFault? reported)) = .ok ()
      ↔ records.findSome? (addressFault? reported) = none := by
    cases records.findSome? (addressFault? reported) with
    | none => exact ⟨fun _ => rfl, fun _ => rfl⟩
    | some e => exact ⟨nofun, nofun⟩
  rw [hnone, List.findSome?_eq_none_iff]
  exact forall₂_congr fun r hr => addressFault?_eq_none_iff (hparse r hr)

/-- **Otherwise it ends with an error about the first one that is not.** -/
theorem accusesFirst_of_verdict
    (hparse : ∀ r ∈ records, ∃ address, Ip.Address.parse? r.address = some address) {e : Error}
    (he : verdict (records.findSome? (addressFault? reported)) = .error e) :
    AccusesFirst reported records e := by
  cases hfault : records.findSome? (addressFault? reported) with
  | none =>
    rw [hfault] at he
    cases he
  | some e' =>
    rw [hfault] at he
    cases he
    obtain ⟨before, record, after, rfl, hrecord, hbefore⟩ := List.findSome?_eq_some_iff.mp hfault
    refine ⟨before, record, after, rfl, fun r hr => ?_, ?_, accuses_of_addressFault? hrecord⟩
    · have hin : r ∈ before ++ record :: after := List.mem_append_left _ hr
      exact (addressFault?_eq_none_iff (hparse r hin)).mp (hbefore r hr)
    · have hin : record ∈ before ++ record :: after := List.mem_append_right _ List.mem_cons_self
      rw [← addressFault?_eq_none_iff (hparse record hin), hrecord]
      exact nofun

end

/-! ## 2. Where the addresses are asked for -/

section

variable {paths : NetPaths} {networks : Networks} {config : NetworkConfig}
  {h h' : Scripted} {log : List Event}

theorem ResolverWork.not_asks (hw : ResolverWork paths log) : listAddresses ∉ commandsIn log := by
  intro hc
  have heq := hw.command hc
  simp [listAddresses, updateResolver] at heq

theorem KernelWork.not_asks (hk : KernelWork log) : listAddresses ∉ commandsIn log := by
  obtain ⟨commands, hran, hall⟩ := hk.ran
  rw [hran.commandsIn_eq]
  intro hc
  obtain ⟨switch, heq⟩ := hall _ hc
  simp [listAddresses, setSwitchLine] at heq

theorem Converges.not_asks {interfaces : List String} {r : Except Error Unit} {phase : Phase}
    (hc : Converges paths config interfaces h log r phase) : listAddresses ∉ commandsIn log := by
  have hrestart : ∀ {r}, Restarted paths config interfaces h log r →
      listAddresses ∉ commandsIn log := fun restart => by
    rw [restart.commands]
    simp [listAddresses, killClients, dropLease, takeDown, bringUp]
  cases hc with
  | unchanged _ => exact List.not_mem_nil
  | restarted _ restart => exact hrestart restart
  | stopped _ restart _ => exact hrestart restart

theorem mem_commandsIn_of_ran {c : CommandLine} {answer : Except Error Output}
    (hran : .ran c answer ∈ log) : c ∈ commandsIn log := List.mem_filterMap.mpr ⟨_, hran, rfl⟩

/-- An answer to the question for addresses decides the check. -/
theorem AddressCheck.answered {records : List StaticRecord} {r : Except Error Unit}
    {output : Output} {reported : List SystemAddress} (hc : AddressCheck records log r)
    (hran : .ran listAddresses (.ok output) ∈ log)
    (hread : readAddresses output.stdout = .ok reported) :
    r = verdict (records.findSome? (addressFault? reported)) := by
  cases hc with
  | spared _ => cases hran
  | unanswered _ unread =>
    cases List.mem_singleton.mp hran
    exact absurd hread (unread output reported rfl)
  | compared _ read =>
    cases List.mem_singleton.mp hran
    cases read.symm.trans hread
    rfl

/-- A check that ends well has seen every address. -/
theorem AddressCheck.passed {records : List StaticRecord}
    (hparse : ∀ r ∈ records, ∃ address, Ip.Address.parse? r.address = some address)
    (hc : AddressCheck records log (.ok ())) :
    records = [] ∨ ∃ output reported, .ran listAddresses (.ok output) ∈ log
      ∧ readAddresses output.stdout = .ok reported ∧ ∀ r ∈ records, Reported reported r := by
  generalize hr : (Except.ok () : Except Error Unit) = r at hc
  cases hc with
  | spared none => exact Or.inl none
  | unanswered _ _ => cases hr
  | @compared output reported _ read =>
    exact Or.inr ⟨output, reported, List.mem_singleton_self _, read,
      (verdict_ok_iff hparse).mp hr.symm⟩

/-! ## 3. From the detection of interfaces on -/

/-- The host is as a configuration declares it, after a pass with the log. -/
structure Converged (paths : NetPaths) (config : NetworkConfig) (log : List Event) (h : Scripted) :
    Prop where
  interfaces : h.fileAt? paths.interfaces
    = some (Utf8.encode (interfacesFile config.dhcps config.statics config.dnsServers))
  dhclientConf : config.dhcps ≠ [] →
    h.fileAt? paths.dhclientConf = some (Utf8.encode (dhclientFile config.dnsServers))
  /-- every fixed address is in the answer of the host, unless its interface is an alias -/
  addresses : config.checked = [] ∨ ∃ output reported, .ran listAddresses (.ok output) ∈ log
    ∧ readAddresses output.stdout = .ok reported ∧ ∀ r ∈ config.checked, Reported reported r
  servers : config.dnsServers = [] ∨ ∃ bytes text, h.fileAt? paths.resolvConf = some bytes
    ∧ Utf8.decode bytes = .ok text ∧ ∃ server ∈ config.dnsServers, server.toList <:+: text.toList

/-- What was asked before does not matter. -/
theorem Converged.after {before : List Event} (hc : Converged paths config log h) :
    Converged paths config (before ++ log) h := by
  refine ⟨hc.interfaces, hc.dhclientConf, hc.addresses.imp_right ?_, hc.servers⟩
  rintro ⟨output, reported, hran, hread, hall⟩
  exact ⟨output, reported, List.mem_append_right _ hran, hread, hall⟩

theorem checked_parse {found : NameMap String} (hk : Configured paths networks h found config) :
    ∀ r ∈ config.checked, ∃ address, Ip.Address.parse? r.address = some address := fun _ hr =>
  statics_parse hk.records (List.mem_filter.mp hr).1

theorem Resolves.servers {dnsServers : List String} (hr : Resolves paths.resolvConf dnsServers h) :
    dnsServers = [] ∨ ∃ bytes text, h.fileAt? paths.resolvConf = some bytes
      ∧ Utf8.decode bytes = .ok text ∧ ∃ server ∈ dnsServers, server.toList <:+: text.toList := by
  rcases hr with hnone | ⟨bytes, text, hcontents, htext, hmentions⟩
  · exact Or.inl hnone
  · have hread : Utf8.decode bytes = .ok text := by
      unfold textOf at htext
      split at htext
      · rename_i hdecode
        cases htext
        exact hdecode
      · cases htext
    obtain ⟨server, hserver, hpart⟩ := List.any_eq_true.mp hmentions
    exact Or.inr ⟨bytes, text, Scripted.contents_eq_ok.mp hcontents, hread, server, hserver,
      Text.occursIn_iff.mp hpart⟩

/-- **A pass that ends well leaves the host as declared.** -/
theorem Course.converged {addresses : List InterfaceAddress} {phase : Phase}
    (hc : Course paths networks h log (.ok addresses) phase) (hl : Leads log h h')
    (hp : FilesPlain paths h) :
    ∃ found config, Configured paths networks h found config ∧ Converged paths config log h' := by
  obtain ⟨found, config, before, check, hknown, hlog, hcheck, hresolves, -, hphase⟩ := hc.passed hl
  obtain ⟨hfiles, -, -⟩ := hc.held hl hp hknown
  obtain ⟨hinterfaces, hdhclient⟩ := filesHold_iff.mp (hfiles (Or.inr hphase))
  refine ⟨found, config, hknown, hinterfaces, fun hsome => ?_, ?_, hresolves.servers⟩
  · refine hdhclient _ (if_neg fun hnone => hsome ?_)
    exact List.isEmpty_iff.mp hnone
  · refine (hcheck.passed (checked_parse hknown)).imp_right ?_
    rintro ⟨output, reported, hran, hread, hall⟩
    rw [hlog]
    exact ⟨output, reported, List.mem_append_right _ hran, hread, hall⟩

/-- **An address that is missing from the answer of the host** makes a pass fail, with an error
    about the first interface that is wrong. -/
theorem Course.accuses {found : NameMap String} {r : Except Error (List InterfaceAddress)}
    {phase : Phase} {output : Output} {reported : List SystemAddress}
    (hc : Course paths networks h log r phase) (hk : Configured paths networks h found config)
    (hran : .ran listAddresses (.ok output) ∈ log)
    (hread : readAddresses output.stdout = .ok reported)
    (hmissing : ∃ record ∈ config.checked, ¬ Reported reported record) :
    ∃ e, r = .error (.context "Validating static network configuration" e)
      ∧ AccusesFirst reported config.checked e := by
  cases hc with
  | unknown _ _ => cases hran
  | refused _ onKernel _ => exact absurd (mem_commandsIn_of_ran hran) onKernel.not_asks
  | stopped _ onKernel _ files =>
    rcases List.mem_append.mp hran with hran | hran
    · exact absurd (mem_commandsIn_of_ran hran) onKernel.not_asks
    · exact absurd (mem_commandsIn_of_ran hran) files.not_asks
  | @checked found' config' kernel bounce check h₁ h₂ r' _ _ known onKernel _ files _ checks =>
    obtain ⟨rfl, rfl⟩ := hk.unique known
    have hasked : .ran listAddresses (.ok output) ∈ check := by
      rcases List.mem_append.mp hran with hran | hran
      · rcases List.mem_append.mp hran with hran | hran
        · exact absurd (mem_commandsIn_of_ran hran) onKernel.not_asks
        · exact absurd (mem_commandsIn_of_ran hran) files.not_asks
      · exact hran
    have hparse := checked_parse hk
    -- a check that found nothing would have seen every address
    have hfails : ¬ AddressCheck config.checked check (.ok ()) := fun haddresses => by
      obtain ⟨record, hrecord, hunseen⟩ := hmissing
      have hall := (verdict_ok_iff hparse).mp (haddresses.answered hasked hread).symm
      exact hunseen (hall record hrecord)
    cases checks with
    | misaddressed addresses _ =>
      exact ⟨_, rfl, accusesFirst_of_verdict hparse (addresses.answered hasked hread).symm⟩
    | unresolved addresses _ => exact absurd addresses hfails
    | passed addresses _ _ => exact absurd addresses hfails

end

/-! ## 4. The whole pass -/

/-- **Success means that the host is as declared**, for every host and every script, as long as the
    configured files are at different places and the configuration files are no links. A host that
    answers the question for its addresses and lacks one of them makes the pass fail with an error
    about the first interface, in the order of names, that is wrong. -/
theorem setupNetworking_converges (paths : NetPaths) (networks : Networks)
    {a a' : Agent Scripted} {r : Except Error (Option (List InterfaceAddress))}
    (hpre : networks.isPreconfigured = false) (hapart : (filePlaces paths).Nodup)
    (hinterfaces : a.host.linkAt? paths.interfaces = none)
    (hdhclientConf : a.host.linkAt? paths.dhclientConf = none)
    (hpass : setupNetworking paths networks a = (r, a')) :
    let computed := (computeNetworkConfig paths networks (beforeDetection paths networks a)).1
    let log := logBy (setupNetworking paths networks) a
    Leads log a.host a'.host ∧ a'.host.commands = a.host.commands ++ linesIn log
      ∧ (r.isOk = true → ∃ config, computed = .ok config ∧ Converged paths config log a'.host)
      ∧ ∀ config output reported, computed = .ok config →
        .ran listAddresses (.ok output) ∈ log → readAddresses output.stdout = .ok reported →
        (∃ record ∈ config.checked, ¬ Reported reported record) →
          config.checked.Pairwise (fun r r' => r.name ≤ r'.name)
            ∧ ∃ e, r = .error (.context "Validating static network configuration" e)
              ∧ AccusesFirst reported config.checked e := by
  obtain ⟨hlog, hgoes⟩ := NetworkPass.of_eq hpass
  refine ⟨hlog, hlog.recorded.1, ?_⟩
  generalize logBy (setupNetworking paths networks) a = log, a'.phase = phase at hlog hgoes ⊢
  cases hgoes with
  | preconfigured pre _ _ =>
    rw [hpre] at pre
    cases pre
  | @configured resolver rest r _ _ onResolver leads course =>
    have hrest := hlog.rest leads
    have hplain : FilesPlain paths (beforeDetection paths networks a).host :=
      onResolver.plain leads hapart (.of_nodup hapart hinterfaces hdhclientConf)
    constructor
    · intro hok
      cases r with
      | error e => cases hok
      | ok addresses =>
        obtain ⟨found, config, hknown, hconverged⟩ := course.converged hrest hplain
        exact ⟨config, computed_iff.mpr ⟨found, hknown⟩, hconverged.after⟩
    · intro config output reported hcomputed hran hread hmissing
      obtain ⟨found, hknown⟩ := computed_iff.mp hcomputed
      have hasked : .ran listAddresses (.ok output) ∈ rest := by
        rcases List.mem_append.mp hran with hran | hran
        · exact absurd (mem_commandsIn_of_ran hran) onResolver.not_asks
        · exact hran
      obtain ⟨e, rfl, hfirst⟩ := course.accuses hknown hasked hread hmissing
      exact ⟨(statics_sorted hknown.records).filter _, e, rfl, hfirst⟩

/-- One network with a fixed address of IPv6, in capital letters. -/
def spelledNetwork : Networks :=
  NameMap.ofList
    [("private", { ip := "FD00:0::5", netmask := "64", mac := "00:15:5d:00:00:01" })]

/-- The addresses of a host as its tools print them. -/
def reportedAddresses : String :=
  "[\x7b\"ifname\":\"eth0\",\"addr_info\":[\x7b\"family\":\"inet6\",\"local\":\"fd00::5\"\x7d]\x7d]"

/-- A host with one interface, which reports that address. -/
def reportingHost : Agent Scripted :=
  { host := oneInterface.stand "ip -j addr show" (.success reportedAddresses) }

/-- The address is found in its other spelling, and the host is as declared. A host that is asked for
    its addresses as well, and reports none, makes the pass fail. -/
theorem reportingHost_converges :
    spelledNetwork.isPreconfigured = false ∧ (filePlaces {}).Nodup
      ∧ (setupNetworking {} spelledNetwork reportingHost).1.isOk = true
      ∧ (∃ config, (computeNetworkConfig {} spelledNetwork
              (beforeDetection {} spelledNetwork reportingHost)).1 = .ok config
          ∧ Converged {} config (logBy (setupNetworking {} spelledNetwork) reportingHost)
            (setupNetworking {} spelledNetwork reportingHost).2.host)
      ∧ listAddresses
        ∈ commandsIn (logBy (setupNetworking {} spelledNetwork) { host := oneInterface })
      ∧ (setupNetworking {} spelledNetwork { host := oneInterface }).1 = .error
        (.context "Validating static network configuration" (.unknownInterface "eth0")) := by
  have hpre : spelledNetwork.isPreconfigured = false := by decide +kernel
  have hapart : (filePlaces {}).Nodup := by decide +kernel
  have hok : (setupNetworking {} spelledNetwork reportingHost).1.isOk = true := by decide +kernel
  obtain ⟨-, -, hconverged, -⟩ := setupNetworking_converges {} spelledNetwork
    (a := reportingHost) hpre hapart rfl rfl (Prod.eta _).symm
  exact ⟨hpre, hapart, hok, hconverged hok, by decide +kernel, by decide +kernel⟩

end HostAgent.Net
