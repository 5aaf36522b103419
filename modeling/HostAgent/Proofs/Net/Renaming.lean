import HostAgent.Proofs.Net.Again
import HostAgent.Proofs.Net.VirtualIps
import Mathlib.Data.List.Perm.Basic

/-!
# Names of networks

The name of a network orders the networks and is named in errors; no record shows it. Under other
names the records come in another order, and sorting them by their interfaces undoes that.

* `sortedBy_eq_of_perm` -- sorting forgets the order when the names are distinct;
* `configOf_perm` -- the same networks in any order have the same configuration;
* `setupNetworking_perm` -- and a pass over them is the same pass;
* `computeNetworkConfig_renamed` -- so it is under other names.
-/

namespace HostAgent

/-! ## 1. The same networks in another order -/

/-- There is one order of at most one thing. -/
theorem eq_of_perm_of_length_le_one {α : Type} {l l' : List α} (hperm : l'.Perm l)
    (hone : l.length ≤ 1) : l' = l := by
  match l, hone with
  | [], _ => exact hperm.eq_nil
  | [a], _ => exact List.perm_singleton.mp hperm

namespace Networks

variable {networks networks' : Networks}

theorem values_nonVip (networks : Networks) :
    networks.nonVip.values = networks.values.filter fun n => !n.isVip :=
  NameMap.values_filter _ networks

theorem nonVip_perm (hvalues : networks'.values.Perm networks.values) :
    networks'.nonVip.values.Perm networks.nonVip.values := by
  rw [values_nonVip, values_nonVip]
  exact hvalues.filter _

theorem size_eq_of_perm (hvalues : networks'.values.Perm networks.values) :
    networks'.size = networks.size := by
  have hlength : ∀ ns : Networks, ns.size = ns.values.length := fun _ => (List.length_map _).symm
  rw [hlength, hlength, hvalues.length_eq]

theorem isPreconfigured_eq_of_perm (hvalues : networks'.values.Perm networks.values) :
    networks'.isPreconfigured = networks.isPreconfigured :=
  (hvalues.filter _).all_eq

theorem hasInterfaceAlias_eq_of_perm (hvalues : networks'.values.Perm networks.values) :
    networks'.hasInterfaceAlias = networks.hasInterfaceAlias :=
  hvalues.any_eq

/-- At most one network is declared to be the default for DNS. -/
def OneDnsDefault (networks : Networks) : Prop :=
  (networks.namesWhere fun n => n.defaultFor.has .dns).length ≤ 1

instance (networks : Networks) : Decidable networks.OneDnsDefault :=
  inferInstanceAs (Decidable (_ ≤ 1))

theorem length_namesWhere (networks : Networks) (test : Network → Bool) :
    (networks.namesWhere test).length = (networks.values.filter test).length := by
  unfold namesWhere NameMap.values
  rw [List.length_map, List.filter_map, List.length_map]
  rfl

/-- **The servers are those of one network**, whatever comes before it. -/
theorem dnsServers_eq_of_perm (hvalues : networks'.values.Perm networks.values)
    (hdns : networks.OneDnsDefault) : networks'.dnsServers = networks.dnsServers := by
  have hdeclared : (networks'.values.filter fun n => n.defaultFor.has .dns)
      = networks.values.filter fun n => n.defaultFor.has .dns := by
    refine eq_of_perm_of_length_le_one (hvalues.filter _) ?_
    rw [← length_namesWhere]
    exact hdns
  have hfound : (networks'.values.find? fun n => n.defaultFor.has .dns)
      = networks.values.find? fun n => n.defaultFor.has .dns := by
    rw [← List.head?_filter, ← List.head?_filter, hdeclared]
  have hdefault : networks'.defaultFor? .dns = networks.defaultFor? .dns := by
    unfold defaultFor?
    split
    · rename_i n hlone
      rw [hlone] at hvalues
      rw [List.perm_singleton.mp hvalues.symm]
    · rename_i hmany
      split
      · rename_i n hlone
        rw [hlone] at hvalues
        exact absurd (List.perm_singleton.mp hvalues) (hmany n)
      · exact hfound
  unfold dnsServers
  rw [hdefault]

end Networks

namespace Net

/-! ## 2. Records -/

/-- A list that is sorted by distinct names is the same in whatever order it was. -/
theorem sortedBy_eq_of_perm {α : Type} {name : α → String} {l l' : List α} (hperm : l'.Perm l)
    (hnames : ((sortedBy name l).map name).Nodup) : sortedBy name l' = sortedBy name l := by
  have hsorted : (sortedBy name l').Perm (sortedBy name l) :=
    (List.mergeSort_perm l' _).trans (hperm.trans (List.mergeSort_perm l _).symm)
  refine List.Perm.eq_of_pairwise ?_ (sortedBy_pairwise name l') (sortedBy_pairwise name l) hsorted
  intro a b ha hb hab hba
  exact List.inj_on_of_nodup_map hnames (hsorted.subset ha) hb (String.le_antisymm hab hba)

/-- The record of a network, which is the same under every name. -/
def Recorded (isOnly : Bool) (inferred : Option String) (found : NameMap String) (n : Network)
    (r : InterfaceRecord) : Prop :=
  ∀ name, recordOf isOnly inferred found name n = .ok r

section

variable {isOnly : Bool} {inferred : Option String} {found : NameMap String} {n : Network}
  {r : InterfaceRecord} {name : String}

theorem interfaceOf_unnamed {place : String × String}
    (h : interfaceOf inferred found name n = .ok place) (name' : String) :
    interfaceOf inferred found name' n = .ok place := by
  unfold interfaceOf at h ⊢
  split
  · rename_i hname
    rw [hname] at h
    exact h
  · rename_i hname
    rw [hname] at h
    simp only at h ⊢
    split
    · rename_i hget
      rw [hget] at h
      exact h
    · rename_i hget
      rw [hget] at h
      cases h

theorem staticRecord_unnamed {interface mac : String} {isDefault : Bool} {record : StaticRecord}
    (h : staticRecord name interface mac n isDefault = .ok record) (name' : String) :
    staticRecord name' interface mac n isDefault = .ok record := by
  unfold staticRecord at h ⊢
  split
  · rename_i hsubnet
    rw [hsubnet] at h
    cases h
  · rename_i hsubnet
    rw [hsubnet] at h
    exact h

/-- A network that has a record has it under every name: only errors show the name. -/
theorem recorded_iff : recordOf isOnly inferred found name n = .ok r
    ↔ Recorded isOnly inferred found n r := by
  refine ⟨fun h name' => ?_, fun h => h name⟩
  obtain ⟨interface, mac, hplace, hkind⟩ := recordOf_eq_ok h
  unfold recordOf
  rw [interfaceOf_unnamed hplace name']
  rcases hkind with ⟨hleased, rfl⟩ | ⟨hfixed, record, rfl, hrecord⟩
  · show (if n.isDhcp = true then _ else _) = _
    rw [if_pos hleased]
  · show (if n.isDhcp = true then _ else _) = _
    rw [if_neg (Bool.eq_false_iff.mp hfixed), staticRecord_unnamed hrecord name']
    rfl

end

section

variable {networks networks' : Networks} {found : NameMap String} {records : List InterfaceRecord}

/-- The records are those of the values. -/
theorem recordsOf_eq_ok_iff : recordsOf networks found = .ok records
    ↔ List.Forall₂ (Recorded (networks.size = 1) (inferredMac? networks found) found)
      networks.values records := by
  unfold recordsOf NameMap.values
  rw [mapM_eq_ok_iff, List.forall₂_map_left_iff]
  simp only [recorded_iff]

/-- **The same networks in any order have the same records**, up to their order. -/
theorem recordsOf_perm (hvalues : networks'.values.Perm networks.values)
    (h : recordsOf networks found = .ok records) :
    ∃ records', recordsOf networks' found = .ok records' ∧ records'.Perm records := by
  have hsize : networks'.size = networks.size := Networks.size_eq_of_perm hvalues
  have hinferred : inferredMac? networks' found = inferredMac? networks found := by
    unfold inferredMac?
    rw [hsize]
  obtain ⟨records', hrecorded, hperm⟩ := List.perm_comp_forall₂ hvalues (recordsOf_eq_ok_iff.mp h)
  refine ⟨records', recordsOf_eq_ok_iff.mpr ?_, hperm⟩
  rw [hsize, hinferred]
  exact hrecorded

/-! ## 3. Configurations -/

/-- No interface has two records of one kind. -/
structure NetworkConfig.OncePerKind (config : NetworkConfig) : Prop where
  statics : (config.statics.map StaticRecord.name).Nodup
  dhcps : (config.dhcps.map DhcpRecord.name).Nodup

variable {config : NetworkConfig}

/-- **The same networks in any order have the same configuration.** -/
theorem configOf_perm (hvalues : networks'.values.Perm networks.values)
    (hdns : networks.nonVip.OneDnsDefault) (h : configOf networks found = .ok config)
    (honce : config.OncePerKind) : configOf networks' found = .ok config := by
  obtain ⟨records, hrecords, rfl⟩ := configOf_eq_ok h
  have hkept : networks'.nonVip.values.Perm networks.nonVip.values := Networks.nonVip_perm hvalues
  obtain ⟨records', hrecords', hperm⟩ := recordsOf_perm hkept hrecords
  have hsame : NetworkConfig.ofRecords records' networks'.nonVip.dnsServers
      = .ofRecords records networks.nonVip.dnsServers := by
    rw [Networks.dnsServers_eq_of_perm hkept hdns]
    unfold NetworkConfig.ofRecords
    rw [sortedBy_eq_of_perm (hperm.filterMap _) honce.statics,
      sortedBy_eq_of_perm (hperm.filterMap _) honce.dhcps]
  unfold configOf
  rw [hrecords', ← hsame]
  rfl

/-- What is computed of the same networks in another order. -/
theorem computeNetworkConfig_perm {S : Type} [Files S] (paths : NetPaths)
    (hvalues : networks'.values.Perm networks.values) (hdns : networks.nonVip.OneDnsDefault) {s : S}
    (h : (computeNetworkConfig paths networks s).1 = .ok config) (honce : config.OncePerKind) :
    computeNetworkConfig paths networks' s = (.ok config, s) := by
  have hdetect : ∃ r : Except Error (NameMap String),
      (detectMacs paths.sysClassNet).within "Getting network interfaces" s = (r, s) := by
    rw [Pass.within_apply]
    exact ⟨_, rfl⟩
  obtain ⟨r, hr⟩ := hdetect
  unfold computeNetworkConfig at h ⊢
  cases r with
  | error e =>
    rw [Pass.bind_error hr] at h
    cases h
  | ok found =>
    rw [Pass.bind_ok hr] at h ⊢
    have hconfig : configOf networks found = .ok config := h
    show (configOf networks' found, s) = _
    rw [configOf_perm hvalues hdns hconfig honce]

/-! ## 4. Passes -/

theorem writeResolvConf_perm {S : Type} [Host S] (paths : NetPaths)
    (hvalues : networks'.values.Perm networks.values) (hdns : networks.nonVip.OneDnsDefault) :
    (writeResolvConf paths networks' : Pass S Unit) = writeResolvConf paths networks := by
  unfold writeResolvConf
  rw [Networks.dnsServers_eq_of_perm (Networks.nonVip_perm hvalues) hdns]

variable {paths : NetPaths} {a : Agent Scripted}

/-- The resolver is looked after in the same way. -/
theorem beforeDetection_perm (hvalues : networks'.values.Perm networks.values)
    (hdns : networks.nonVip.OneDnsDefault) :
    beforeDetection paths networks' a = beforeDetection paths networks a := by
  unfold beforeDetection
  rw [Networks.hasInterfaceAlias_eq_of_perm hvalues, writeResolvConf_perm paths hvalues hdns]

/-- The pass from the detection of interfaces on depends on the configuration alone. -/
theorem convergeConfigured_congr
    (h : computeNetworkConfig paths networks' a = computeNetworkConfig paths networks a) :
    convergeConfigured paths networks' a = convergeConfigured paths networks a := by
  unfold convergeConfigured
  rw [Pass.bind_apply, Pass.bind_apply, h]

/-- **A pass over the same networks in another order is the same pass.** -/
theorem setupNetworking_perm (hvalues : networks'.values.Perm networks.values)
    (hdns : networks.nonVip.OneDnsDefault)
    (h : (computeNetworkConfig paths networks (beforeDetection paths networks a)).1 = .ok config)
    (honce : config.OncePerKind) :
    setupNetworking paths networks' a = setupNetworking paths networks a := by
  have hresolver : (writeResolvConf paths networks' : Pass (Agent Scripted) Unit)
      = writeResolvConf paths networks := writeResolvConf_perm paths hvalues hdns
  have hcomputed : computeNetworkConfig paths networks' (beforeDetection paths networks a)
      = computeNetworkConfig paths networks (beforeDetection paths networks a) :=
    (computeNetworkConfig_perm paths hvalues hdns h honce).trans
      (computeNetworkConfig_perm paths (.refl _) hdns h honce).symm
  have hrest := convergeConfigured_congr hcomputed
  have hconverge : convergeNetworks paths networks' { a with phase := .idle }
      = convergeNetworks paths networks { a with phase := .idle } := by
    unfold convergeNetworks
    rw [Networks.hasInterfaceAlias_eq_of_perm hvalues, hresolver]
    unfold beforeDetection at hrest
    by_cases halias : networks.hasInterfaceAlias = true
    · rw [if_pos halias] at hrest
      rw [if_pos halias, if_pos halias]
      exact hrest
    · rw [if_neg halias] at hrest
      rw [if_neg halias, if_neg halias]
      exact hrest
  unfold setupNetworking
  rw [Networks.isPreconfigured_eq_of_perm hvalues, hresolver]
  show (if networks.isPreconfigured = true then _ else _ : Pass (Agent Scripted) _) _
    = (if networks.isPreconfigured = true then _ else _ : Pass (Agent Scripted) _) _
  by_cases hpre : networks.isPreconfigured = true
  · rw [if_pos hpre, if_pos hpre]
  · rw [if_neg hpre, if_neg hpre, Pass.bind_apply, Pass.bind_apply, hconverge]

/-- A pass that finds its texts in the files touches no interface. -/
theorem setupNetworking_calm
    (h : (computeNetworkConfig paths networks (beforeDetection paths networks a)).1 = .ok config)
    (hheld : filesHold paths (beforeDetection paths networks a).host config = true) :
    let log := logBy (setupNetworking paths networks) a
    (setupNetworking paths networks a).2.host.commands = a.host.commands ++ linesIn log
      ∧ Calm log := by
  obtain ⟨found, hknown⟩ := computed_iff.mp h
  obtain ⟨hlog, hgoes⟩ := NetworkPass.of_eq (Prod.eta (setupNetworking paths networks a)).symm
  refine ⟨hlog.recorded.1, ?_⟩
  generalize logBy (setupNetworking paths networks) a = log, (setupNetworking paths networks a).1 = r,
    (setupNetworking paths networks a).2.phase = phase at hgoes
  cases hgoes with
  | preconfigured _ onResolver _ => exact onResolver.calm
  | configured _ onResolver _ course =>
    obtain ⟨kernel, check, rfl, hkernel, hcheck⟩ := course.leaves_alone hknown hheld
    exact calm_append.mpr ⟨onResolver.calm, calm_append.mpr ⟨hkernel.calm, hcheck.calm⟩⟩

/-! ## 5. Other names -/

/-- **Names of networks do not matter.** Take networks of which at most one is declared to provide
    DNS, virtual IPs apart, and a host on which they have a configuration with no interface twice
    among the records of one kind. Under any other distinct names they have the same configuration
    there, and so the same texts for the files. If it is computed in a pass, then the pass is the
    same under the other names; and once the files hold the texts that were rendered before, it takes
    no interface down. -/
theorem computeNetworkConfig_renamed (paths : NetPaths) {networks : Networks} {f : String → String}
    (hnames : (networks.keys.map f).Nodup) (hdns : networks.nonVip.OneDnsDefault) :
    (∀ {S : Type} [Files S] {s : S} {config : NetworkConfig},
      (computeNetworkConfig paths networks s).1 = .ok config → config.OncePerKind →
        computeNetworkConfig paths (networks.rename f) s = (.ok config, s))
      ∧ ∀ {a : Agent Scripted} {config : NetworkConfig},
        (computeNetworkConfig paths networks (beforeDetection paths networks a)).1 = .ok config →
          config.OncePerKind →
            setupNetworking paths (networks.rename f) a = setupNetworking paths networks a
              ∧ (filesHold paths (beforeDetection paths networks a).host config = true →
                let log := logBy (setupNetworking paths (networks.rename f)) a
                (setupNetworking paths (networks.rename f) a).2.host.commands
                    = a.host.commands ++ linesIn log
                  ∧ Calm log) := by
  have hvalues : (networks.rename f).values.Perm networks.values :=
    NameMap.values_rename_perm hnames
  refine ⟨fun h honce => computeNetworkConfig_perm paths hvalues hdns h honce, ?_⟩
  intro a config h honce
  refine ⟨setupNetworking_perm hvalues hdns h honce, fun hheld => ?_⟩
  have hbefore : beforeDetection paths (networks.rename f) a = beforeDetection paths networks a :=
    beforeDetection_perm hvalues hdns
  have hcomputed : (computeNetworkConfig paths (networks.rename f)
      (beforeDetection paths (networks.rename f) a)).1 = .ok config := by
    rw [hbefore, computeNetworkConfig_perm paths hvalues hdns h honce]
  rw [← hbefore] at hheld
  exact setupNetworking_calm hcomputed hheld

end

/-- Two networks of a host and a virtual IP. -/
def namedNetworks : Networks :=
  NameMap.ofList
    [("admin", { ip := "10.0.0.5", netmask := "255.255.255.0", gateway := "10.0.0.1",
                 dns := ["10.0.0.1"], mac := "00:15:5d:00:00:01",
                 defaultFor := { dns := true, gateway := true } }),
     ("private", { ip := "10.1.0.5", netmask := "255.255.0.0", mac := "00:15:5d:00:00:02" }),
     ("shared", { kind := .vip, ip := "10.0.0.100" })]

/-- The two exchange their names. -/
def exchanged (name : String) : String :=
  match name with
  | "admin" => "private"
  | "private" => "admin"
  | name => name

/-- The record of the first network. -/
def adminRecord : StaticRecord :=
  { name := "eth0", address := "10.0.0.5", netmask := "255.255.255.0", network := "10.0.0.0",
    broadcast := "10.0.0.255", gateway := "10.0.0.1", isDefaultForGateway := true,
    isVersion6 := false, mac := "00:15:5d:00:00:01", routes := [] }

/-- The record of the second network. -/
def privateRecord : StaticRecord :=
  { name := "eth1", address := "10.1.0.5", netmask := "255.255.0.0", network := "10.1.0.0",
    broadcast := "10.1.255.255", gateway := "", isDefaultForGateway := false, isVersion6 := false,
    mac := "00:15:5d:00:00:02", routes := [] }

/-- The configuration of the networks. -/
def namedConfig : NetworkConfig :=
  { statics := [adminRecord, privateRecord], dhcps := [], dnsServers := ["10.0.0.1"] }

/-- The interfaces of the networks. -/
def namedInterfaces : NameMap String :=
  NameMap.ofList [("00:15:5d:00:00:01", "eth0"), ("00:15:5d:00:00:02", "eth1")]

/-- A host that has them, with the configuration in its files. -/
def namedHost : Agent Scripted :=
  { host := oneInterface.addNetworkDevice ⟨"/sys/class/net"⟩ "eth1" "00:15:5d:00:00:02"
      |>.putFile ⟨"/etc/network/interfaces"⟩ (Utf8.encode namedConfig.interfaces) }

theorem configOf_namedNetworks : configOf namedNetworks namedInterfaces = .ok namedConfig := by
  have hrecords : recordsOf namedNetworks.nonVip namedInterfaces
      = .ok [.static adminRecord, .static privateRecord] := by decide +kernel
  have hservers : namedNetworks.nonVip.dnsServers = ["10.0.0.1"] := rfl
  have hstatics : sortedBy StaticRecord.name [adminRecord, privateRecord]
      = [adminRecord, privateRecord] := List.mergeSort_of_pairwise (by decide)
  have hdhcps : sortedBy DhcpRecord.name [] = [] := List.mergeSort_nil
  unfold configOf
  rw [hrecords, hservers]
  show Except.ok (NetworkConfig.mk (sortedBy StaticRecord.name [adminRecord, privateRecord])
    (sortedBy DhcpRecord.name []) ["10.0.0.1"]) = _
  rw [hstatics, hdhcps]
  rfl

/-- The two networks come in the other order, and have the same configuration; the next pass takes
    no interface down. -/
theorem computeNetworkConfig_renamed_exchanged :
    (namedNetworks.keys.map exchanged).Nodup ∧ namedNetworks.nonVip.OneDnsDefault
      ∧ (namedNetworks.rename exchanged).values ≠ namedNetworks.values
      ∧ (computeNetworkConfig {} namedNetworks namedHost).1 = .ok namedConfig
      ∧ namedConfig.OncePerKind
      ∧ computeNetworkConfig {} (namedNetworks.rename exchanged) namedHost
        = (.ok namedConfig, namedHost)
      ∧ beforeDetection {} namedNetworks namedHost = namedHost
      ∧ filesHold {} namedHost.host namedConfig = true
      ∧ (setupNetworking {} (namedNetworks.rename exchanged) namedHost).2.host.commands
        = linesIn (logBy (setupNetworking {} (namedNetworks.rename exchanged)) namedHost)
      ∧ Calm (logBy (setupNetworking {} (namedNetworks.rename exchanged)) namedHost) := by
  have hnames : (namedNetworks.keys.map exchanged).Nodup := by decide
  have hdns : namedNetworks.nonVip.OneDnsDefault := by decide
  have honce : namedConfig.OncePerKind := ⟨by decide, by decide⟩
  have hmacs : macsUnder namedHost.host ⟨"/sys/class/net"⟩ = .ok namedInterfaces := by
    decide +kernel
  have hcomputed : (computeNetworkConfig {} namedNetworks namedHost).1 = .ok namedConfig :=
    computed_iff.mpr ⟨namedInterfaces, hmacs, configOf_namedNetworks⟩
  have hbefore : beforeDetection {} namedNetworks namedHost = namedHost := if_neg (by decide)
  have hlinks : namedHost.host.links = ({} : Scripted).links := by decide +kernel
  have hplain : FilesPlain {} namedHost.host :=
    ⟨by decide, Scripted.linkAt?_congr hlinks _, Scripted.linkAt?_congr hlinks _⟩
  have hfile : namedHost.host.fileAt? ⟨"/etc/network/interfaces"⟩
      = some (Utf8.encode namedConfig.interfaces) := by
    rw [Scripted.fileAt?_of_plain hplain.interfaces]
    show Assoc.get? _ (Assoc.set _ _ _) = _
    rw [Assoc.get?_set, if_pos rfl]
  have hheld : filesHold {} namedHost.host namedConfig = true :=
    filesHold_iff.mpr ⟨hfile, fun _ hleased => nomatch hleased⟩
  obtain ⟨hconfig, hpass⟩ := computeNetworkConfig_renamed {} hnames hdns
  have hdetected : (computeNetworkConfig {} namedNetworks
      (beforeDetection {} namedNetworks namedHost)).1 = .ok namedConfig := by
    rw [hbefore]
    exact hcomputed
  obtain ⟨-, hcalm⟩ := hpass hdetected honce
  rw [hbefore] at hcalm
  obtain ⟨hcommands, hquiet⟩ := hcalm hheld
  have hfresh : namedHost.host.commands = [] := by decide +kernel
  rw [hfresh, List.nil_append] at hcommands
  exact ⟨hnames, hdns, by decide, hcomputed, honce, hconfig hcomputed honce, hbefore, hheld,
    hcommands, hquiet⟩

end Net

end HostAgent
