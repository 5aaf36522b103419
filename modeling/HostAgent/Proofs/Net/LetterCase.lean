import HostAgent.Net.Converge
import HostAgent.Host.Scripted
import HostAgent.Proofs.LetterCase
import HostAgent.Proofs.NameMap
import HostAgent.Proofs.Net.Records

/-!
# The letter case of MAC addresses

What is to be configured does not depend on the case of letters in MAC addresses, be they declared
or read from the host: both are put in lower case before they are compared, and no other spelling of
them is kept. So the outcome is the same, an error included, and the addresses in it have no capitals.

* `recordOf_lowerMac`, `configOf_lowerMacs` -- networks;
* `macIn_lowered`, `macsUnder_congr` -- addresses of interfaces;
* `macsUnder_noCapitals`, `recordOf_noCapitals` -- the outcome is in lower case;
* `computeNetworkConfig_letterCase` -- all of it.
-/

namespace HostAgent

/-! ## 1. Declared networks -/

/-- The network with the letters of its MAC address in lower case. -/
def Network.lowerMac (n : Network) : Network := { n with mac := Text.asciiLower n.mac }

namespace Networks

/-- The networks with the letters of their MAC addresses in lower case. -/
def lowerMacs (networks : Networks) : Networks := networks.mapValues Network.lowerMac

theorem nonVip_lowerMacs (networks : Networks) :
    networks.lowerMacs.nonVip = networks.nonVip.lowerMacs := NameMap.ext List.filter_map

theorem dnsServers_lowerMacs (networks : Networks) :
    networks.lowerMacs.dnsServers = networks.dnsServers := by
  have hdefault : networks.lowerMacs.defaultFor? .dns
      = (networks.defaultFor? .dns).map Network.lowerMac := by
    unfold defaultFor? lowerMacs
    rw [NameMap.values_mapValues]
    match networks.values with
    | [] => rfl
    | [n] => rfl
    | n :: n' :: ns => exact (List.find?_map (l := n :: n' :: ns))
  unfold dnsServers
  rw [hdefault]
  cases networks.defaultFor? .dns <;> rfl

end Networks

namespace Net

open Text (NoCapitals)

/-- The networks differ in the case of letters in MAC addresses only. -/
def SameButMacCase (networks networks' : Networks) : Prop :=
  networks.lowerMacs = networks'.lowerMacs

theorem interfaceOf_lowerMac (inferred : Option String) (found : NameMap String)
    (networkName : String) (n : Network) :
    interfaceOf inferred found networkName n.lowerMac
      = interfaceOf inferred found networkName n := by
  have hempty : (Text.asciiLower n.mac).isEmpty = n.mac.isEmpty := by
    rw [Bool.eq_iff_iff, String.isEmpty_iff, String.isEmpty_iff, ← String.toList_eq_nil_iff,
      ← String.toList_eq_nil_iff, Text.asciiLower, String.toList_ofList, List.map_eq_nil_iff]
  unfold interfaceOf Network.lowerMac
  simp only [hempty, Text.lowercase_asciiLower]
  rfl

theorem recordOf_lowerMac (isOnly : Bool) (inferred : Option String) (found : NameMap String)
    (networkName : String) (n : Network) :
    recordOf isOnly inferred found networkName n.lowerMac
      = recordOf isOnly inferred found networkName n := by
  unfold recordOf
  rw [interfaceOf_lowerMac]
  rfl

theorem recordsOf_lowerMacs (networks : Networks) (found : NameMap String) :
    recordsOf networks.lowerMacs found = recordsOf networks found := by
  have hsize : networks.lowerMacs.size = networks.size := List.length_map _
  unfold recordsOf inferredMac?
  rw [hsize, Networks.lowerMacs, NameMap.mapValues, List.mapM_map]
  simp only [Function.comp_def, recordOf_lowerMac]

/-- **What is configured on given interfaces does not depend on the case of declared addresses.** -/
theorem configOf_lowerMacs (networks : Networks) (found : NameMap String) :
    configOf networks.lowerMacs found = configOf networks found := by
  unfold configOf
  rw [Networks.nonVip_lowerMacs, recordsOf_lowerMacs, Networks.dnsServers_lowerMacs]

/-! ## 2. Interfaces of the host -/

section

variable {S : Type} [Files S] {directory : Path} {s s' : S}

/-- The contents of a file with its letters in lower case. -/
def lowered (contents : Except Fault Bytes) : Except Fault Bytes :=
  contents.map (List.map Utf8.lowerByte)

/-- Under the directory there are the same interfaces, and the files with their addresses differ in
    the case of letters only. -/
structure SameButAddressCase (directory : Path) (s s' : S) : Prop where
  entries : Files.entries s directory = Files.entries s' directory
  device {l : List Path} (listed : Files.entries s directory = .ok l) : ∀ entry ∈ l,
    Files.present s (entry.join "device") = Files.present s' (entry.join "device")
  address {l : List Path} (listed : Files.entries s directory = .ok l) : ∀ entry ∈ l,
    lowered (Files.contents s (entry.join "address"))
      = lowered (Files.contents s' (entry.join "address"))

/-- The address in the contents of a file. -/
def macIn (path : Path) (contents : Except Fault Bytes) : Except Error String := do
  let bs ← atPath path contents
  let text ← textOf path bs
  .ok (Text.lowercase (Text.trimmed text))

theorem textOf_lowered (path : Path) (bs : Bytes) :
    (textOf path (bs.map Utf8.lowerByte)).map Text.asciiLower
      = (textOf path bs).map Text.asciiLower := by
  have hdecode : ∀ bs, (textOf path bs).map Text.asciiLower
      = ((Utf8.decode bs).map Text.asciiLower).mapError fun fault =>
        .io path.text (.notText fault) := by
    intro bs
    rw [textOf]
    cases Utf8.decode bs <;> rfl
  rw [hdecode, hdecode, Utf8.decode_lowerByte]

/-- **The address in a file does not depend on the case of its letters**, nor does the error when it
    is not text. -/
theorem macIn_lowered (path : Path) (contents : Except Fault Bytes) :
    macIn path (lowered contents) = macIn path contents := by
  have hlower : ∀ text : Except Error String,
      (text.bind fun text => .ok (Text.lowercase (Text.trimmed text)))
        = ((text.map Text.asciiLower).bind fun text => .ok (Text.lowercase (Text.trimmed text))) := by
    intro text
    cases text with
    | error e => rfl
    | ok text =>
      show Except.ok _ = Except.ok _
      rw [Text.trimmed_asciiLower, Text.lowercase_asciiLower]
  cases contents with
  | error fault => rfl
  | ok bs =>
    show (textOf path (bs.map Utf8.lowerByte)).bind _ = (textOf path bs).bind _
    rw [hlower, textOf_lowered, ← hlower]

/-- **The same interfaces are found.** -/
theorem macsUnder_congr (h : SameButAddressCase directory s s') :
    macsUnder s directory = macsUnder s' directory := by
  unfold macsUnder
  rw [← h.entries]
  cases hentries : Files.entries s directory with
  | error fault => rfl
  | ok l =>
    refine foldlM_congr (fun found entry hentry => ?_) NameMap.empty
    have hmac : macAt s entry = macAt s' entry := by
      show macIn _ _ = macIn _ _
      rw [← macIn_lowered, h.address hentries entry hentry, macIn_lowered]
    unfold addEntry
    rw [h.device hentries entry hentry, hmac]

end

/-! ## 3. The outcome is in lower case -/

section

variable {S : Type} [Files S] {directory : Path} {s : S}

theorem macIn_noCapitals {path : Path} {contents : Except Fault Bytes} {mac : String}
    (h : macIn path contents = .ok mac) : NoCapitals mac := by
  obtain ⟨bs, -, h⟩ := bind_eq_ok h
  obtain ⟨text, -, h⟩ := bind_eq_ok h
  obtain rfl := Except.ok.inj h
  exact Text.lowercase_noCapitals _

theorem addEntry_noCapitals {found found' : NameMap String} {entry : Path}
    (hfound : ∀ mac ∈ found.keys, NoCapitals mac) (h : addEntry s found entry = .ok found') :
    ∀ mac ∈ found'.keys, NoCapitals mac := by
  unfold addEntry at h
  split at h
  · split at h
    · cases h
      exact hfound
    · cases hmac : macAt s entry with
      | error e => rw [hmac] at h; cases h
      | ok mac =>
        rw [hmac] at h
        cases h
        intro mac' hmac'
        obtain ⟨e, he, rfl⟩ := List.mem_map.mp hmac'
        rcases Entries.mem_put he with rfl | he
        · exact macIn_noCapitals hmac
        · exact hfound _ (List.mem_map_of_mem he)
  · cases h
    exact hfound

theorem macsUnder_noCapitals {found : NameMap String} (h : macsUnder s directory = .ok found) :
    ∀ mac ∈ found.keys, NoCapitals mac := by
  obtain ⟨entries, -, h⟩ := bind_eq_ok h
  exact foldlM_keeps (fun _ _ _ => addEntry_noCapitals) (fun _ hmac => absurd hmac List.not_mem_nil) h

end

section

variable {inferred : Option String} {found : NameMap String} {networkName : String} {n : Network}

theorem interfaceOf_noCapitals {name mac : String} (hinferred : ∀ mac ∈ inferred, NoCapitals mac)
    (h : interfaceOf inferred found networkName n = .ok (name, mac)) : NoCapitals mac := by
  unfold interfaceOf at h
  split at h
  · cases h
    exact Text.lowercase_noCapitals _
  · dsimp only at h
    split at h
    · cases h
      split
      · cases inferred with
        | none => exact Text.lowercase_noCapitals _
        | some mac => exact hinferred mac rfl
      · exact Text.lowercase_noCapitals _
    · cases h

/-- The MAC address of an interface. -/
def InterfaceRecord.mac : InterfaceRecord → String
  | .static r => r.mac
  | .dhcp r => r.mac

theorem recordOf_noCapitals {isOnly : Bool} {record : InterfaceRecord}
    (hinferred : ∀ mac ∈ inferred, NoCapitals mac)
    (h : recordOf isOnly inferred found networkName n = .ok record) : NoCapitals record.mac := by
  obtain ⟨name, mac, hinterface, ⟨-, rfl⟩ | ⟨-, r, rfl, hr⟩⟩ := recordOf_eq_ok h
  · exact interfaceOf_noCapitals hinferred hinterface
  · obtain ⟨-, -, hmac, -⟩ := staticRecord_eq_ok hr
    show NoCapitals r.mac
    rw [hmac]
    exact interfaceOf_noCapitals hinferred hinterface

end

/-- The MAC addresses of all records. -/
def NetworkConfig.macs (config : NetworkConfig) : List String :=
  config.statics.map StaticRecord.mac ++ config.dhcps.map DhcpRecord.mac

theorem configOf_noCapitals {networks : Networks} {found : NameMap String} {config : NetworkConfig}
    (hfound : ∀ mac ∈ found.keys, NoCapitals mac) (h : configOf networks found = .ok config) :
    ∀ mac ∈ config.macs, NoCapitals mac := by
  obtain ⟨records, hrecords, rfl⟩ := configOf_eq_ok h
  have hinferred : ∀ mac ∈ inferredMac? networks.nonVip found, NoCapitals mac := by
    intro mac hmac
    unfold inferredMac? at hmac
    split at hmac
    · exact hfound mac (List.mem_of_mem_head? hmac)
    · cases hmac
  have hall : ∀ record ∈ records, NoCapitals record.mac := fun record hmem => by
    obtain ⟨e, -, he⟩ := exists_of_forall₂ (mapM_eq_ok_iff.mp hrecords) hmem
    exact recordOf_noCapitals hinferred he
  intro mac hmac
  rcases List.mem_append.mp hmac with hmac | hmac
  · obtain ⟨r, hr, rfl⟩ := List.mem_map.mp hmac
    obtain ⟨record, hmem, hstatic⟩ := List.mem_filterMap.mp (List.mem_mergeSort.mp hr)
    cases record with
    | static _ => cases hstatic; exact hall _ hmem
    | dhcp _ => cases hstatic
  · obtain ⟨r, hr, rfl⟩ := List.mem_map.mp hmac
    obtain ⟨record, hmem, hdhcp⟩ := List.mem_filterMap.mp (List.mem_mergeSort.mp hr)
    cases record with
    | static _ => cases hdhcp
    | dhcp _ => cases hdhcp; exact hall _ hmem

/-! ## 4. What is to be configured -/

/-- Files with the letters in them in lower case. -/
def loweredFiles (files : List (Place × Bytes)) : List (Place × Bytes) :=
  files.map fun e => (e.1, e.2.map Utf8.lowerByte)

theorem get?_loweredFiles (p : Place) (files : List (Place × Bytes)) :
    Assoc.get? p (loweredFiles files) = (Assoc.get? p files).map (List.map Utf8.lowerByte) := by
  unfold loweredFiles
  induction files with
  | nil => rfl
  | cons e files ih =>
    rw [List.map_cons, Assoc.get?, Assoc.get?, ih]
    by_cases h : e.1 = p <;> simp [h]

/-- On a scripted host it is enough that the files differ in the case of letters only. -/
theorem sameButAddressCase_scripted {h : Scripted} {files : List (Place × Bytes)}
    (hfiles : loweredFiles h.files = loweredFiles files) (directory : Path) :
    SameButAddressCase directory h { h with files } := by
  have hkeys : Assoc.keys h.files = Assoc.keys files := by
    have hlowered := congrArg Assoc.keys hfiles
    unfold Assoc.keys loweredFiles at *
    rw [List.map_map, List.map_map] at hlowered
    exact hlowered
  have hplaces : ({ h with files } : Scripted).places = h.places := by
    unfold Scripted.places
    rw [hkeys]
  have hpresent : ∀ p, ({ h with files } : Scripted).presentAt p = h.presentAt p := fun p => by
    unfold Scripted.presentAt
    rw [hplaces]
  refine ⟨?_, fun _ entry _ => (hpresent _).symm, fun _ entry _ => ?_⟩
  · show Scripted.entries _ _ = Scripted.entries _ _
    unfold Scripted.entries Scripted.children
    rw [hpresent, hplaces]
  · have hcontents : ∀ g : Scripted, lowered (g.contents (entry.join "address"))
        = (Assoc.get? (g.resolve (entry.join "address")).components (loweredFiles g.files)).elim
          (.error (.said "file not found")) .ok := by
      intro g
      rw [get?_loweredFiles, Scripted.contents, Scripted.fileAt?]
      cases Assoc.get? (g.resolve (entry.join "address")).components g.files <;> rfl
    show lowered (h.contents _) = lowered (Scripted.contents _ _)
    rw [hcontents, hcontents, hfiles]
    rfl

theorem computeNetworkConfig_fst {S : Type} [Files S] (paths : NetPaths) (networks : Networks)
    (s : S) : (computeNetworkConfig paths networks s).1
      = ((macsUnder s paths.sysClassNet).mapError (.context "Getting network interfaces")).bind
        (configOf networks) := by
  unfold computeNetworkConfig
  rw [Pass.bind_apply, Pass.within_apply]
  unfold detectMacs
  dsimp only
  cases macsUnder s paths.sysClassNet <;> rfl

/-- **The case of letters in MAC addresses does not matter.** On two hosts whose interfaces differ in
    it only, networks that differ in it only have the same configuration, or the same error. The
    addresses in the configuration are in lower case. For a scripted host, any change of the case of
    letters in its files is such a difference. -/
theorem computeNetworkConfig_letterCase {S : Type} [Files S] {paths : NetPaths}
    {networks networks' : Networks} {s s' : S} (hnetworks : SameButMacCase networks networks')
    (hhosts : SameButAddressCase paths.sysClassNet s s') :
    (computeNetworkConfig paths networks s).1 = (computeNetworkConfig paths networks' s').1
      ∧ (∀ config, (computeNetworkConfig paths networks s).1 = .ok config →
        ∀ mac ∈ config.macs, NoCapitals mac)
      ∧ ∀ {h : Scripted} {files : List (Place × Bytes)},
        loweredFiles h.files = loweredFiles files →
          SameButAddressCase paths.sysClassNet h { h with files } := by
  refine ⟨?_, fun config h => ?_, fun hfiles => sameButAddressCase_scripted hfiles _⟩
  · have hconfig : configOf networks = configOf networks' := funext fun found => by
      rw [← configOf_lowerMacs networks, hnetworks, configOf_lowerMacs]
    rw [computeNetworkConfig_fst, computeNetworkConfig_fst, macsUnder_congr hhosts, hconfig]
  · rw [computeNetworkConfig_fst] at h
    obtain ⟨found, hfound, h⟩ := bind_eq_ok h
    refine configOf_noCapitals (fun mac hmac => ?_) h
    cases hmacs : macsUnder s paths.sysClassNet with
    | error e => rw [hmacs] at hfound; cases hfound
    | ok found' =>
      rw [hmacs] at hfound
      cases hfound
      exact macsUnder_noCapitals hmacs mac hmac

/-- A leased network and a fixed one on interfaces with the given addresses. -/
def leasedAndFixed (leased fixed : String) : Networks :=
  NameMap.ofList
    [("lan", { kind := .dynamic, mac := leased }),
     ("wan", { ip := "10.0.0.5", netmask := "255.255.255.0", mac := fixed })]

/-- A host with two interfaces, whose addresses are in capitals and small letters. -/
def mixedCaseHost : Scripted :=
  ({} : Scripted).addNetworkDevice ⟨"/sys/class/net"⟩ "eth0" "00:15:5D:aB:Cd:01"
    |>.addNetworkDevice ⟨"/sys/class/net"⟩ "eth1" "00:15:5d:AB:CD:02"

/-- Two spellings of two networks, on two spellings of a host. -/
theorem computeNetworkConfig_letterCase_mixed :
    SameButMacCase (leasedAndFixed "00:15:5D:AB:CD:01" "00:15:5d:ab:cd:02")
        (leasedAndFixed "00:15:5d:ab:CD:01" "00:15:5D:aB:cD:02")
      ∧ SameButAddressCase ⟨"/sys/class/net"⟩ mixedCaseHost
        { mixedCaseHost with files := loweredFiles mixedCaseHost.files }
      ∧ (computeNetworkConfig {} (leasedAndFixed "00:15:5D:AB:CD:01" "00:15:5d:ab:cd:02")
          mixedCaseHost).1
        = (computeNetworkConfig {} (leasedAndFixed "00:15:5d:ab:CD:01" "00:15:5D:aB:cD:02")
          { mixedCaseHost with files := loweredFiles mixedCaseHost.files }).1
      ∧ ((computeNetworkConfig {} (leasedAndFixed "00:15:5D:AB:CD:01" "00:15:5d:ab:cd:02")
          mixedCaseHost).1.map NetworkConfig.macs).toOption
        = some ["00:15:5d:ab:cd:02", "00:15:5d:ab:cd:01"] := by
  have hnetworks : SameButMacCase (leasedAndFixed "00:15:5D:AB:CD:01" "00:15:5d:ab:cd:02")
      (leasedAndFixed "00:15:5d:ab:CD:01" "00:15:5D:aB:cD:02") := by
    unfold SameButMacCase
    decide +kernel
  have hfiles : loweredFiles mixedCaseHost.files = loweredFiles (loweredFiles mixedCaseHost.files) := by
    decide +kernel
  have hhosts := sameButAddressCase_scripted hfiles ⟨"/sys/class/net"⟩
  exact ⟨hnetworks, hhosts, (computeNetworkConfig_letterCase hnetworks hhosts).1, by decide +kernel⟩

end Net

end HostAgent
