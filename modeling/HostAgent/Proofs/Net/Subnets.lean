import HostAgent.Proofs.Ip
import HostAgent.Proofs.Net.Records

/-!
# The subnet of a network

A network with a fixed address has a record exactly if its interface is found and its netmask names a
mask of the family of its address. For IPv4 that is the mask as an address; for IPv6 it is the mask
or the number of its ones, and the record does not show which. Network and broadcast address follow
from the bits of address and mask.

* `subnet4_eq_ok_iff`, `subnet6_eq_ok_iff` -- the subnet of an address;
* `recordsOf_only_eq_ok_iff` -- when a network that is declared alone has a record;
* `only_subnet` -- what the record says of the subnet.
-/

namespace HostAgent

/-- One network, declared alone. -/
def Networks.only (name : String) (n : Network) : Networks := NameMap.ofList [(name, n)]

namespace Net

/-! ## 1. Subnets -/

theorem subnetOf_v4 {ip : String} {a : Ip.V4} (hip : Ip.Address.parse? ip = some (.v4 a))
    (netmask : String) : subnetOf ip netmask = subnet4 a netmask := by
  unfold subnetOf
  rw [hip]

theorem subnetOf_v6 {ip : String} {a : Ip.V6} (hip : Ip.Address.parse? ip = some (.v6 a))
    (netmask : String) : subnetOf ip netmask = subnet6 a netmask := by
  unfold subnetOf
  rw [hip]

/-- An IPv4 address has a subnet under every mask. -/
theorem subnet4_eq_ok_iff {a : Ip.V4} {netmask : String} {subnet : Subnet} :
    subnet4 a netmask = .ok subnet ↔ ∃ mask length, Ip.V4.parse? netmask = some mask
      ∧ Ip.IsMask mask.bits length
      ∧ subnet = ⟨netmask, (Ip.V4.mk (a.bits &&& mask.bits)).text,
          (Ip.V4.mk (a.bits ||| ~~~mask.bits)).text, false⟩ := by
  unfold subnet4
  constructor
  · intro h
    split at h
    · cases h
    · rename_i mask hparse
      split at h
      · cases h
      · rename_i length hlength
        cases h
        exact ⟨mask, length, hparse, Ip.maskLength?_eq_some_iff.mp hlength, rfl⟩
  · intro h
    obtain ⟨mask, length, hparse, hmask, rfl⟩ := h
    rw [hparse]
    simp only [Ip.maskLength?_eq_some_iff.mpr hmask]
    rfl

/-- An IPv6 address has a subnet for every text that names a mask, and only the length of the mask
    counts. -/
theorem subnet6_eq_ok_iff {a : Ip.V6} {netmask : String} {subnet : Subnet} :
    subnet6 a netmask = .ok subnet ↔ ∃ length, Ip.NamesMask netmask length
      ∧ subnet = ⟨Decimal.text length,
          (Ip.V6.mk (a.bits >>> (128 - length) <<< (128 - length))).text, "", true⟩ := by
  have hnetwork : ∀ {length}, length ≤ 128 →
      a.network length = ⟨a.bits >>> (128 - length) <<< (128 - length)⟩ :=
    fun h => congrArg Ip.V6.mk (Ip.and_prefixMask a.bits h)
  constructor
  · intro h
    unfold subnet6 at h
    split at h
    · cases h
    · rename_i length hlength
      split at h
      · cases h
      · rename_i hfits
        have hle : length ≤ 128 := Nat.le_of_not_lt hfits
        cases h
        rw [hnetwork hle]
        exact ⟨length, (Ip.prefixLength?_eq_some_iff hle).mp hlength, rfl⟩
  · intro h
    obtain ⟨length, hnames, rfl⟩ := h
    have hle : length ≤ 128 := hnames.le
    unfold subnet6
    rw [(Ip.prefixLength?_eq_some_iff hle).mpr hnames, ← hnetwork hle]
    exact if_neg (Nat.not_lt.mpr hle)

/-! ## 2. A network alone -/

section

variable {name : String} {n : Network} {found : NameMap String}

/-- The interface of a network that is declared alone, and its MAC address. -/
def loneInterface (name : String) (n : Network) (found : NameMap String) :
    Except Error (String × String) :=
  interfaceOf (inferredMac? (.only name n) found) found name n

/-- The record of a network that is declared alone: it provides the default route. -/
def loneRecord (interface mac : String) (n : Network) (subnet : Subnet) : StaticRecord :=
  { name := interface
    address := n.ip
    netmask := subnet.netmask
    network := subnet.network
    broadcast := subnet.broadcast
    gateway := n.gateway
    isDefaultForGateway := true
    isVersion6 := subnet.isVersion6
    mac
    routes := n.routes }

theorem recordsOf_only (name : String) (n : Network) (found : NameMap String) :
    recordsOf (.only name n) found
      = (recordOf true (inferredMac? (.only name n) found) found name n).map fun r => [r] := by
  have hentries : (Networks.only name n).entries = [(name, n)] := rfl
  unfold recordsOf
  rw [hentries, List.mapM_cons, List.mapM_nil]
  show recordOf true (inferredMac? (.only name n) found) found name n >>= _ = _
  cases recordOf true (inferredMac? (.only name n) found) found name n with
  | error e => rfl
  | ok r => rfl

/-- On its interface, a network alone has the record of its subnet. -/
theorem recordsOf_only_found (hfixed : n.isDhcp = false) {interface mac : String}
    (h : loneInterface name n found = .ok (interface, mac)) : recordsOf (.only name n) found
      = match subnetOf n.ip n.netmask with
        | .error reason => .error (.invalidNetwork name reason)
        | .ok subnet => .ok [.static (loneRecord interface mac n subnet)] := by
  unfold loneInterface at h
  rw [recordsOf_only, recordOf, h, hfixed]
  show ((staticRecord name interface mac n true).map InterfaceRecord.static).map _ = _
  unfold staticRecord
  cases subnetOf n.ip n.netmask with
  | error reason => rfl
  | ok subnet => rfl

/-- A network alone has a record exactly if it has an interface and a subnet. -/
theorem recordsOf_only_eq_ok_iff (hfixed : n.isDhcp = false) {records : List InterfaceRecord} :
    recordsOf (.only name n) found = .ok records
      ↔ ∃ interface mac subnet, loneInterface name n found = .ok (interface, mac)
        ∧ subnetOf n.ip n.netmask = .ok subnet
        ∧ records = [.static (loneRecord interface mac n subnet)] := by
  constructor
  · intro h
    cases hrecord : recordOf true (inferredMac? (.only name n) found) found name n with
    | error e =>
      rw [recordsOf_only, hrecord] at h
      cases h
    | ok record =>
      obtain ⟨interface, mac, hplace, -⟩ := recordOf_eq_ok hrecord
      rw [recordsOf_only_found hfixed hplace] at h
      split at h
      · cases h
      · rename_i subnet hsubnet
        cases h
        exact ⟨interface, mac, subnet, hplace, hsubnet, rfl⟩
  · intro h
    obtain ⟨interface, mac, subnet, hplace, hsubnet, rfl⟩ := h
    rw [recordsOf_only_found hfixed hplace, hsubnet]

/-- A network with an address is not configured through DHCP unless it is meant to be. -/
theorem isDhcp_eq_false (hkind : n.kind ≠ .dynamic) {address : Ip.Address}
    (hip : Ip.Address.parse? n.ip = some address) : n.isDhcp = false := by
  have hne : n.ip.isEmpty = false := by
    rw [Bool.eq_false_iff]
    intro hempty
    rw [String.isEmpty_iff.mp hempty] at hip
    cases hip
  unfold Network.isDhcp
  cases hk : n.kind with
  | static => simp [hne]
  | dynamic => exact absurd hk hkind
  | vip => rfl

/-! ## 3. What the record says -/

/-- **The subnet of a network that is declared alone.** With an IPv4 address there is a record exactly
    if the interface is found and the netmask is an address of ones followed by zeros; it has the
    address and the netmask as declared, the network has the bits of the address under the mask, and
    the broadcast address has all others besides. With an IPv6 address there is a record exactly if
    the interface is found and the netmask names a mask in either way; it has the length of the mask
    in decimal, the network has the low bits of the address cleared, and there is no broadcast
    address. Any other netmask makes the network invalid. -/
theorem only_subnet (name : String) (found : NameMap String) (hkind : n.kind ≠ .dynamic) :
    (∀ a, Ip.Address.parse? n.ip = some (.v4 a) →
        ∀ records, recordsOf (.only name n) found = .ok records
          ↔ ∃ interface mac mask length, loneInterface name n found = .ok (interface, mac)
            ∧ Ip.V4.parse? n.netmask = some mask ∧ Ip.IsMask mask.bits length
            ∧ records = [.static
              { name := interface, mac, address := n.ip, netmask := n.netmask,
                network := (Ip.V4.mk (a.bits &&& mask.bits)).text,
                broadcast := (Ip.V4.mk (a.bits ||| ~~~mask.bits)).text, gateway := n.gateway,
                isDefaultForGateway := true, isVersion6 := false, routes := n.routes }])
      ∧ ∀ a, Ip.Address.parse? n.ip = some (.v6 a) →
        (∀ records, recordsOf (.only name n) found = .ok records
          ↔ ∃ interface mac length, loneInterface name n found = .ok (interface, mac)
            ∧ Ip.NamesMask n.netmask length
            ∧ records = [.static
              { name := interface, mac, address := n.ip, netmask := Decimal.text length,
                network := (Ip.V6.mk (a.bits >>> (128 - length) <<< (128 - length))).text,
                broadcast := "", gateway := n.gateway, isDefaultForGateway := true,
                isVersion6 := true, routes := n.routes }])
        ∧ ∀ place, loneInterface name n found = .ok place →
          (∀ length, ¬ Ip.NamesMask n.netmask length) →
          ∃ reason, recordsOf (.only name n) found = .error (.invalidNetwork name reason) := by
  refine ⟨fun a hip records => ?_, fun a hip => ⟨fun records => ?_, fun place hplace hnone => ?_⟩⟩
  · rw [recordsOf_only_eq_ok_iff (isDhcp_eq_false hkind hip), subnetOf_v4 hip]
    constructor
    · intro h
      obtain ⟨interface, mac, subnet, hplace, hok, rfl⟩ := h
      obtain ⟨mask, length, hparse, hmask, rfl⟩ := subnet4_eq_ok_iff.mp hok
      exact ⟨interface, mac, mask, length, hplace, hparse, hmask, rfl⟩
    · intro h
      obtain ⟨interface, mac, mask, length, hplace, hparse, hmask, rfl⟩ := h
      exact ⟨interface, mac, _, hplace,
        subnet4_eq_ok_iff.mpr ⟨mask, length, hparse, hmask, rfl⟩, rfl⟩
  · rw [recordsOf_only_eq_ok_iff (isDhcp_eq_false hkind hip), subnetOf_v6 hip]
    constructor
    · intro h
      obtain ⟨interface, mac, subnet, hplace, hok, rfl⟩ := h
      obtain ⟨length, hnames, rfl⟩ := subnet6_eq_ok_iff.mp hok
      exact ⟨interface, mac, length, hplace, hnames, rfl⟩
    · intro h
      obtain ⟨interface, mac, length, hplace, hnames, rfl⟩ := h
      exact ⟨interface, mac, _, hplace, subnet6_eq_ok_iff.mpr ⟨length, hnames, rfl⟩, rfl⟩
  · rw [recordsOf_only_found (isDhcp_eq_false hkind hip) hplace, subnetOf_v6 hip]
    cases hok : subnet6 a n.netmask with
    | error reason => exact ⟨reason, rfl⟩
    | ok subnet =>
      obtain ⟨length, hnames, -⟩ := subnet6_eq_ok_iff.mp hok
      exact absurd hnames (hnone length)

end

/-- The one interface of a host. -/
def oneFound : NameMap String := NameMap.ofList [("00:15:5d:00:00:01", "eth0")]

/-- A network on it with an IPv4 address. -/
def network4 : Network :=
  { ip := "10.20.30.40", netmask := "255.255.240.0", mac := "00:15:5D:00:00:01" }

/-- Its record. -/
def record4 : StaticRecord :=
  { name := "eth0", mac := "00:15:5d:00:00:01", address := "10.20.30.40"
    netmask := "255.255.240.0", network := "10.20.16.0", broadcast := "10.20.31.255", gateway := ""
    isDefaultForGateway := true, isVersion6 := false, routes := [] }

/-- A network on it with an IPv6 address. -/
def network6 (netmask : String) : Network :=
  { ip := "fd00::1234:5678:9abc:def0", netmask, mac := "00:15:5D:00:00:01" }

/-- The record of its subnet under a mask of 72 ones. -/
def record6 : StaticRecord :=
  { name := "eth0", mac := "00:15:5d:00:00:01", address := "fd00::1234:5678:9abc:def0"
    netmask := "72", network := "fd00::1200:0:0:0", broadcast := "", gateway := ""
    isDefaultForGateway := true, isVersion6 := true, routes := [] }

/-- Masks that end inside a group, for IPv6 as a number and as an address; and an address that is no
    mask. -/
theorem only_subnet_inside_group :
    (network4.kind ≠ .dynamic
        ∧ Ip.Address.parse? "10.20.30.40" = some (.v4 ⟨0x0a141e28⟩)
        ∧ recordsOf (.only "private" network4) oneFound = .ok [.static record4])
      ∧ (∀ netmask, (network6 netmask).kind ≠ .dynamic)
      ∧ Ip.Address.parse? "fd00::1234:5678:9abc:def0"
        = some (.v6 ⟨0xfd00000000000000123456789abcdef0⟩)
      ∧ recordsOf (.only "private" (network6 "+072")) oneFound = .ok [.static record6]
      ∧ recordsOf (.only "private" (network6 "ffff:ffff:ffff:ffff:ff00::")) oneFound
        = .ok [.static record6]
      ∧ loneInterface "private" (network6 "ffff::1") oneFound = .ok ("eth0", "00:15:5d:00:00:01")
      ∧ (∀ length, ¬ Ip.NamesMask "ffff::1" length)
      ∧ ∃ reason, recordsOf (.only "private" (network6 "ffff::1")) oneFound
        = .error (.invalidNetwork "private" reason) := by
  have hkind : ∀ netmask, (network6 netmask).kind ≠ .dynamic := fun _ => nofun
  have hip4 : Ip.Address.parse? "10.20.30.40" = some (.v4 ⟨0x0a141e28⟩) := rfl
  have hip6 : Ip.Address.parse? "fd00::1234:5678:9abc:def0"
      = some (.v6 ⟨0xfd00000000000000123456789abcdef0⟩) := rfl
  have hplace : loneInterface "private" (network6 "ffff::1") oneFound
      = .ok ("eth0", "00:15:5d:00:00:01") := rfl
  have hno : ∀ length, ¬ Ip.NamesMask "ffff::1" length := by
    intro length hnames
    have hfound := (Ip.prefixLength?_eq_some_iff hnames.le).mpr hnames
    have hnone : Ip.prefixLength? "ffff::1" = none := rfl
    rw [hnone] at hfound
    cases hfound
  refine ⟨⟨nofun, hip4, ?_⟩, hkind, hip6, ?_, ?_, hplace, hno, ?_⟩
  · exact ((only_subnet "private" oneFound (n := network4) nofun).1 _ hip4 _).mpr
      ⟨"eth0", "00:15:5d:00:00:01", ⟨0xfffff000⟩, 20, rfl, rfl, by decide, rfl⟩
  · exact (((only_subnet "private" oneFound (hkind "+072")).2 _ hip6).1 _).mpr
      ⟨"eth0", "00:15:5d:00:00:01", 72, rfl, Or.inl ⟨rfl, by decide⟩, rfl⟩
  · exact (((only_subnet "private" oneFound (hkind "ffff:ffff:ffff:ffff:ff00::")).2 _ hip6).1 _).mpr
      ⟨"eth0", "00:15:5d:00:00:01", 72, rfl,
        Or.inr ⟨⟨0xffffffffffffffffff00000000000000⟩, rfl, by decide⟩, rfl⟩
  · exact ((only_subnet "private" oneFound (hkind "ffff::1")).2 _ hip6).2 _ hplace hno

end Net

end HostAgent
