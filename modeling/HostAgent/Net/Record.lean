import HostAgent.Ip.Subnet
import HostAgent.Settings.Network
import HostAgent.Text.DecimalDigit
import HostAgent.Text.LetterCase
import HostAgent.Error

/-!
# Interface records

What is to be configured on each interface: declared networks joined with the interfaces that the
host has, by MAC address.

* `recordsOf` -- one record per network, or the first network that has none;
* `NetworkConfig` -- the records by kind, each kind sorted by interface name.
-/

namespace HostAgent.Net

/-! ## 1. Records -/

/-- The name is that of an alias interface: it ends in a colon and digits. -/
def isVirtualInterface (name : String) : Bool :=
  let reversed := name.toList.reverse
  let digits := reversed.takeWhile Text.isDecimalDigit
  !digits.isEmpty && (reversed.drop digits.length).head? = some ':'

/-- An interface with a fixed address. -/
structure StaticRecord where
  name : String
  address : String
  /-- in dotted form for IPv4, the number of ones for IPv6 -/
  netmask : String
  network : String
  broadcast : String
  gateway : String
  isDefaultForGateway : Bool
  isVersion6 : Bool
  mac : String
  routes : List Route
  deriving DecidableEq, Repr, Inhabited

/-- The record is that of an alias interface. -/
def StaticRecord.isVirtual (r : StaticRecord) : Bool := isVirtualInterface r.name

/-- An interface with a leased address. -/
structure DhcpRecord where
  name : String
  mac : String
  routes : List Route
  deriving DecidableEq, Repr, Inhabited

/-- The configuration of one interface. -/
inductive InterfaceRecord where
  | static (r : StaticRecord)
  | dhcp (r : DhcpRecord)
  deriving DecidableEq, Repr

/-- The name of the interface. -/
def InterfaceRecord.name : InterfaceRecord → String
  | .static r => r.name
  | .dhcp r => r.name

/-! ## 2. Subnets of declared networks -/

/-- The parts of a static record that follow from address and mask. -/
structure Subnet where
  netmask : String
  network : String
  broadcast : String
  isVersion6 : Bool
  deriving DecidableEq, Repr

/-- The subnet of an IPv4 address, or what is wrong with the mask. -/
def subnet4 (ip : Ip.V4) (netmask : String) : Except String Subnet :=
  match Ip.V4.parse? netmask with
  | none => .error ("invalid netmask '" ++ netmask ++ "'")
  | some mask =>
    match Ip.maskLength? mask.bits with
    | none => .error ("invalid netmask '" ++ netmask ++ "': invalid prefix")
    | some _ => .ok ⟨netmask, (ip.network mask.bits).text, (ip.broadcast mask.bits).text, false⟩

/-- The subnet of an IPv6 address, or what is wrong with the mask. -/
def subnet6 (ip : Ip.V6) (netmask : String) : Except String Subnet :=
  match Ip.prefixLength? netmask with
  | none => .error ("invalid netmask '" ++ netmask ++ "'")
  | some length =>
    if 128 < length then
      .error ("invalid prefix length " ++ Decimal.text length ++ ": invalid prefix")
    else .ok ⟨Decimal.text length, (ip.network length).text, "", true⟩

/-- The subnet of an address, or what is wrong with address or mask. -/
def subnetOf (ip netmask : String) : Except String Subnet :=
  match Ip.Address.parse? ip with
  | none => .error ("invalid IP address '" ++ ip ++ "'")
  | some (.v4 a) => subnet4 a netmask
  | some (.v6 a) => subnet6 a netmask

/-! ## 3. From networks to records -/

/-- The static record of a network on an interface. -/
def staticRecord (networkName interface mac : String) (n : Network) (isDefault : Bool) :
    Except Error StaticRecord :=
  match subnetOf n.ip n.netmask with
  | .error reason => .error (.invalidNetwork networkName reason)
  | .ok subnet => .ok
    { name := interface
      address := n.ip
      netmask := subnet.netmask
      network := subnet.network
      broadcast := subnet.broadcast
      gateway := n.gateway
      isDefaultForGateway := isDefault
      isVersion6 := subnet.isVersion6
      mac
      routes := n.routes }

/-- The MAC address that a network without one has: a lone network can only mean the lone
    interface. -/
def inferredMac? (networks : Networks) (interfaces : NameMap String) : Option String :=
  if networks.size = 1 ∧ interfaces.size = 1 then interfaces.keys.head? else none

/-- The interface of a network and its MAC address. An alias interface needs none on the host. -/
def interfaceOf (inferred : Option String) (interfaces : NameMap String) (networkName : String)
    (n : Network) : Except Error (String × String) :=
  match n.alias? with
  | some name => .ok (name, Text.lowercase n.mac)
  | none =>
    let mac := if n.mac.isEmpty then inferred.getD (Text.lowercase n.mac) else Text.lowercase n.mac
    match interfaces.get? mac with
    | some name => .ok (name, mac)
    | none => .error (.interfaceNotFound networkName mac)

/-- The record of one network. -/
def recordOf (isOnly : Bool) (inferred : Option String) (interfaces : NameMap String)
    (networkName : String) (n : Network) : Except Error InterfaceRecord := do
  let (name, mac) ← interfaceOf inferred interfaces networkName n
  if n.isDhcp then
    .ok (.dhcp ⟨name, mac, n.routes⟩)
  else
    (staticRecord networkName name mac n (isOnly || n.defaultFor.gateway)).map .static

/-- The records of networks, in the order of the networks. `interfaces` names interfaces by their
    MAC addresses in lower case. -/
def recordsOf (networks : Networks) (interfaces : NameMap String) :
    Except Error (List InterfaceRecord) :=
  let inferred := inferredMac? networks interfaces
  networks.entries.mapM fun e => recordOf (networks.size = 1) inferred interfaces e.1 e.2

/-! ## 4. Records by kind -/

/-- All that is to be configured. -/
structure NetworkConfig where
  /-- sorted by interface name -/
  statics : List StaticRecord
  /-- sorted by interface name -/
  dhcps : List DhcpRecord
  dnsServers : List String
  deriving DecidableEq, Repr, Inhabited

/-- A list sorted by name; elements of one name keep their order. -/
def sortedBy {α : Type} (name : α → String) (l : List α) : List α :=
  l.mergeSort fun a b => decide (name a ≤ name b)

/-- The static record, when it is one. -/
def InterfaceRecord.static? : InterfaceRecord → Option StaticRecord
  | .static r => some r
  | .dhcp _ => none

/-- The DHCP record, when it is one. -/
def InterfaceRecord.dhcp? : InterfaceRecord → Option DhcpRecord
  | .dhcp r => some r
  | .static _ => none

namespace NetworkConfig

/-- Records and servers as a configuration. -/
def ofRecords (records : List InterfaceRecord) (dnsServers : List String) : NetworkConfig :=
  { statics := sortedBy StaticRecord.name (records.filterMap InterfaceRecord.static?)
    dhcps := sortedBy DhcpRecord.name (records.filterMap InterfaceRecord.dhcp?)
    dnsServers }

/-- Some interface has an IPv6 address. -/
def hasVersion6 (c : NetworkConfig) : Bool := c.statics.any StaticRecord.isVersion6

/-- The names of all interfaces, those with leased addresses first. -/
def interfaceNames (c : NetworkConfig) : List String :=
  c.dhcps.map DhcpRecord.name ++ c.statics.map StaticRecord.name

end NetworkConfig

end HostAgent.Net
