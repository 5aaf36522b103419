import HostAgent.NameMap

/-!
# Declared networks

What the settings document says about networks: one entry per name, each static, leased over DHCP or
a virtual IP without an interface.

* `isDhcp`, `isVip` -- how a network gets its address; no network is both (`not_isDhcp_of_isVip`);
* `Networks.defaultFor?` -- the network that provides a default; a lone network provides both.
-/

namespace HostAgent

/-! ## 1. One network -/

/-- How a network gets its address on the host. -/
inductive NetworkKind where
  | static
  | dynamic
  /-- a virtual IP: no interface of the host has it -/
  | vip
  deriving DecidableEq, Repr, Inhabited

/-- What a network can be the default for. -/
inductive Role where
  | dns
  | gateway
  deriving DecidableEq, Repr

/-- The roles that a network is the default for. -/
structure Roles where
  dns : Bool := false
  gateway : Bool := false
  deriving DecidableEq, Repr, Inhabited

namespace Roles

/-- The role is among them. -/
def has (r : Roles) : Role → Bool
  | .dns => r.dns
  | .gateway => r.gateway

/-- The roles with one more. -/
def add (r : Roles) : Role → Roles
  | .dns => { r with dns := true }
  | .gateway => { r with gateway := true }

/-- The roles of a list. -/
def ofList (l : List Role) : Roles := l.foldl add {}

/-- The roles in order. -/
def toList (r : Roles) : List Role :=
  (if r.dns then [.dns] else []) ++ (if r.gateway then [.gateway] else [])

theorem ofList_toList (r : Roles) : ofList r.toList = r := by
  rcases r with ⟨_ | _, _ | _⟩ <;> rfl

end Roles

/-- A route that is installed once an interface is up. -/
structure Route where
  destination : String := ""
  gateway : String := ""
  netmask : String := ""
  deriving DecidableEq, Repr, Inhabited

/-- A declared network. -/
structure Network where
  kind : NetworkKind := .static
  ip : String := ""
  netmask : String := ""
  gateway : String := ""
  /-- servers in the order in which they are to be tried -/
  dns : List String := []
  mac : String := ""
  /-- the address is already assigned by other means -/
  preconfigured : Bool := false
  defaultFor : Roles := {}
  routes : List Route := []
  /-- the alias interface that the network is bound to -/
  aliasName : Option String := none
  deriving DecidableEq, Repr, Inhabited

namespace Network

/-- The network is a virtual IP. -/
def isVip (n : Network) : Bool := n.kind = .vip

/-- The network is configured through DHCP. A static one with neither address nor mask cannot be
    configured otherwise. -/
def isDhcp (n : Network) : Bool :=
  match n.kind with
  | .vip => false
  | .dynamic => true
  | .static => n.ip.isEmpty && n.netmask.isEmpty

theorem not_isDhcp_of_isVip {n : Network} (h : n.isVip = true) : n.isDhcp = false := by
  have hk : n.kind = .vip := by simpa [isVip] using h
  simp [isDhcp, hk]

/-- The alias interface, when a name is given. -/
def alias? (n : Network) : Option String := n.aliasName.filter fun a => !a.isEmpty

/-- The network is bound to an alias interface. -/
def hasAlias (n : Network) : Bool := n.alias?.isSome

end Network

/-! ## 2. All networks -/

/-- The declared networks by name. -/
abbrev Networks := NameMap Network

namespace Networks

/-- The networks that are no virtual IPs. -/
def nonVip (ns : Networks) : Networks := ns.filter fun n => !n.isVip

/-- Every network but the virtual IPs has its address already. -/
def isPreconfigured (ns : Networks) : Bool :=
  (ns.values.filter fun n => !n.isVip).all fun n => n.preconfigured

/-- Some network is bound to an alias interface. -/
def hasInterfaceAlias (ns : Networks) : Bool := ns.values.any Network.hasAlias

/-- The network that provides a default: the only one, or the first that is declared to. -/
def defaultFor? (ns : Networks) (role : Role) : Option Network :=
  match ns.values with
  | [n] => some n
  | values => values.find? fun n => n.defaultFor.has role

/-- The servers of the network that provides DNS, in declared order. -/
def dnsServers (ns : Networks) : List String :=
  match ns.defaultFor? .dns with
  | some n => n.dns
  | none => []

/-- The names of the networks that satisfy a test. -/
def namesWhere (ns : Networks) (test : Network → Bool) : List String :=
  (ns.entries.filter fun e => test e.2).map Prod.fst

end Networks

end HostAgent
