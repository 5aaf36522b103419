import HostAgent.Host
import HostAgent.Ip.Address
import HostAgent.Json.Reader
import HostAgent.Json.Shape

/-!
# Addresses that the host reports

The list of links and addresses that the `ip` tool prints as JSON, and a writer for lists of the same
form.

* `readAddresses` -- the addresses of a print, in order;
* `printAddresses` -- a print that has the given addresses.
-/

namespace HostAgent.Net

open Json

/-! ## 1. Reading -/

/-- An address as the host reports it. -/
structure SystemAddress where
  interface : String
  ip : String
  isVersion6 : Bool
  isGlobal : Bool
  deriving DecidableEq, Repr, Inhabited

/-- An address of a link, as it is printed. -/
structure LinkAddress where
  family : String
  ip : String
  scope : String
  deriving DecidableEq, Repr

/-- A link, as it is printed. -/
structure Link where
  name : String
  addresses : List LinkAddress
  deriving DecidableEq, Repr

/-- An address of a link. -/
def LinkAddress.ofJson? (v : Value) : Option LinkAddress := do
  let ms ← v.members ["family", "local", "scope"]
  let family ← Value.required "family" Value.asText ms
  let ip ← Value.optional "local" "" Value.asText ms
  let scope ← Value.optional "scope" "" Value.asText ms
  some { family, ip, scope }

/-- A link. -/
def Link.ofJson? (v : Value) : Option Link := do
  let ms ← v.members ["ifname", "addr_info"]
  let name ← Value.required "ifname" Value.asText ms
  let addresses ← Value.optional "addr_info" [] (Value.asList LinkAddress.ofJson?) ms
  some { name, addresses }

/-- The address that counts: one of IPv4 or IPv6 that is there. -/
def LinkAddress.report? (interface : String) (a : LinkAddress) : Option SystemAddress :=
  if !a.ip.isEmpty && (a.family = "inet" || a.family = "inet6") then
    some ⟨interface, a.ip, a.family = "inet6", a.scope = "global"⟩
  else none

/-- The addresses of a link that count. -/
def Link.reports (l : Link) : List SystemAddress := l.addresses.filterMap (·.report? l.name)

/-- The addresses of a print. A blank print has none. -/
def readAddresses (stdout : String) : Except Error (List SystemAddress) :=
  if Text.allBlank stdout then .ok []
  else
    match (Json.readText stdout).bind (Value.asList Link.ofJson?) with
    | some links => .ok (links.flatMap Link.reports)
    | none => .error .serialization

/-! ## 2. Printing -/

/-- The address belongs to IPv6. -/
def looksVersion6 (ip : String) : Bool := ip.toList.contains ':'

/-- The address is one of the host itself. -/
def isLoopback (ip : String) : Bool := Text.hasStart "127." ip || ip = "::1"

/-- An address of a link as an object. -/
def addressValue (ip : String) : Value :=
  .ofMembers
    [("family", .ofText (if looksVersion6 ip then "inet6" else "inet")),
     ("local", .ofText ip),
     ("prefixlen", .ofNat (if looksVersion6 ip then 64 else 24)),
     ("scope", .ofText (if isLoopback ip then "host" else "global"))]

/-- The addresses by interface, in the order in which they are given. -/
def byInterface (addresses : List (String × String)) : NameMap (List String) :=
  addresses.foldl (fun m a => m.insert a.1 ((m.get? a.1).getD [] ++ [a.2])) NameMap.empty

/-- The link of one interface as an object. -/
def linkValue (index : Nat) (interface : String) (ips : List String) : Value :=
  .ofMembers
    [("addr_info", .array (ips.map addressValue)), ("ifindex", .ofNat index),
     ("ifname", .ofText interface)]

/-- The links in the order of their names, numbered from one. -/
def linksValue (addresses : List (String × String)) : Value :=
  .array ((byInterface addresses).entries.zipIdx.map fun e => linkValue (e.2 + 1) e.1.1 e.1.2)

/-- A print with the given pairs of interface and address. -/
def printAddresses (addresses : List (String × String)) : String := (linksValue addresses).compact

end HostAgent.Net
