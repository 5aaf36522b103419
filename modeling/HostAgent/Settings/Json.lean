import HostAgent.Json.Reader
import HostAgent.Json.Shape
import HostAgent.Settings.Document

/-!
# Settings as JSON

How each part of the settings document is read from JSON and written to it. Every member but a size,
a route's three texts and a disk's path may be missing. Static networks go by two more names in
older documents.

* `Settings.ofJson?`, `Settings.toJson` -- the document;
* `Settings.parse?` -- the document in a byte string.
-/

namespace HostAgent

open Json

/-! ## 1. Networks -/

/-- The kinds of networks by name, the older names included. -/
def NetworkKind.named : List (String × NetworkKind) :=
  [("static", .static), ("manual", .static), ("", .static), ("dynamic", .dynamic), ("vip", .vip)]

/-- The name that a kind is written by. -/
def NetworkKind.name : NetworkKind → String
  | .static => "static"
  | .dynamic => "dynamic"
  | .vip => "vip"

/-- The roles by name. -/
def Role.named : List (String × Role) := [("dns", .dns), ("gateway", .gateway)]

/-- The name of a role. -/
def Role.name : Role → String
  | .dns => "dns"
  | .gateway => "gateway"

/-- Roles, listed in any order and any number of times. -/
def Roles.ofJson? (v : Value) : Option Roles := (v.asList (Value.asChoice Role.named)).map Roles.ofList

/-- Roles in order. -/
def Roles.toJson (r : Roles) : Value := .array (r.toList.map fun x => .ofText x.name)

/-- A route. -/
def Route.ofJson? (v : Value) : Option Route := do
  let ms ← v.members ["destination", "gateway", "netmask"]
  let destination ← Value.required "destination" Value.asText ms
  let gateway ← Value.required "gateway" Value.asText ms
  let netmask ← Value.required "netmask" Value.asText ms
  some { destination, gateway, netmask }

/-- A route as an object. -/
def Route.toJson (r : Route) : Value :=
  .ofMembers [("destination", .ofText r.destination), ("gateway", .ofText r.gateway),
    ("netmask", .ofText r.netmask)]

/-- The members of a network, in order. -/
def Network.memberNames : List String :=
  ["type", "ip", "netmask", "gateway", "dns", "mac", "preconfigured", "default", "routes", "alias"]

/-- A network. -/
def Network.ofJson? (v : Value) : Option Network := do
  let ms ← v.members memberNames
  let kind ← Value.optional "type" .static (Value.asChoice NetworkKind.named) ms
  let ip ← Value.optional "ip" "" Value.asText ms
  let netmask ← Value.optional "netmask" "" Value.asText ms
  let gateway ← Value.optional "gateway" "" Value.asText ms
  let dns ← Value.optional "dns" [] (Value.asList Value.asText) ms
  let mac ← Value.optional "mac" "" Value.asText ms
  let preconfigured ← Value.optional "preconfigured" false Value.asBool ms
  let defaultFor ← Value.optional "default" {} Roles.ofJson? ms
  let routes ← Value.optional "routes" [] (Value.asList Route.ofJson?) ms
  let aliasName ← Value.optional "alias" none (Value.asOption Value.asText) ms
  some { kind, ip, netmask, gateway, dns, mac, preconfigured, defaultFor, routes, aliasName }

/-- A network as an object; an alias that is not given is left out. -/
def Network.toJson (n : Network) : Value :=
  .ofMembers
    ([("type", .ofText n.kind.name), ("ip", .ofText n.ip), ("netmask", .ofText n.netmask),
      ("gateway", .ofText n.gateway), ("dns", .array (n.dns.map .ofText)), ("mac", .ofText n.mac),
      ("preconfigured", .bool n.preconfigured), ("default", n.defaultFor.toJson),
      ("routes", .array (n.routes.map Route.toJson))]
      ++ match n.aliasName with
        | some a => [("alias", .ofText a)]
        | none => [])

/-- Networks by name. -/
def Networks.ofJson? (v : Value) : Option Networks := v.asMap Network.ofJson?

/-- Networks as an object. -/
def Networks.toJson (ns : Networks) : Value := .ofMembers (ns.entries.map fun e => (e.1, e.2.toJson))

/-! ## 2. Disks -/

/-- A partition. -/
def Partition.ofJson? (v : Value) : Option Partition := do
  let ms ← v.members ["size_in_bytes", "type"]
  let size ← Value.required "size_in_bytes" Value.asUInt64 ms
  let type ← Value.optional "type" .linux (Value.asChoice PartitionType.named) ms
  some { size, type }

/-- A partition as an object. -/
def Partition.toJson (p : Partition) : Value :=
  .ofMembers [("size_in_bytes", .ofNat p.size.toNat), ("type", .ofText p.type.name)]

/-- A disk. -/
def EphemeralDisk.ofJson? (v : Value) : Option EphemeralDisk := do
  let ms ← v.members ["path", "partitions"]
  let path ← Value.required "path" Value.asText ms
  let partitions ← Value.optional "partitions" [] (Value.asList Partition.ofJson?) ms
  some { path, partitions }

/-- A disk as an object. -/
def EphemeralDisk.toJson (d : EphemeralDisk) : Value :=
  .ofMembers [("path", .ofText d.path), ("partitions", .array (d.partitions.map Partition.toJson))]

/-! ## 3. The document -/

/-- The settings document. -/
def Settings.ofJson? (v : Value) : Option Settings := do
  let ms ← v.members ["agent_id", "networks", "ephemeral_disk"]
  let agentId ← Value.optional "agent_id" "" Value.asText ms
  let networks ← Value.optional "networks" NameMap.empty Networks.ofJson? ms
  let ephemeralDisk ← Value.optional "ephemeral_disk" none (Value.asOption EphemeralDisk.ofJson?) ms
  some { agentId, networks, ephemeralDisk }

/-- The settings document as an object; a disk that is not given is left out. -/
def Settings.toJson (s : Settings) : Value :=
  .ofMembers
    ([("agent_id", .ofText s.agentId), ("networks", s.networks.toJson)]
      ++ match s.ephemeralDisk with
        | some d => [("ephemeral_disk", d.toJson)]
        | none => [])

/-- The settings in a byte string. -/
def Settings.parse? (bs : Bytes) : Option Settings := (readBytes bs).bind Settings.ofJson?

/-- The settings in the contents of the file at a path, when the agent can act on them. -/
def Settings.ofContents (path : Path) (contents : Except Fault Bytes) : Except SettingsError Settings :=
  match contents with
  | .error fault => .error (.read path.text fault)
  | .ok bs =>
    match Settings.parse? bs with
    | none => .error (.parse path.text)
    | some s => s.validate.map fun _ => s

/-- The identity of the agent: the member of that name, blank when it is missing. -/
def agentIdOfJson? (v : Value) : Option String := do
  let ms ← v.members ["agent_id"]
  Value.optional "agent_id" "" Value.asText ms

end HostAgent
