import HostAgent.Settings.Json
import HostAgent.Proofs.Json.Shape

/-!
# The settings document is read back

Each part of a settings document restores what was written: the kinds and roles by their names, the
records member by member. What may be missing is either written anyway, or it is left out when it is
not there.

* `Network.restores`, `EphemeralDisk.restores`, `Settings.restores` -- the parts and the whole;
* `settings_roundTrip` -- the document in bytes.
-/

namespace HostAgent

open Json Value

/-! ## 1. Networks -/

theorem NetworkKind.restores :
    Restores (asChoice NetworkKind.named) fun kind => ofText kind.name :=
  .choice fun kind => by cases kind <;> rfl

theorem Role.restores : Restores (asChoice Role.named) fun role => ofText role.name :=
  .choice fun role => by cases role <;> rfl

/-- Roles are written in one order, and in any order they are the same. -/
theorem Roles.restores : Restores Roles.ofJson? Roles.toJson where
  readable r := Role.restores.list.readable r.toList
  restored r := by
    have hlist := Role.restores.list.restored r.toList
    rw [Roles.ofJson?, Roles.toJson, hlist, Option.map_some, Roles.ofList_toList]

theorem Route.restores : Restores Route.ofJson? Route.toJson where
  readable r := .object (by simp [Readable.text])
  restored r := by
    rw [Route.ofJson?, Route.toJson]
    refine Eq.trans (members_bind ?known ?names) ?_
    case known => exact .refl _
    case names => decide
    rfl

theorem Network.restores : Restores Network.ofJson? Network.toJson where
  readable n := by
    have hdns := Restores.text.list.readable n.dns
    have hroutes := Route.restores.list.readable n.routes
    have hroles := Roles.restores.readable n.defaultFor
    refine .object ?_
    cases n.aliasName <;> simp [Readable.text, Readable.bool, hdns, hroutes, hroles]
  restored n := by
    obtain ⟨kind, ip, netmask, gateway, dns, mac, preconfigured, defaultFor, routes, aliasName⟩ := n
    have htext := Restores.text.restored
    rw [Network.ofJson?, Network.toJson]
    refine Eq.trans (members_bind ?known ?names) ?_
    case names => decide
    case known =>
      cases aliasName with
      | none => exact List.sublist_append_left _ ["alias"]
      | some a => exact .refl _
    refine Eq.trans (optional_bind rfl (NetworkKind.restores.restored kind)) ?_
    refine Eq.trans (optional_bind rfl (htext ip)) ?_
    refine Eq.trans (optional_bind rfl (htext netmask)) ?_
    refine Eq.trans (optional_bind rfl (htext gateway)) ?_
    refine Eq.trans (optional_bind rfl (Restores.text.list.restored dns)) ?_
    refine Eq.trans (optional_bind rfl (htext mac)) ?_
    refine Eq.trans (optional_bind rfl (Restores.bool.restored preconfigured)) ?_
    refine Eq.trans (optional_bind rfl (Roles.restores.restored defaultFor)) ?_
    refine Eq.trans (optional_bind rfl (Route.restores.list.restored routes)) ?_
    cases aliasName with
    | none => rfl
    | some a => rfl

theorem Networks.restores : Restores Networks.ofJson? Networks.toJson := Network.restores.nameMap

/-! ## 2. Disks -/

theorem PartitionType.restores :
    Restores (asChoice PartitionType.named) fun type => ofText type.name :=
  .choice fun type => by cases type <;> rfl

theorem Partition.restores : Restores Partition.ofJson? Partition.toJson where
  readable p := .object (by simp [Readable.text, Readable.natural])
  restored p := by
    rw [Partition.ofJson?, Partition.toJson]
    refine Eq.trans (members_bind ?known ?names) ?_
    case names => decide
    case known => exact .refl _
    refine Eq.trans (required_bind rfl (Restores.uint64.restored p.size)) ?_
    exact optional_bind rfl (PartitionType.restores.restored p.type)

theorem EphemeralDisk.restores : Restores EphemeralDisk.ofJson? EphemeralDisk.toJson where
  readable d := by
    have hpartitions := Partition.restores.list.readable d.partitions
    exact .object (by simp [Readable.text, hpartitions])
  restored d := by
    rw [EphemeralDisk.ofJson?, EphemeralDisk.toJson]
    refine Eq.trans (members_bind ?known ?names) ?_
    case names => decide
    case known => exact .refl _
    refine Eq.trans (required_bind rfl (Restores.text.restored d.path)) ?_
    exact optional_bind rfl (Partition.restores.list.restored d.partitions)

/-! ## 3. The document -/

theorem Settings.restores : Restores Settings.ofJson? Settings.toJson where
  readable s := by
    have hnetworks := Networks.restores.readable s.networks
    have hdisk := EphemeralDisk.restores.readable
    refine .object ?_
    cases s.ephemeralDisk <;> simp [Readable.text, hnetworks, hdisk]
  restored s := by
    obtain ⟨agentId, networks, ephemeralDisk⟩ := s
    rw [Settings.ofJson?, Settings.toJson]
    refine Eq.trans (members_bind ?known ?names) ?_
    case names => decide
    case known =>
      cases ephemeralDisk with
      | none => exact List.sublist_append_left _ ["ephemeral_disk"]
      | some d => exact .refl _
    refine Eq.trans (optional_bind rfl (Restores.text.restored agentId)) ?_
    refine Eq.trans (optional_bind rfl (Networks.restores.restored networks)) ?_
    cases ephemeralDisk with
    | none => rfl
    | some d =>
      exact optional_bind rfl (EphemeralDisk.restores.asOption_restored fun h => by cases h)

/-- **The settings document is read back.** Whatever a document says, its compact text is read as
    the same document; and so a document in bytes that is read at all is the same after it has been
    written and read once more, however it was spelled before. -/
theorem settings_roundTrip (s : Settings) (bs : Bytes) :
    Settings.parse? (Utf8.encode s.toJson.compact) = some s
      ∧ ((Settings.parse? bs).bind fun t => Settings.parse? (Utf8.encode t.toJson.compact))
        = Settings.parse? bs := by
  have hback : ∀ t : Settings, Settings.parse? (Utf8.encode t.toJson.compact) = some t :=
    Settings.restores.document
  refine ⟨hback s, ?_⟩
  simp only [hback, Option.bind_fun_some]

/-- An older document: the network is `manual`, its roles are listed in another order and twice, and
    a member that no reader knows comes first. -/
example :
    (Settings.parse? (Utf8.encode ("\x7b\"later\":[-1.5e3],\"networks\":\x7b\"lan\":"
      ++ "\x7b\"default\":[\"gateway\",\"dns\",\"gateway\"],\"type\":\"manual\"\x7d\x7d\x7d"))).map
        (fun s => s.networks.values.map fun n => (n.kind, n.defaultFor.toList))
      = some [(.static, [.dns, .gateway])] := by
  decide +kernel

end HostAgent
