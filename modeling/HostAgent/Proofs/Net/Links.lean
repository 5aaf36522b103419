import HostAgent.Net.Links
import HostAgent.Proofs.Json.Shape
import HostAgent.Proofs.Net.Records

/-!
# Printed addresses are read back

A print groups the addresses by interface and names the interfaces in order. Read again, it has every
address that it was given, but for empty ones: an address stays with its interface, and those of one
interface stay in order. So the reader has the stably sorted list.

* `get?_byInterface`, `ungrouped_byInterface` -- the groups, and the list that they are parts of;
* `ofJson?_linkValue`, `reports_shown` -- one link;
* `readAddresses_printAddresses` -- the whole print.
-/

namespace HostAgent.Net

open Json Value

/-! ## 1. Groups -/

/-- The addresses of one interface in their order. -/
def addressesOf (interface : String) (l : List (String × String)) : List String :=
  (l.filter (·.1 = interface)).map Prod.snd

theorem get?_foldl_byInterface (l : List (String × String)) (m : NameMap (List String))
    (interface : String) :
    (((l.foldl (fun m a => m.insert a.1 ((m.get? a.1).getD [] ++ [a.2])) m).get? interface).getD [])
      = (m.get? interface).getD [] ++ addressesOf interface l := by
  induction l generalizing m with
  | nil => exact (List.append_nil _).symm
  | cons a l ih =>
    rw [List.foldl_cons, ih, NameMap.get?_insert, addressesOf, addressesOf, List.filter_cons]
    by_cases h : a.1 = interface <;> simp [h]

theorem get?_byInterface (l : List (String × String)) (interface : String) :
    ((byInterface l).get? interface).getD [] = addressesOf interface l :=
  get?_foldl_byInterface l NameMap.empty interface

/-- The groups one after another. -/
def ungrouped (m : NameMap (List String)) : List (String × String) :=
  m.entries.flatMap fun e => e.2.map fun ip => (e.1, ip)

theorem ungrouped_pairwise (m : NameMap (List String)) :
    (ungrouped m).Pairwise fun a b => a.1 ≤ b.1 := by
  refine List.pairwise_flatMap.mpr ⟨fun e _ => ?_, m.ascending.imp fun {e e'} h a ha b hb => ?_⟩
  · refine List.pairwise_map.mpr (List.pairwise_of_forall fun _ _ => String.le_refl _)
  · obtain ⟨ip, -, rfl⟩ := List.mem_map.mp ha
    obtain ⟨ip', -, rfl⟩ := List.mem_map.mp hb
    exact Std.le_of_lt h

theorem flatMap_find {l : List (String × List String)} (hl : Entries.Ascending l)
    (interface : String) :
    (l.flatMap fun e => e.2.map fun ip => (e.1, ip)).filter (·.1 = interface)
      = ((Entries.find interface l).getD []).map fun ip => (interface, ip) := by
  induction l with
  | nil => rfl
  | cons e l ih =>
    obtain ⟨he, hl'⟩ := List.pairwise_cons.mp hl
    rw [List.flatMap_cons, List.filter_append, ih hl', Entries.find_cons, List.filter_map]
    by_cases hname : e.1 = interface
    · have hlater : Entries.find interface l = none := Entries.find_of_lt (hname ▸ he)
      simp [hname, hlater, Function.comp_def]
    · simp [hname, Function.comp_def]

theorem ungrouped_filter (m : NameMap (List String)) (interface : String) :
    (ungrouped m).filter (·.1 = interface)
      = ((m.get? interface).getD []).map fun ip => (interface, ip) :=
  flatMap_find m.ascending interface

theorem addressesOf_pairs (interface : String) (l : List (String × String)) :
    (addressesOf interface l).map (fun ip => (interface, ip)) = l.filter (·.1 = interface) := by
  rw [addressesOf, List.map_map]
  refine (List.map_congr_left fun a ha => ?_).trans (List.map_id _)
  have hname : a.1 = interface := of_decide_eq_true (List.mem_filter.mp ha).2
  rw [Function.comp_apply, ← hname]
  rfl

/-- **The groups one after another are the list, stably sorted.** -/
theorem ungrouped_byInterface (l : List (String × String)) :
    ungrouped (byInterface l) = sortedBy Prod.fst l := by
  refine eq_of_sorted (ungrouped_pairwise _) (sortedBy_pairwise _ l) fun interface => ?_
  rw [ungrouped_filter, get?_byInterface, addressesOf_pairs, sortedBy_filter]

/-! ## 2. One link -/

/-- An address of a link, as it is read again. -/
def shownAddress (ip : String) : LinkAddress :=
  ⟨if looksVersion6 ip then "inet6" else "inet", ip, if isLoopback ip then "host" else "global"⟩

theorem ofJson?_addressValue (ip : String) :
    LinkAddress.ofJson? (addressValue ip) = some (shownAddress ip) := by
  unfold LinkAddress.ofJson? addressValue
  rfl

theorem ofJson?_linkValue (index : Nat) (interface : String) (ips : List String) :
    Link.ofJson? (linkValue index interface ips) = some ⟨interface, ips.map shownAddress⟩ := by
  have haddresses : asList LinkAddress.ofJson? (.array (ips.map addressValue))
      = some (ips.map shownAddress) := by
    rw [asList, List.mapM_map]
    exact (congrArg (List.mapM · ips) (funext ofJson?_addressValue)).trans List.mapM_pure
  -- the number of the link is a member that the reader skips
  exact congrArg (Option.bind · fun addresses => some (Link.mk interface addresses)) haddresses

/-! ## 3. The whole print -/

/-- The order of the names in bytes; addresses of one interface keep their order. -/
def inByteOrder (l : List (String × String)) : List (String × String) :=
  l.mergeSort fun a b => decide (Utf8.encode a.1 ≤ Utf8.encode b.1)

/-- How the host reports an address of an interface: it belongs to IPv6 when there is a colon in it,
    and it is global unless it starts with `127.` or is `::1`. -/
def reportOf (a : String × String) : SystemAddress :=
  ⟨a.1, a.2, decide (':' ∈ a.2.toList), decide (¬"127.".toList <+: a.2.toList ∧ a.2 ≠ "::1")⟩

theorem inByteOrder_eq (l : List (String × String)) : inByteOrder l = sortedBy Prod.fst l := by
  unfold inByteOrder sortedBy
  simp only [Utf8.encode_le_iff]

theorem looksVersion6_eq (ip : String) : looksVersion6 ip = decide (':' ∈ ip.toList) := by
  rw [looksVersion6, List.contains_eq_mem]

theorem isLoopback_eq (ip : String) :
    isLoopback ip = !decide (¬"127.".toList <+: ip.toList ∧ ip ≠ "::1") := by
  have hstart : Text.hasStart "127." ip = decide ("127.".toList <+: ip.toList) :=
    Bool.eq_iff_iff.mpr (Text.startsWith_iff.trans decide_eq_true_iff.symm)
  rw [isLoopback, hstart, Bool.decide_and, decide_not, decide_not, Bool.not_and, Bool.not_not,
    Bool.not_not]

/-- **Every address but an empty one is reported**, whatever family and scope it is shown with. -/
theorem report?_shownAddress (interface ip : String) :
    (shownAddress ip).report? interface
      = if ip = "" then none else some (reportOf (interface, ip)) := by
  unfold LinkAddress.report? shownAddress reportOf
  rw [isLoopback_eq, looksVersion6_eq]
  generalize decide (':' ∈ ip.toList) = isVersion6
  generalize decide (¬"127.".toList <+: ip.toList ∧ ip ≠ "::1") = isGlobal
  by_cases hip : ip = ""
  · simp [hip]
  · cases isVersion6 <;> cases isGlobal <;> simp [hip]

theorem reports_shown (interface : String) (ips : List String) :
    (Link.mk interface (ips.map shownAddress)).reports
      = ((ips.map fun ip => (interface, ip)).filter fun a => a.2 ≠ "").map reportOf := by
  unfold Link.reports
  induction ips with
  | nil => rfl
  | cons ip ips ih =>
    rw [List.map_cons, List.filterMap_cons, report?_shownAddress, ih, List.map_cons, List.filter_cons]
    by_cases hip : ip = "" <;> simp [hip]

/-- **The links are read as the groups are.** -/
theorem ofJson?_linksValue (l : List (String × String)) :
    asList Link.ofJson? (linksValue l) =
      some ((byInterface l).entries.map fun e => ⟨e.1, e.2.map shownAddress⟩) := by
  have heach : (Link.ofJson? ∘ fun e : (String × List String) × Nat =>
        linkValue (e.2 + 1) e.1.1 e.1.2)
      = fun e => some ⟨e.1.1, e.1.2.map shownAddress⟩ :=
    funext fun e => ofJson?_linkValue (e.2 + 1) e.1.1 e.1.2
  rw [linksValue, asList, List.mapM_map, heach]
  refine List.mapM_pure.trans (congrArg some ?_)
  rw [← List.zipIdx_map_fst 0 (byInterface l).entries, List.map_map, List.zipIdx_map_fst]
  rfl

theorem linksValue_readable (l : List (String × String)) : (linksValue l).Readable := by
  refine .array (List.forall_mem_map.mpr fun e _ => .object ?_)
  have haddresses : (Value.array (e.1.2.map addressValue)).Readable :=
    .array (List.forall_mem_map.mpr fun ip _ => .object (by simp [Readable.text, Readable.natural]))
  simp [Readable.text, Readable.natural, haddresses]

/-- A printed array is not blank. -/
theorem allBlank_array (items : List Value) : Text.allBlank (Value.array items).compact = false := by
  have hfirst : '[' ∈ (Value.array items).compact.toList := by
    rw [compact, String.toList_ofList]
    exact List.mem_cons_self
  rw [Text.allBlank, Bool.eq_false_iff]
  intro h
  have hblank := (Text.trim_nil_iff _).mp (List.isEmpty_iff.mp h) _ hfirst
  exact absurd hblank (by decide)

theorem allBlank_printAddresses (l : List (String × String)) :
    Text.allBlank (printAddresses l) = false := allBlank_array _

/-- **Printed addresses are read back.** Whatever the texts of the interfaces and addresses, a print
    of any list of them is read without an error, as the addresses that are not empty, stably sorted
    by the bytes of their interfaces. Each of them is of IPv6 exactly when it has a colon, and global
    exactly when it is not a loopback one. -/
theorem readAddresses_printAddresses (l : List (String × String)) :
    readAddresses (printAddresses l)
      = .ok ((inByteOrder (l.filter fun a => a.2 ≠ "")).map reportOf) := by
  have hread : (Json.readText (printAddresses l)).bind (asList Link.ofJson?)
      = some ((byInterface l).entries.map fun e => ⟨e.1, e.2.map shownAddress⟩) := by
    rw [printAddresses, readText_compact (linksValue_readable l), Option.bind_some,
      ofJson?_linksValue]
  have hreports : ((byInterface l).entries.map fun e =>
        (⟨e.1, e.2.map shownAddress⟩ : Link)).flatMap Link.reports
      = ((ungrouped (byInterface l)).filter fun a => a.2 ≠ "").map reportOf := by
    rw [List.flatMap_map, ungrouped, List.filter_flatMap, List.map_flatMap]
    exact List.flatMap_congr fun e _ => reports_shown e.1 e.2
  rw [readAddresses, allBlank_printAddresses, if_neg Bool.false_ne_true, hread]
  dsimp only
  rw [hreports, ungrouped_byInterface, filter_sortedBy, inByteOrder_eq]

end HostAgent.Net
