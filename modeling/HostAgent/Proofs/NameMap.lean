import HostAgent.NameMap
import Mathlib.Data.List.Sort

/-!
# Laws of maps from names

A map is known by the values of its names, whatever was inserted into it and in which order. A test
on values can be asked before or after the value is looked up.

* `NameMap.ext_get?` -- maps with the same values are equal;
* `NameMap.get?_filter` -- what a filtered map has;
* `NameMap.union`, `NameMap.get?_union` -- a map with the entries of another one added;
* `NameMap.mapValues` -- a map with other values under the same names;
* `NameMap.rename`, `NameMap.values_rename_perm` -- a map under other names has the same values.
-/

namespace HostAgent

variable {α : Type}

/-! ## 1. Entries -/

namespace Entries

variable {l : List (String × α)}

theorem find_cons (name : String) (e : String × α) (l : List (String × α)) :
    find name (e :: l) = if e.1 = name then some e.2 else find name l := rfl

theorem mem_of_find {name : String} {value : α} (h : find name l = some value) :
    (name, value) ∈ l := by
  induction l with
  | nil => cases h
  | cons e l ih =>
    rw [find_cons] at h
    split at h
    · rename_i hname
      cases h
      rw [← hname]
      exact List.mem_cons_self
    · exact List.mem_cons_of_mem _ (ih h)

theorem find_of_mem {name : String} {value : α} (hl : Ascending l) (h : (name, value) ∈ l) :
    find name l = some value := by
  induction l with
  | nil => cases h
  | cons e l ih =>
    obtain ⟨he, hl'⟩ := List.pairwise_cons.mp hl
    rw [find_cons]
    rcases List.mem_cons.mp h with rfl | h
    · rw [if_pos rfl]
    · have hlt : e.1 < name := he (name, value) h
      have hne : e.1 ≠ name := fun heq => String.lt_irrefl name (heq ▸ hlt)
      rw [if_neg hne]
      exact ih hl' h

/-- A name below all entries has no value. -/
theorem find_of_lt {name : String} (h : ∀ e ∈ l, name < e.1) : find name l = none := by
  rw [Option.eq_none_iff_forall_ne_some]
  intro value hfind
  exact String.lt_irrefl name (h _ (mem_of_find hfind))

/-- Entries with the same values are the same. -/
theorem ext_find {l l' : List (String × α)} (hl : Ascending l) (hl' : Ascending l')
    (h : ∀ name, find name l = find name l') : l = l' := by
  have : Std.Antisymm fun a b : String × α => a.1 < b.1 :=
    ⟨fun a b hab hba => absurd hba (String.lt_asymm hab)⟩
  have : Std.Irrefl fun a b : String × α => a.1 < b.1 := ⟨fun a => String.lt_irrefl a.1⟩
  refine List.Pairwise.eq_of_mem_iff hl hl' fun e => ⟨fun he => ?_, fun he => ?_⟩
  · exact mem_of_find ((h e.1).symm.trans (find_of_mem hl he))
  · exact mem_of_find ((h e.1).trans (find_of_mem hl' he))

/-- What is put under a new name is added to the entries. -/
theorem put_perm {name : String} {value : α} (hnew : ∀ e ∈ l, e.1 ≠ name) :
    (put name value l).Perm ((name, value) :: l) := by
  induction l with
  | nil => exact .refl _
  | cons e l ih =>
    unfold put
    split
    · exact .refl _
    · rw [if_neg (hnew e List.mem_cons_self)]
      have hput := ih fun x hx => hnew x (List.mem_cons_of_mem e hx)
      exact (hput.cons e).trans (.swap (name, value) e l)

end Entries

/-! ## 2. Maps -/

namespace NameMap

variable {m n : NameMap α}

theorem mem_entries_iff {name : String} {value : α} :
    (name, value) ∈ m.entries ↔ m.get? name = some value :=
  ⟨Entries.find_of_mem m.ascending, Entries.mem_of_find⟩

/-- **A map is known by its values.** -/
theorem ext_get? (h : ∀ name, m.get? name = n.get? name) : m = n :=
  ext (Entries.ext_find m.ascending n.ascending h)

theorem get?_filter (keep : α → Bool) (m : NameMap α) (name : String) :
    (m.filter keep).get? name = (m.get? name).filter keep := by
  rw [Option.ext_iff]
  intro value
  rw [← mem_entries_iff, entries_filter, List.mem_filter, mem_entries_iff, Option.filter_eq_some_iff]

theorem any_values_iff {test : α → Bool} :
    m.values.any test = true ↔ ∃ name value, m.get? name = some value ∧ test value = true := by
  unfold values
  rw [List.any_map, List.any_eq_true]
  constructor
  · intro h
    obtain ⟨e, he, htest⟩ := h
    exact ⟨e.1, e.2, mem_entries_iff.mp he, htest⟩
  · intro h
    obtain ⟨name, value, hget, htest⟩ := h
    exact ⟨(name, value), mem_entries_iff.mpr hget, htest⟩

/-- The map with the entries of another one, which count where both have a name. -/
def union (m n : NameMap α) : NameMap α := n.entries.foldl (fun m e => m.insert e.1 e.2) m

theorem get?_foldl_insert {l : List (String × α)} (hl : Entries.Ascending l) (m : NameMap α)
    (name : String) : (l.foldl (fun m e => m.insert e.1 e.2) m).get? name
      = (Entries.find name l).or (m.get? name) := by
  induction l generalizing m with
  | nil => rfl
  | cons e l ih =>
    obtain ⟨he, hl'⟩ := List.pairwise_cons.mp hl
    rw [List.foldl_cons, ih hl', get?_insert, Entries.find_cons]
    by_cases hname : e.1 = name
    · -- no later entry has the name
      have hlater : Entries.find name l = none := Entries.find_of_lt (hname ▸ he)
      rw [if_pos hname, if_pos hname, hlater, Option.none_or, Option.some_or]
    · rw [if_neg hname, if_neg hname]

/-- The entries of a map make up the map. -/
theorem ofList_entries (m : NameMap α) : ofList m.entries = m := by
  refine ext_get? fun name => ?_
  have hget := get?_foldl_insert m.ascending empty name
  rw [get?_empty, Option.or_none] at hget
  exact hget

/-- **A name has its value in the added map**, else the one that it had. -/
theorem get?_union (m n : NameMap α) (name : String) :
    (m.union n).get? name = (n.get? name).or (m.get? name) :=
  get?_foldl_insert n.ascending m name

/-! ## 3. Other values -/

/-- The map with each of its values changed. -/
def mapValues {β : Type} (f : α → β) (m : NameMap α) : NameMap β :=
  ⟨m.entries.map fun e => (e.1, f e.2), by
    rw [Entries.Ascending, List.pairwise_map]
    exact m.ascending⟩

theorem values_mapValues {β : Type} (f : α → β) (m : NameMap α) :
    (m.mapValues f).values = m.values.map f := by
  unfold values mapValues
  rw [List.map_map, List.map_map]
  rfl

/-! ## 4. Other names -/

theorem values_filter (keep : α → Bool) (m : NameMap α) :
    (m.filter keep).values = m.values.filter keep := by
  unfold values
  rw [entries_filter, List.filter_map]
  rfl

/-- Entries under names of their own all stay in the map. -/
theorem entries_foldl_insert_perm {l : List (String × α)} (m : NameMap α)
    (hnames : (m.keys ++ l.map Prod.fst).Nodup) :
    (l.foldl (fun m e => m.insert e.1 e.2) m).entries.Perm (m.entries ++ l) := by
  induction l generalizing m with
  | nil =>
    rw [List.append_nil]
    exact .refl _
  | cons e l ih =>
    rw [List.map_cons, List.nodup_middle, List.nodup_cons] at hnames
    obtain ⟨hfresh, hrest⟩ := hnames
    have hnew : ∀ x ∈ m.entries, x.1 ≠ e.1 := fun x hx heq =>
      hfresh (List.mem_append_left _ (heq ▸ List.mem_map_of_mem hx))
    have hput : (m.insert e.1 e.2).entries.Perm (e :: m.entries) := Entries.put_perm hnew
    have hkeys : (m.insert e.1 e.2).keys.Perm (e.1 :: m.keys) := hput.map Prod.fst
    have hnext : ((m.insert e.1 e.2).keys ++ l.map Prod.fst).Nodup := by
      rw [(hkeys.append_right _).nodup_iff, List.cons_append, List.nodup_cons]
      exact ⟨hfresh, hrest⟩
    exact (ih _ hnext).trans ((hput.append_right l).trans List.perm_middle.symm)

/-- The map with its values under other names. -/
def rename (f : String → String) (m : NameMap α) : NameMap α :=
  ofList (m.entries.map fun e => (f e.1, e.2))

/-- **Under distinct names the values are the same**, up to their order. -/
theorem values_rename_perm {f : String → String} (hnames : (m.keys.map f).Nodup) :
    (m.rename f).values.Perm m.values := by
  have hkeys : (m.entries.map fun e => (f e.1, e.2)).map Prod.fst = m.keys.map f := by
    unfold keys
    rw [List.map_map, List.map_map]
    rfl
  have hvalues : (m.entries.map fun e => (f e.1, e.2)).map Prod.snd = m.values := by
    unfold values
    rw [List.map_map]
    rfl
  have hentries := entries_foldl_insert_perm (l := m.entries.map fun e => (f e.1, e.2)) empty
    (hkeys ▸ hnames)
  rw [← hvalues]
  exact hentries.map Prod.snd

end NameMap

end HostAgent
