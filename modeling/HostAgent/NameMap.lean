/-!
# Maps from names

A map whose keys are texts, kept in the order of their code points, which is also the order of their
UTF-8 bytes. The entries are strictly ascending, so a map has one form: two maps with the same
entries are equal.

* `get?_insert` -- insertion replaces the value of one name and keeps all others;
* `Entries.put_ascending` -- it keeps the order;
* `ofList` -- of several values for one name the last one counts.
-/

namespace HostAgent

/-! ## 1. Entries -/

namespace Entries

variable {α : Type}

/-- The entries are strictly ascending by name. -/
def Ascending (l : List (String × α)) : Prop := l.Pairwise fun a b => a.1 < b.1

/-- The value of a name. -/
def find (name : String) : List (String × α) → Option α
  | [] => none
  | e :: l => if e.1 = name then some e.2 else find name l

/-- The entries with a value for one name put in its place. -/
def put (name : String) (value : α) : List (String × α) → List (String × α)
  | [] => [(name, value)]
  | e :: l =>
    if name < e.1 then (name, value) :: e :: l
    else if e.1 = name then (name, value) :: l
    else e :: put name value l

theorem find_put (name other : String) (value : α) (l : List (String × α)) :
    find other (put name value l) = if name = other then some value else find other l := by
  induction l with
  | nil => simp [put, find]
  | cons e l ih =>
    simp only [put]
    split
    · simp [find]
    · split
      · rename_i h
        by_cases ho : name = other
        · simp [find, ho]
        · have : e.1 ≠ other := by rw [h]; exact ho
          simp [find, ho, this]
      · rename_i h
        by_cases ho : e.1 = other
        · have : name ≠ other := by rintro rfl; exact h ho
          simp [find, ho, this]
        · simp [find, ho, ih]

theorem mem_put {name : String} {value : α} {l : List (String × α)} {e : String × α}
    (h : e ∈ put name value l) : e = (name, value) ∨ e ∈ l := by
  induction l with
  | nil => simpa [put] using h
  | cons x l ih =>
    simp only [put] at h
    split at h
    · simpa using h
    · split at h
      · rcases List.mem_cons.1 h with h | h
        · exact Or.inl h
        · exact Or.inr (List.mem_cons_of_mem _ h)
      · rcases List.mem_cons.1 h with h | h
        · exact Or.inr (h ▸ List.mem_cons_self)
        · exact (ih h).imp id (List.mem_cons_of_mem _)

theorem put_ascending (name : String) (value : α) {l : List (String × α)} (h : Ascending l) :
    Ascending (put name value l) := by
  induction l with
  | nil => simp [put, Ascending]
  | cons e l ih =>
    have hl : Ascending l := (List.pairwise_cons.1 h).2
    have he := (List.pairwise_cons.1 h).1
    simp only [put]
    split
    · rename_i hlt
      refine List.pairwise_cons.2 ⟨fun x hx => ?_, h⟩
      rcases List.mem_cons.1 hx with rfl | hx
      · exact hlt
      · exact String.lt_trans hlt (he x hx)
    · rename_i hlt
      split
      · rename_i heq
        exact List.pairwise_cons.2 ⟨fun x hx => heq ▸ he x hx, hl⟩
      · rename_i hne
        refine List.pairwise_cons.2 ⟨fun x hx => ?_, ih hl⟩
        rcases mem_put hx with rfl | hx
        · have hle : e.1 ≤ name := String.not_lt.1 hlt
          exact Std.lt_of_le_of_ne hle hne
        · exact he x hx

end Entries

/-! ## 2. Maps -/

/-- A map from names to values. -/
structure NameMap (α : Type) where
  entries : List (String × α)
  ascending : Entries.Ascending entries

namespace NameMap

variable {α : Type}

/-- The map without entries. -/
def empty : NameMap α := ⟨[], List.Pairwise.nil⟩

instance : Inhabited (NameMap α) := ⟨empty⟩

theorem ext {m n : NameMap α} (h : m.entries = n.entries) : m = n := by
  cases m; cases n; simp_all

instance [DecidableEq α] : DecidableEq (NameMap α) := fun m n =>
  if h : m.entries = n.entries then isTrue (ext h) else isFalse fun e => h (e ▸ rfl)

/-- The value of a name. -/
def get? (m : NameMap α) (name : String) : Option α := Entries.find name m.entries

/-- The map with a value for one name, in place of the one that it had. -/
def insert (m : NameMap α) (name : String) (value : α) : NameMap α :=
  ⟨Entries.put name value m.entries, Entries.put_ascending name value m.ascending⟩

/-- The map of a list of pairs, inserted in order. -/
def ofList (l : List (String × α)) : NameMap α := l.foldl (fun m e => m.insert e.1 e.2) empty

/-- The number of names. -/
def size (m : NameMap α) : Nat := m.entries.length

/-- The names in order. -/
def keys (m : NameMap α) : List String := m.entries.map Prod.fst

/-- The values in the order of their names. -/
def values (m : NameMap α) : List α := m.entries.map Prod.snd

/-- The entries whose values satisfy a test. -/
def filter (keep : α → Bool) (m : NameMap α) : NameMap α :=
  ⟨m.entries.filter fun e => keep e.2, m.ascending.filter _⟩

theorem get?_insert (m : NameMap α) (name other : String) (value : α) :
    (m.insert name value).get? other = if name = other then some value else m.get? other :=
  Entries.find_put name other value m.entries

@[simp] theorem get?_empty (name : String) : (empty : NameMap α).get? name = none := rfl

@[simp] theorem entries_filter (keep : α → Bool) (m : NameMap α) :
    (m.filter keep).entries = m.entries.filter fun e => keep e.2 := rfl

end NameMap

end HostAgent
