/-!
# Association lists

Finite tables as lists of pairs, in which the first pair of a key counts.

* `get?_set`, `get?_erase` -- what the two changes do to every key.
-/

namespace HostAgent

namespace Assoc

variable {K V : Type} [DecidableEq K]

/-- The value of a key. -/
def get? (key : K) : List (K × V) → Option V
  | [] => none
  | e :: l => if e.1 = key then some e.2 else get? key l

/-- The table without a key. -/
def erase (key : K) (l : List (K × V)) : List (K × V) := l.filter fun e => e.1 ≠ key

/-- The table with a value for a key. -/
def set (key : K) (value : V) (l : List (K × V)) : List (K × V) := (key, value) :: erase key l

omit [DecidableEq K] in
/-- The keys of a table. -/
def keys (l : List (K × V)) : List K := l.map Prod.fst

theorem get?_erase (key other : K) (l : List (K × V)) :
    get? other (erase key l) = if key = other then none else get? other l := by
  induction l with
  | nil => simp [erase, get?]
  | cons e l ih =>
    by_cases h : e.1 = key
    · by_cases ho : key = other
      · have hd : erase key (e :: l) = erase key l := by simp [erase, h]
        rw [hd, ih]
        simp [ho]
      · have he : e.1 ≠ other := by rw [h]; exact ho
        have hd : erase key (e :: l) = erase key l := by simp [erase, h]
        rw [hd, ih]
        simp [ho, get?, he]
    · have hd : erase key (e :: l) = e :: erase key l := by simp [erase, h]
      rw [hd]
      by_cases he : e.1 = other
      · have ho : key ≠ other := by rintro rfl; exact h he
        simp [get?, he, ho]
      · simp [get?, he, ih]

theorem get?_set (key other : K) (value : V) (l : List (K × V)) :
    get? other (set key value l) = if key = other then some value else get? other l := by
  by_cases h : key = other
  · simp [set, get?, h]
  · simp [set, get?, h, get?_erase]

end Assoc

end HostAgent
