/-!
# Sets of characters given by ranges of code points

Every character class of this library is a list of closed ranges in ascending order. This file
fixes what such a list means:

* `Ranges.holds t c` -- the code point of `c` lies in one of the ranges of `t`;
* `Ranges.holds_iff` -- the same, as a statement about the list.
-/

namespace HostAgent.Text

/-- A set of code points, as closed ranges. -/
abbrev Ranges := List (Nat × Nat)

/-- The character lies in one of the ranges. -/
def Ranges.holds (t : Ranges) (c : Char) : Bool :=
  t.any fun r => r.1 ≤ c.toNat && c.toNat ≤ r.2

theorem Ranges.holds_iff (t : Ranges) (c : Char) :
    t.holds c = true ↔ ∃ r ∈ t, r.1 ≤ c.toNat ∧ c.toNat ≤ r.2 := by
  simp [Ranges.holds]

end HostAgent.Text
