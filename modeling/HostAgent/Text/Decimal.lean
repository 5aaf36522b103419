/-!
# Natural numbers in decimal

A number is read from ASCII digits, with a leading plus sign and leading zeros allowed, and only up
to a bound that the caller names. It is written in the shortest way.

* `read?_le` -- nothing above the bound is read.
-/

namespace HostAgent.Decimal

/-- The value of an ASCII digit. -/
def digit? (c : Char) : Option Nat :=
  if '0' ≤ c ∧ c ≤ '9' then some (c.toNat - '0'.toNat) else none

/-- Digits appended to a number read so far. -/
def digits? (value : Nat) : List Char → Option Nat
  | [] => some value
  | c :: t => do
    let d ← digit? c
    digits? (10 * value + d) t

/-- A number of at least one digit. -/
def natural? : List Char → Option Nat
  | [] => none
  | c :: t => digits? 0 (c :: t)

/-- The text without one plus sign at its start. -/
def dropPlus : List Char → List Char
  | '+' :: t => t
  | t => t

/-- A number up to a bound, with an optional plus sign. -/
def read? (bound : Nat) (t : List Char) : Option Nat :=
  (natural? (dropPlus t)).filter (· ≤ bound)

theorem read?_le {bound n : Nat} {t : List Char} (h : read? bound t = some n) : n ≤ bound := by
  simp only [read?, Option.filter_eq_some_iff] at h
  simpa using h.2

/-- The largest number of eight bits. -/
def max8 : Nat := UInt8.size - 1

/-- The largest number of 32 bits. -/
def max32 : Nat := UInt32.size - 1

/-- The largest number of 64 bits. -/
def max64 : Nat := UInt64.size - 1

/-- The digits of a number. -/
def write (n : Nat) : List Char := Nat.toDigits 10 n

/-- The decimal text of a number. -/
def text (n : Nat) : String := String.ofList (write n)

/-- The decimal text of an integer. -/
def signedText : Int → String
  | .ofNat n => text n
  | .negSucc n => "-" ++ text (n + 1)

end HostAgent.Decimal
