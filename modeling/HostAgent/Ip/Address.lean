import HostAgent.Text.Decimal

/-!
# IP addresses

Addresses of both families, how they are read and how they are written. An IPv4 address is four
decimal numbers without leading zeros. An IPv6 address is eight groups of up to four hexadecimal
digits, of which one run of zeros may be left out and the last two may be an IPv4 address; there is
no zone. The written form is the canonical one: lower case, no leading zeros, the longest run of two
or more zero groups left out (the first of equals), and the tail of an IPv4-mapped address in
decimal.

* `V4.parse?`, `V6.parse?`, `Address.parse?` -- reading a whole text;
* `V4.text`, `V6.text` -- writing.
-/

namespace HostAgent.Ip

/-! ## 1. Addresses -/

/-- An IPv4 address. -/
structure V4 where
  bits : BitVec 32
  deriving DecidableEq, Repr

/-- An IPv6 address. -/
structure V6 where
  bits : BitVec 128
  deriving DecidableEq, Repr

/-- An address of either family. -/
inductive Address where
  | v4 (a : V4)
  | v6 (a : V6)
  deriving DecidableEq, Repr

/-- The address of four octets. -/
def V4.ofOctets (a b c d : Nat) : V4 :=
  ⟨BitVec.ofNat 32 (a * 0x1000000 + b * 0x10000 + c * 0x100 + d)⟩

/-- The octets of an address. -/
def V4.octets (a : V4) : List Nat :=
  [24, 16, 8, 0].map fun shift => (a.bits.toNat >>> shift) % 0x100

/-- The address of a list of groups. -/
def V6.ofGroups (groups : List Nat) : V6 :=
  ⟨BitVec.ofNat 128 (groups.foldl (fun n g => n * 0x10000 + g) 0)⟩

/-- The groups of an address. -/
def V6.groups (a : V6) : List Nat :=
  [112, 96, 80, 64, 48, 32, 16, 0].map fun shift => (a.bits.toNat >>> shift) % 0x10000

/-! ## 2. Reading -/

/-- The rest of a text after one character. -/
def skip? (c : Char) : List Char → Option (List Char)
  | [] => none
  | x :: t => if x = c then some t else none

/-- A decimal number up to 255 at the start of a text. -/
def octet? (t : List Char) : Option (Nat × List Char) :=
  let digits := t.takeWhile Char.isDigit
  if digits.length = 0 ∨ 3 < digits.length then none
  else if digits.head? = some '0' ∧ 1 < digits.length then none
  else
    match Decimal.natural? digits with
    | some n => if n ≤ 255 then some (n, t.drop digits.length) else none
    | none => none

/-- A point and an octet at the start of a text. -/
def pointOctet? (t : List Char) : Option (Nat × List Char) := do
  let t ← skip? '.' t
  octet? t

/-- An IPv4 address at the start of a text. -/
def v4? (t : List Char) : Option (V4 × List Char) := do
  let (a, t) ← octet? t
  let (b, t) ← pointOctet? t
  let (c, t) ← pointOctet? t
  let (d, t) ← pointOctet? t
  some (.ofOctets a b c d, t)

/-- The value of a hexadecimal digit. -/
def hexDigit? (c : Char) : Option Nat :=
  if '0' ≤ c ∧ c ≤ '9' then some (c.toNat - 0x30)
  else if 'a' ≤ c ∧ c ≤ 'f' then some (c.toNat - 0x57)
  else if 'A' ≤ c ∧ c ≤ 'F' then some (c.toNat - 0x37)
  else none

/-- A group of one to four hexadecimal digits at the start of a text. -/
def group? (t : List Char) : Option (Nat × List Char) :=
  let digits := t.takeWhile fun c => (hexDigit? c).isSome
  if digits.length = 0 ∨ 4 < digits.length then none
  else some (digits.foldl (fun n c => n * 0x10 + (hexDigit? c).getD 0) 0, t.drop digits.length)

/-- What a run of groups at the start of a text gives. -/
structure Groups where
  groups : List Nat
  endsInV4 : Bool
  rest : List Char

/-- Groups with colons between them, as many as there are and at most `room`; an IPv4 address counts
    for two and ends the run. -/
def groupsUpTo : (room : Nat) → (isFirst : Bool) → List Char → Groups
  | 0, _, t => ⟨[], false, t⟩
  | room + 1, isFirst, t =>
    match if isFirst then some t else skip? ':' t with
    | none => ⟨[], false, t⟩
    | some body =>
      match if room = 0 then none else v4? body with
      | some (a, rest) => ⟨[a.bits.toNat / 0x10000, a.bits.toNat % 0x10000], true, rest⟩
      | none =>
        match group? body with
        | none => ⟨[], false, t⟩
        | some (g, rest) =>
          let more := groupsUpTo room false rest
          ⟨g :: more.groups, more.endsInV4, more.rest⟩

/-- An IPv6 address at the start of a text. A double colon stands for at least one group, and no IPv4
    address stands before it. -/
def v6? (t : List Char) : Option (V6 × List Char) :=
  let head := groupsUpTo 8 true t
  let size := head.groups.length
  if size = 8 then some (.ofGroups head.groups, head.rest)
  else if head.endsInV4 then none
  else do
    let t ← skip? ':' head.rest
    let t ← skip? ':' t
    let tail := groupsUpTo (7 - size) true t
    let zeros := List.replicate (8 - size - tail.groups.length) 0
    some (.ofGroups (head.groups ++ zeros ++ tail.groups), tail.rest)

/-- The value of a reading that has used the whole text. -/
def whole? {α : Type} : Option (α × List Char) → Option α
  | some (a, []) => some a
  | _ => none

/-- The IPv4 address that a text is. -/
def V4.parse? (s : String) : Option V4 := whole? (v4? s.toList)

/-- The IPv6 address that a text is. -/
def V6.parse? (s : String) : Option V6 := whole? (v6? s.toList)

/-- The address that a text is. -/
def Address.parse? (s : String) : Option Address :=
  match v4? s.toList with
  | some (a, rest) => whole? (some (.v4 a, rest))
  | none => (V6.parse? s).map .v6

/-! ## 3. Writing -/

/-- The address in decimal. -/
def V4.text (a : V4) : String := String.intercalate "." (a.octets.map Decimal.text)

/-- The number of zeros that a list starts with. -/
def leadingZeros : List Nat → Nat
  | 0 :: l => leadingZeros l + 1
  | _ => 0

/-- Where the longest run of zeros starts, and its length; the first one of equals. -/
def longestZeros (groups : List Nat) : Nat × Nat :=
  (List.range groups.length).foldl
    (fun best i =>
      let n := leadingZeros (groups.drop i)
      if best.2 < n then (i, n) else best)
    (0, 0)

/-- A group in hexadecimal. -/
def groupText (g : Nat) : String := String.ofList (Nat.toDigits 16 g)

/-- Groups with colons between them. -/
def groupsText (groups : List Nat) : String := String.intercalate ":" (groups.map groupText)

/-- The address in its canonical form. -/
def V6.text (a : V6) : String :=
  match a.groups with
  | [0, 0, 0, 0, 0, 0xFFFF, hi, lo] =>
    "::ffff:" ++ (V4.mk (BitVec.ofNat 32 (hi * 0x10000 + lo))).text
  | groups =>
    let (start, length) := longestZeros groups
    if 1 < length then
      groupsText (groups.take start) ++ "::" ++ groupsText (groups.drop (start + length))
    else groupsText groups

/-- The address in its canonical form. -/
def Address.text : Address → String
  | .v4 a => a.text
  | .v6 a => a.text

/-- The two texts are the same address, or the same text when one of them is no address. -/
def sameAddress (s t : String) : Bool :=
  match Address.parse? s, Address.parse? t with
  | some a, some b => a = b
  | _, _ => s = t

end HostAgent.Ip
