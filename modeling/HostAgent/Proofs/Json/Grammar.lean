import HostAgent.Json.Reader
import HostAgent.Text.Lines

/-!
# The grammar of JSON

What a JSON text looks like and what it says, told without the machine that reads it: values with
blanks around them, strings in pieces, numbers in parts. A value has many spellings.

* `SpellsText` -- a string and what it says;
* `IsNumber` -- the spellings of numbers;
* `Spells` -- a value and its spellings.
-/

namespace HostAgent.Json

open Text

/-! ## 1. Strings -/

/-- Blanks alone. -/
def Blanks (t : List Char) : Prop := ∀ c ∈ t, isSpace c = true

theorem Blanks.none : Blanks [] := fun _ h => absurd h List.not_mem_nil

/-- A piece of a string: a character, or a UTF-16 unit by its number. -/
inductive StringPiece where
  | char (c : Char)
  | unit (u : Nat)

/-- How a piece is written. Quotes, backslashes and control characters do not stand for
    themselves. -/
inductive StringPiece.WrittenAs : StringPiece → List Char → Prop where
  | plain {c : Char} (hquote : c ≠ '"') (hslash : c ≠ '\\') (hcontrol : 0x20 ≤ c.toNat) :
      WrittenAs (.char c) [c]
  | escape {e c : Char} (he : unescape? e = some c) : WrittenAs (.char c) ['\\', e]
  | unit {a b c d : Char} {u v w x : Nat} (ha : hexValue? a = some u) (hb : hexValue? b = some v)
      (hc : hexValue? c = some w) (hd : hexValue? d = some x) :
      WrittenAs (.unit (0x10 * (0x10 * (0x10 * u + v) + w) + x)) ['\\', 'u', a, b, c, d]

/-- The first half of a surrogate pair. -/
abbrev IsHigh (u : Nat) : Prop := 0xD800 ≤ u ∧ u ≤ 0xDBFF

/-- The second half of a surrogate pair. -/
abbrev IsLow (u : Nat) : Prop := 0xDC00 ≤ u ∧ u ≤ 0xDFFF

/-- The character of a surrogate pair. -/
def ofPair (high low : Nat) : Char :=
  Char.ofNat (0x10000 + (high - 0xD800) * 0x400 + (low - 0xDC00))

/-- What the pieces of a string say. The halves of a surrogate pair are one character; with a half
    that stands alone the string is no Unicode text. -/
def saidBy : List StringPiece → Option (List Char)
  | [] => some []
  | .char c :: more => (saidBy more).map (c :: ·)
  | .unit u :: more =>
    if IsHigh u then
      match more with
      | .unit low :: rest => if IsLow low then (saidBy rest).map (ofPair u low :: ·) else none
      | _ => none
    else if IsLow u then none
    else (saidBy more).map (Char.ofNat u :: ·)

theorem saidBy_unit {u : Nat} (hhigh : ¬IsHigh u) (hlow : ¬IsLow u) (more : List StringPiece) :
    saidBy (.unit u :: more) = (saidBy more).map (Char.ofNat u :: ·) := by
  rw [saidBy.eq_def]
  exact (if_neg hhigh).trans (if_neg hlow)

/-- A string in its quotes, and what it says. -/
inductive SpellsText : Option String → List Char → Prop where
  | pieces {l : List (StringPiece × List Char)} (each : ∀ x ∈ l, x.1.WrittenAs x.2) :
      SpellsText ((saidBy (l.map Prod.fst)).map String.ofList) ('"' :: l.flatMap Prod.snd ++ ['"'])

/-! ## 2. Numbers -/

/-- At least one digit. -/
def IsDigits (t : List Char) : Prop := t ≠ [] ∧ ∀ c ∈ t, c.isDigit = true

/-- The part before the point: nothing follows a zero at its start. -/
def IsWhole (t : List Char) : Prop := t = ['0'] ∨ t.head? ≠ some '0' ∧ IsDigits t

/-- The point and what follows it, if there is one. -/
def IsFraction (t : List Char) : Prop := t = [] ∨ ∃ digits, t = '.' :: digits ∧ IsDigits digits

/-- The exponent, if there is one. -/
def IsExponent (t : List Char) : Prop :=
  t = [] ∨ ∃ e sign digits, t = e :: (sign ++ digits) ∧ (e = 'e' ∨ e = 'E')
    ∧ (sign = [] ∨ sign = ['+'] ∨ sign = ['-']) ∧ IsDigits digits

/-- A number without its sign. -/
def IsUnsigned (t : List Char) : Prop :=
  ∃ whole fraction exponent, t = whole ++ (fraction ++ exponent) ∧ IsWhole whole
    ∧ IsFraction fraction ∧ IsExponent exponent

/-- A number. -/
def IsNumber (t : List Char) : Prop := IsUnsigned t ∨ ∃ u, t = '-' :: u ∧ IsUnsigned u

/-! ## 3. Values -/

/-- The name of a member, with blanks around it. -/
inductive SpellsName : Option String → List Char → Prop where
  | padded {name : Option String} {before t after : List Char} (hbefore : Blanks before)
      (h : SpellsText name t) (hafter : Blanks after) : SpellsName name (before ++ (t ++ after))

/-- A name may do without blanks. -/
theorem SpellsText.name {name : Option String} {t : List Char} (h : SpellsText name t) :
    SpellsName name t := by
  have hpadded := SpellsName.padded Blanks.none h Blanks.none
  rw [List.append_nil] at hpadded
  exact hpadded

/-- A member with the texts of its name and its value. -/
structure SpelledMember where
  name : Option String
  value : Value
  nameText : List Char
  valueText : List Char

/-- The text of a member. -/
def SpelledMember.text (m : SpelledMember) : List Char := m.nameText ++ ':' :: m.valueText

/-- The member. -/
def SpelledMember.member (m : SpelledMember) : Option String × Value := (m.name, m.value)

/-- **A value and its spellings**, with blanks around them or not. -/
inductive Spells : Value → List Char → Prop where
  | wordNull : Spells .null ['n', 'u', 'l', 'l']
  | wordTrue : Spells (.bool true) ['t', 'r', 'u', 'e']
  | wordFalse : Spells (.bool false) ['f', 'a', 'l', 's', 'e']
  | number {t : List Char} (h : IsNumber t) : Spells (.number (.ofSpelling t)) t
  | text {content : Option String} {t : List Char} (h : SpellsText content t) :
      Spells (.text content) t
  | emptyArray {blanks : List Char} (h : Blanks blanks) :
      Spells (.array []) ('[' :: blanks ++ [']'])
  | array {items : List (Value × List Char)} (hne : items ≠ [])
      (each : ∀ x ∈ items, Spells x.1 x.2) :
      Spells (.array (items.map Prod.fst)) ('[' :: joinWith [','] (items.map Prod.snd) ++ [']'])
  | emptyObject {blanks : List Char} (h : Blanks blanks) :
      Spells (.object []) ('\x7b' :: blanks ++ ['\x7d'])
  | object {members : List SpelledMember} (hne : members ≠ [])
      (names : ∀ m ∈ members, SpellsName m.name m.nameText)
      (each : ∀ m ∈ members, Spells m.value m.valueText) :
      Spells (.object (members.map SpelledMember.member))
        ('\x7b' :: joinWith [','] (members.map SpelledMember.text) ++ ['\x7d'])
  | padded {v : Value} {before t after : List Char} (hbefore : Blanks before) (h : Spells v t)
      (hafter : Blanks after) : Spells v (before ++ (t ++ after))

end HostAgent.Json
