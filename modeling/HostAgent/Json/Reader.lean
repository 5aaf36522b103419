import HostAgent.Json.Value
import HostAgent.Text.Utf8

/-!
# Reading JSON

The reader is a pushdown machine: one step for each symbol of the input, a stack of the arrays and
objects that are open, and so no bound on how deep they nest. A symbol is a character, or `none` for
bytes that are no character; those may stand inside strings only, and spoil them.

* `step` -- one symbol; `read` -- a whole document;
* `readBytes`, `readText` -- the same for byte strings and strings.

Blanks are the space, the tab, the line feed and the carriage return. Numbers have no leading zeros
and no bare point or exponent. Strings hold no raw control characters. Nothing but blanks follows
the value.
-/

namespace HostAgent.Json

/-! ## 1. The state of the machine -/

/-- One symbol of the input: a character, or bytes that are none. -/
abbrev Symbol := Option Char

/-- An open array or object, with what it holds so far, last first. -/
inductive Frame where
  | array (items : List Value)
  | object (members : List (Option String × Value))
  | member (members : List (Option String × Value)) (key : Option String)

/-- The string that is being read: its characters so far, last first, whether it is a Unicode text
    so far, and a high surrogate that waits for its other half. -/
structure Partial where
  chars : List Char := []
  sound : Bool := true
  high : Option Nat := none

/-- Where in a string the reader is. -/
inductive StringPhase where
  | plain
  | escape
  | hex (digits value : Nat)

/-- Where in a number the reader is. -/
inductive NumberPhase where
  | minus
  | zero
  | whole
  | point
  | fraction
  | exponent
  | exponentSign
  | exponentDigits
  deriving DecidableEq

/-- What the reader expects next. -/
inductive Mode where
  | value
  | firstItem
  | firstKey
  | key
  | colon
  | after
  | string (isKey : Bool) (content : Partial) (phase : StringPhase)
  | number (spelling : List Char) (phase : NumberPhase)
  | word (rest : List Char) (meaning : Value)
  | finished (v : Value)

/-- The state of the reader. -/
structure State where
  stack : List Frame
  mode : Mode

/-- The state before the first symbol. -/
def State.initial : State := ⟨[], .value⟩

/-! ## 2. Characters -/

/-- A blank of JSON. -/
def isSpace (c : Char) : Bool := c = ' ' || c = '\t' || c = '\n' || c = '\r'

/-- The value of a hexadecimal digit. -/
def hexValue? (c : Char) : Option Nat :=
  if '0' ≤ c ∧ c ≤ '9' then some (c.toNat - 0x30)
  else if 'a' ≤ c ∧ c ≤ 'f' then some (c.toNat - 0x57)
  else if 'A' ≤ c ∧ c ≤ 'F' then some (c.toNat - 0x37)
  else none

/-- The character that a letter after a backslash stands for. -/
def unescape? : Char → Option Char
  | '"' => some '"'
  | '\\' => some '\\'
  | '/' => some '/'
  | 'b' => some '\x08'
  | 'f' => some '\x0c'
  | 'n' => some '\n'
  | 'r' => some '\r'
  | 't' => some '\t'
  | _ => none

/-! ## 3. Strings -/

namespace Partial

/-- One more character. A high surrogate before it stays alone. -/
def push (p : Partial) (c : Char) : Partial :=
  ⟨c :: p.chars, p.sound && p.high.isNone, none⟩

/-- Something that is no character. -/
def spoil (p : Partial) : Partial := ⟨p.chars, false, none⟩

/-- One UTF-16 unit, given by its number. -/
def unit (p : Partial) (u : Nat) : Partial :=
  if 0xD800 ≤ u ∧ u ≤ 0xDBFF then
    if p.high.isNone then ⟨p.chars, p.sound, some u⟩ else p.spoil
  else if 0xDC00 ≤ u ∧ u ≤ 0xDFFF then
    match p.high with
    | some h => ⟨Char.ofNat (0x10000 + (h - 0xD800) * 0x400 + (u - 0xDC00)) :: p.chars, p.sound, none⟩
    | none => p.spoil
  else p.push (Char.ofNat u)

/-- The text, when the string is one. -/
def content (p : Partial) : Option String :=
  if p.sound && p.high.isNone then some (String.ofList p.chars.reverse) else none

end Partial

/-! ## 4. Values -/

/-- The number of a complete spelling. -/
def Number.ofSpelling (spelling : List Char) : Number :=
  match Decimal.natural? spelling with
  | some n => .natural n
  | none => .other (String.ofList spelling)

/-- The phases in which a number may end. -/
def NumberPhase.isComplete : NumberPhase → Bool
  | .zero | .whole | .fraction | .exponentDigits => true
  | .minus | .point | .exponent | .exponentSign => false

/-- The phase after one more character of a number. -/
def NumberPhase.next? (c : Char) : NumberPhase → Option NumberPhase
  | .minus => if c = '0' then some .zero else if c.isDigit then some .whole else none
  | .zero => if c = '.' then some .point else if c = 'e' || c = 'E' then some .exponent else none
  | .whole =>
    if c.isDigit then some .whole else if c = '.' then some .point
    else if c = 'e' || c = 'E' then some .exponent else none
  | .point => if c.isDigit then some .fraction else none
  | .fraction =>
    if c.isDigit then some .fraction else if c = 'e' || c = 'E' then some .exponent else none
  | .exponent =>
    if c.isDigit then some .exponentDigits else if c = '+' || c = '-' then some .exponentSign
    else none
  | .exponentSign => if c.isDigit then some .exponentDigits else none
  | .exponentDigits => if c.isDigit then some .exponentDigits else none

/-- The state after a complete value. -/
def deliver (v : Value) : List Frame → State
  | [] => ⟨[], .finished v⟩
  | .array items :: stack => ⟨.array (v :: items) :: stack, .after⟩
  | .member members key :: stack => ⟨.object ((key, v) :: members) :: stack, .after⟩
  | .object members :: stack => ⟨.object members :: stack, .after⟩

/-- The state after the first character of a value. -/
def begin (stack : List Frame) (c : Char) : Option State :=
  if c = '"' then some ⟨stack, .string false {} .plain⟩
  else if c = '[' then some ⟨.array [] :: stack, .firstItem⟩
  else if c = '\x7b' then some ⟨.object [] :: stack, .firstKey⟩
  else if c = 'n' then some ⟨stack, .word ['u', 'l', 'l'] .null⟩
  else if c = 't' then some ⟨stack, .word ['r', 'u', 'e'] (.bool true)⟩
  else if c = 'f' then some ⟨stack, .word ['a', 'l', 's', 'e'] (.bool false)⟩
  else if c = '-' then some ⟨stack, .number [c] .minus⟩
  else if c = '0' then some ⟨stack, .number [c] .zero⟩
  else if c.isDigit then some ⟨stack, .number [c] .whole⟩
  else none

/-- The state after a character that follows a value inside an array or object. -/
def continue? (stack : List Frame) (c : Char) : Option State :=
  match stack with
  | .array items :: below =>
    if c = ',' then some ⟨.array items :: below, .value⟩
    else if c = ']' then some (deliver (.array items.reverse) below)
    else none
  | .object members :: below =>
    if c = ',' then some ⟨.object members :: below, .key⟩
    else if c = '\x7d' then some (deliver (.object members.reverse) below)
    else none
  | _ => none

/-- The state at the end of a string. -/
def endString (stack : List Frame) (isKey : Bool) (p : Partial) : Option State :=
  if isKey then
    match stack with
    | .object members :: below => some ⟨.member members p.content :: below, .colon⟩
    | _ => none
  else some (deliver (.text p.content) stack)

/-- The state after one symbol inside a string. -/
def stringStep (stack : List Frame) (isKey : Bool) (p : Partial) :
    StringPhase → Symbol → Option State
  | .plain, none => some ⟨stack, .string isKey p.spoil .plain⟩
  | .plain, some c =>
    if c = '"' then endString stack isKey p
    else if c = '\\' then some ⟨stack, .string isKey p .escape⟩
    else if c.toNat < 0x20 then none
    else some ⟨stack, .string isKey (p.push c) .plain⟩
  | .escape, some c =>
    if c = 'u' then some ⟨stack, .string isKey p (.hex 0 0)⟩
    else (unescape? c).map fun x => ⟨stack, .string isKey (p.push x) .plain⟩
  | .hex digits value, some c =>
    (hexValue? c).map fun d =>
      if digits = 3 then ⟨stack, .string isKey (p.unit (0x10 * value + d)) .plain⟩
      else ⟨stack, .string isKey p (.hex (digits + 1) (0x10 * value + d))⟩
  | _, none => none

/-- The state after a character that is no part of the value before it. -/
def afterStep (s : State) (c : Char) : Option State :=
  if isSpace c then some s
  else match s.mode with
    | .after => continue? s.stack c
    | _ => none

/-! ## 5. The machine -/

/-- The state after one symbol; nothing when the input is no JSON. -/
def step (s : State) (x : Symbol) : Option State :=
  match s.mode, x with
  | .string isKey p phase, x => stringStep s.stack isKey p phase x
  | _, none => none
  | .value, some c => if isSpace c then some s else begin s.stack c
  | .firstItem, some c =>
    if isSpace c then some s
    else if c = ']' then continue? s.stack c
    else begin s.stack c
  | .firstKey, some c =>
    if isSpace c then some s
    else if c = '\x7d' then continue? s.stack c
    else if c = '"' then some ⟨s.stack, .string true {} .plain⟩
    else none
  | .key, some c =>
    if isSpace c then some s
    else if c = '"' then some ⟨s.stack, .string true {} .plain⟩
    else none
  | .colon, some c =>
    if isSpace c then some s
    else if c = ':' then some ⟨s.stack, .value⟩
    else none
  | .word rest meaning, some c =>
    match rest with
    | [] => none
    | [e] => if c = e then some (deliver meaning s.stack) else none
    | e :: more => if c = e then some ⟨s.stack, .word more meaning⟩ else none
  | .number spelling phase, some c =>
    match phase.next? c with
    | some phase' => some ⟨s.stack, .number (c :: spelling) phase'⟩
    | none =>
      if phase.isComplete then
        afterStep (deliver (.number (.ofSpelling spelling.reverse)) s.stack) c
      else none
  | .after, some c => afterStep s c
  | .finished _, some c => afterStep s c

/-- The value, when the input may end in this state. -/
def State.result? (s : State) : Option Value :=
  match s.stack, s.mode with
  | [], .finished v => some v
  | [], .number spelling phase =>
    if phase.isComplete then some (.number (.ofSpelling spelling.reverse)) else none
  | _, _ => none

/-- The state after a list of symbols. -/
def run (s : State) (input : List Symbol) : Option State := input.foldlM step s

/-- The value that a document holds. -/
def read (input : List Symbol) : Option Value := (run .initial input).bind State.result?

/-- The value in a string. -/
def readText (s : String) : Option Value := read (s.toList.map some)

/-- The value in a byte string. -/
def readBytes (bs : Bytes) : Option Value := read ((Utf8.pieces bs).map Utf8.Piece.char?)

end HostAgent.Json
