import HostAgent.Text.Decimal

/-!
# JSON values and their text

A JSON value as it is read: member order and repeated members are kept, and so is the spelling of a
number that is not a plain natural one. A string may fail to be a Unicode text (stray bytes, lone
surrogates); it is then `text none`, which nothing but a reader that ignores it accepts.

* `print` -- the compact text of a value.
-/

namespace HostAgent.Json

/-! ## 1. Values -/

/-- A number: a natural one written by digits alone, or any other one by its spelling. -/
inductive Number where
  | natural (n : Nat)
  | other (spelling : String)
  deriving DecidableEq, Repr

/-- A JSON value. A string that is not a Unicode text has no content. -/
inductive Value where
  | null
  | bool (b : Bool)
  | number (n : Number)
  | text (content : Option String)
  | array (items : List Value)
  | object (members : List (Option String × Value))
  deriving Repr, Inhabited

namespace Value

/-- The value that is a text. -/
def ofText (s : String) : Value := .text (some s)

/-- The value that is a natural number. -/
def ofNat (n : Nat) : Value := .number (.natural n)

/-- The value that lists others. -/
def ofList (l : List Value) : Value := .array l

/-- The value with the given members. -/
def ofMembers (l : List (String × Value)) : Value := .object (l.map fun m => (some m.1, m.2))

end Value

/-! ## 2. Printing -/

/-- A hexadecimal digit in lower case. -/
def hexDigit (n : Nat) : Char := if n < 10 then Char.ofNat (0x30 + n) else Char.ofNat (0x57 + n)

/-- How a character is written inside a JSON string: quote, backslash and control characters are
    escaped, everything else stands for itself. -/
def escaped (c : Char) : List Char :=
  if c = '"' then ['\\', '"']
  else if c = '\\' then ['\\', '\\']
  else if c = '\x08' then ['\\', 'b']
  else if c = '\x0c' then ['\\', 'f']
  else if c = '\n' then ['\\', 'n']
  else if c = '\r' then ['\\', 'r']
  else if c = '\t' then ['\\', 't']
  else if c.toNat < 0x20 then
    ['\\', 'u', '0', '0', hexDigit (c.toNat / 0x10), hexDigit (c.toNat % 0x10)]
  else [c]

/-- A JSON string. -/
def printText (s : String) : List Char := '"' :: s.toList.flatMap escaped ++ ['"']

/-- The spelling of a number. -/
def Number.print : Number → List Char
  | .natural n => Decimal.write n
  | .other spelling => spelling.toList

namespace Value

mutual

/-- The compact text of a value. -/
def print : Value → List Char
  | .null => "null".toList
  | .bool true => "true".toList
  | .bool false => "false".toList
  | .number n => n.print
  | .text content => printText (content.getD "")
  | .array items => '[' :: printItems items ++ [']']
  | .object members => '\x7b' :: printMembers members ++ ['\x7d']

/-- The values of an array, with commas between them. -/
def printItems : List Value → List Char
  | [] => []
  | [v] => print v
  | v :: w :: vs => print v ++ ',' :: printItems (w :: vs)

/-- The members of an object, with commas between them. -/
def printMembers : List (Option String × Value) → List Char
  | [] => []
  | [(k, v)] => printText (k.getD "") ++ ':' :: print v
  | (k, v) :: m :: ms => printText (k.getD "") ++ ':' :: print v ++ ',' :: printMembers (m :: ms)

end

/-- The compact text of a value, as a string. -/
def compact (v : Value) : String := String.ofList v.print

end Value

end HostAgent.Json
