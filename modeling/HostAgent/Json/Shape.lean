import HostAgent.Json.Value
import HostAgent.NameMap

/-!
# Values of an expected shape

Readers from JSON values to typed ones. A structure is given as an object, where members of other
names are ignored and a known one occurs once, or as an array of its members in order, from which
the last ones may be missing. A choice is given by its name, or as an object with that one member,
which is null.

* `members` -- the known members of a structure;
* `optional`, `required` -- one of them.
-/

namespace HostAgent.Json.Value

/-! ## 1. Plain values -/

/-- A truth value. -/
def asBool : Value → Option Bool
  | .bool b => some b
  | _ => none

/-- A text. -/
def asText : Value → Option String
  | .text content => content
  | _ => none

/-- A natural number up to a bound. -/
def asNatural (bound : Nat) : Value → Option Nat
  | .number (.natural n) => if n ≤ bound then some n else none
  | _ => none

/-- A number of 32 bits. -/
def asUInt32 (v : Value) : Option UInt32 := (v.asNatural Decimal.max32).map UInt32.ofNat

/-- A number of 64 bits. -/
def asUInt64 (v : Value) : Option UInt64 := (v.asNatural Decimal.max64).map UInt64.ofNat

/-- A list, each of whose values is read alike. -/
def asList {α : Type} (item : Value → Option α) : Value → Option (List α)
  | .array items => items.mapM item
  | _ => none

/-- A value that may be null. -/
def asOption {α : Type} (item : Value → Option α) : Value → Option (Option α)
  | .null => some none
  | v => (item v).map some

/-- A choice between names. -/
def asChoice {α : Type} (choices : List (String × α)) : Value → Option α
  | .text (some name) => choices.lookup name
  | .object [(some name, .null)] => choices.lookup name
  | _ => none

/-! ## 2. Members -/

/-- The members of an object whose names are all texts. -/
def namedMembers : List (Option String × Value) → Option (List (String × Value))
  | [] => some []
  | (none, _) :: _ => none
  | (some name, v) :: ms => (namedMembers ms).map ((name, v) :: ·)

/-- No name occurs twice. -/
def distinctNames : List (String × Value) → Bool
  | [] => true
  | m :: ms => !(ms.any fun x => x.1 = m.1) && distinctNames ms

/-- The members of a structure that go by one of the given names. -/
def members (names : List String) : Value → Option (List (String × Value))
  | .object ms => do
    let named ← namedMembers ms
    let known := named.filter fun m => names.contains m.1
    if distinctNames known then some known else none
  | .array items => if items.length ≤ names.length then some (names.zip items) else none
  | _ => none

/-- A map from names, where the last of several values for one name counts. -/
def asMap {α : Type} (item : Value → Option α) : Value → Option (NameMap α)
  | .object ms => do
    let named ← namedMembers ms
    let pairs ← named.mapM fun m => (item m.2).map fun x => (m.1, x)
    some (NameMap.ofList pairs)
  | _ => none

/-- A member that may be missing. -/
def optional {α : Type} (name : String) (missing : α) (item : Value → Option α)
    (ms : List (String × Value)) : Option α :=
  match ms.lookup name with
  | none => some missing
  | some v => item v

/-- A member that must be there. -/
def required {α : Type} (name : String) (item : Value → Option α) (ms : List (String × Value)) :
    Option α :=
  (ms.lookup name).bind item

end HostAgent.Json.Value
