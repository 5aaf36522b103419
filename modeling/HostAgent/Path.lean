import HostAgent.Text.Lines

/-!
# Paths

A path keeps the text that it was given as. What it names is said by its components: repeated
separators and dots count for nothing, except a dot that a relative path starts with; a double dot
is a component of its own. Two paths name the same place when their components are equal.

* `components` -- the components of a path;
* `join` -- a path under another; an absolute one stands for itself;
* `fileName?`, `parent?` -- the last component and what is before it.
-/

namespace HostAgent

/-- A path, as it is spelled. -/
structure Path where
  text : String
  deriving DecidableEq, Repr, Inhabited

/-- One component of a path. -/
inductive Component where
  | root
  | here
  | up
  | name (s : String)
  deriving DecidableEq, Repr

/-- A place, named by components. -/
abbrev Place := List Component

namespace Component

/-- The component as it is spelled. -/
def text : Component → String
  | .root => "/"
  | .here => "."
  | .up => ".."
  | .name s => s

/-- The order of components: the root, a dot, a double dot, then names. -/
def rank : Component → Nat
  | .root => 0
  | .here => 1
  | .up => 2
  | .name _ => 3

/-- The component comes strictly before the other. -/
def before (a b : Component) : Bool :=
  match a, b with
  | .name s, .name t => decide (s < t)
  | a, b => decide (a.rank < b.rank)

end Component

namespace Path

/-! ## 1. Components -/

/-- The path starts at the root. -/
def isAbsolute (p : Path) : Bool := p.text.toList.head? = some '/'

/-- The component that one piece between separators stands for, past the start of the path. -/
def component? (piece : List Char) : Option Component :=
  match piece with
  | [] => none
  | ['.'] => none
  | ['.', '.'] => some .up
  | cs => some (.name (String.ofList cs))

/-- The components of a list of pieces that starts a relative path. -/
def relativeComponents : List (List Char) → Place
  | ['.'] :: pieces => .here :: pieces.filterMap component?
  | pieces => pieces.filterMap component?

/-- The components of a path. -/
def components (p : Path) : Place :=
  if p.isAbsolute then
    .root :: (Text.splitOn '/' p.text.toList).filterMap component?
  else relativeComponents (Text.splitOn '/' p.text.toList)

/-- The two paths name the same place. -/
def same (p q : Path) : Bool := p.components == q.components

/-! ## 2. Building paths -/

/-- A path under another one. An absolute path stands for itself. -/
def join (p : Path) (rest : String) : Path :=
  if rest.toList.head? = some '/' then ⟨rest⟩
  else
    match p.text.toList.getLast? with
    | none => ⟨rest⟩
    | some '/' => ⟨p.text ++ rest⟩
    | some _ => ⟨p.text ++ "/" ++ rest⟩

/-- The name of the last component, when it is a name. -/
def fileName? (p : Path) : Option String :=
  match p.components.getLast? with
  | some (.name s) => some s
  | _ => none

/-- The part of the text that no component is taken from: the root, or the dot at the start. -/
def stem (p : Path) : List Char :=
  if p.isAbsolute then ['/']
  else
    match Text.splitOn '/' p.text.toList with
    | ['.'] :: _ => ['.']
    | _ => []

/-- Pieces that name nothing. -/
def isVoid (piece : List Char) : Bool := piece.isEmpty || piece == ['.']

/-- The path before the last component, spelled as it is there. -/
def parent? (p : Path) : Option Path :=
  let stem := p.stem
  let pieces := (Text.splitOn '/' (p.text.toList.drop stem.length)).reverse.dropWhile isVoid
  match pieces with
  | _ :: before =>
    let kept := (before.dropWhile isVoid).reverse
    some ⟨String.ofList (stem ++ Text.joinWith ['/'] kept)⟩
  | [] => if stem = ['.'] then some ⟨""⟩ else none

end Path

/-! ## 3. Places -/

namespace Place

/-- The place is an ancestor of the other, strictly. -/
def above (a p : Place) : Bool := decide (a.length < p.length) && a.isPrefixOf p

/-- What leads from one place to another one under it. -/
def below? : (a p : Place) → Option Place
  | [], p => some p
  | _ :: _, [] => none
  | x :: a, y :: p => if x = y then below? a p else none

end Place

end HostAgent
