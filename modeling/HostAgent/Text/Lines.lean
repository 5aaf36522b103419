import HostAgent.Text.Blank

/-!
# Fields, lines and occurrences

Cutting a text at a separator, reading its lines, and finding one text inside another.

* `splitOn_ne_nil` -- cutting gives at least one piece;
* `joinWith_splitOn` -- the pieces, joined by the separator, are the text again;
* `occursIn_iff` -- `occursIn` is "is an infix of".
-/

namespace HostAgent.Text

/-! ## 1. Cutting and joining -/

/-- The pieces of a text between the separators. -/
def splitOn (sep : Char) : List Char → List (List Char)
  | [] => [[]]
  | c :: t =>
    if c = sep then [] :: splitOn sep t
    else match splitOn sep t with
      | [] => [[c]]
      | piece :: more => (c :: piece) :: more

/-- The pieces one after another, with the separator between them. -/
def joinWith (sep : List Char) : List (List Char) → List Char
  | [] => []
  | [piece] => piece
  | piece :: more => piece ++ sep ++ joinWith sep more

theorem splitOn_ne_nil (sep : Char) (t : List Char) : splitOn sep t ≠ [] := by
  cases t with
  | nil => simp [splitOn]
  | cons c t =>
    by_cases h : c = sep
    · simp [splitOn, h]
    · cases h' : splitOn sep t <;> simp [splitOn, h, h']

theorem joinWith_splitOn (sep : Char) (t : List Char) : joinWith [sep] (splitOn sep t) = t := by
  induction t with
  | nil => simp [splitOn, joinWith]
  | cons c t ih =>
    by_cases h : c = sep
    · subst h
      cases h' : splitOn c t with
      | nil => exact absurd h' (splitOn_ne_nil c t)
      | cons p more => simpa [splitOn, joinWith, h'] using ih
    · cases h' : splitOn sep t with
      | nil => exact absurd h' (splitOn_ne_nil sep t)
      | cons p more =>
        rw [h'] at ih
        cases more with
        | nil => simpa [splitOn, joinWith, h, h'] using ih
        | cons q more => simpa [splitOn, joinWith, h, h'] using ih

/-- A text without the separator is one piece. -/
theorem splitOn_of_not_mem {sep : Char} {t : List Char} (h : sep ∉ t) : splitOn sep t = [t] := by
  induction t with
  | nil => rfl
  | cons c t ih =>
    have hc : c ≠ sep := fun e => h (by simp [e])
    have ht : sep ∉ t := fun m => h (by simp [m])
    simp [splitOn, hc, ih ht]

/-- The first separator ends the first piece. -/
theorem splitOn_append {sep : Char} {a : List Char} (b : List Char) (h : sep ∉ a) :
    splitOn sep (a ++ sep :: b) = a :: splitOn sep b := by
  induction a with
  | nil => simp [splitOn]
  | cons c a ih =>
    have hc : c ≠ sep := fun e => h (by simp [e])
    have ha : sep ∉ a := fun m => h (by simp [m])
    simp [splitOn, hc, ih ha]

/-! ## 2. Lines -/

/-- A carriage return before the end of the line belongs to the line ending. -/
def dropCarriage (line : List Char) : List Char :=
  if line.getLast? = some '\r' then line.dropLast else line

/-- The lines among the pieces between line feeds: only a line feed ends a line, so what follows
    the last one is a line of its own unless it is empty. -/
def closeLines : List (List Char) → List (List Char)
  | [] => []
  | [rest] => if rest.isEmpty then [] else [rest]
  | line :: more => dropCarriage line :: closeLines more

/-- The lines of a text, without their endings. -/
def lines (t : List Char) : List (List Char) := closeLines (splitOn '\n' t)

/-! ## 3. Occurrences -/

/-- The rest of the text after a given start. -/
def after? : (start t : List Char) → Option (List Char)
  | [], t => some t
  | _ :: _, [] => none
  | a :: start, c :: t => if a = c then after? start t else none

theorem after?_eq_some_iff {start t rest : List Char} :
    after? start t = some rest ↔ t = start ++ rest := by
  induction start generalizing t with
  | nil => simp [after?, eq_comm]
  | cons a start ih =>
    cases t with
    | nil => simp [after?]
    | cons c t =>
      by_cases h : a = c
      · subst h; simp [after?, ih]
      · simp [after?, h, Ne.symm h]

/-- The text starts with the given one. -/
def startsWith (start t : List Char) : Bool := (after? start t).isSome

theorem startsWith_iff {start t : List Char} : startsWith start t = true ↔ start <+: t := by
  simp only [startsWith, Option.isSome_iff_exists, after?_eq_some_iff]
  exact ⟨fun ⟨r, h⟩ => ⟨r, h.symm⟩, fun ⟨r, h⟩ => ⟨r, h.symm⟩⟩

/-- The given text occurs somewhere in the other. -/
def occursIn (part : List Char) : List Char → Bool
  | [] => part.isEmpty
  | c :: t => startsWith part (c :: t) || occursIn part t

theorem occursIn_iff {part t : List Char} : occursIn part t = true ↔ part <:+: t := by
  induction t with
  | nil => simp [occursIn]
  | cons c t ih =>
    simp only [occursIn, Bool.or_eq_true, startsWith_iff, ih]
    exact List.infix_cons_iff.symm

/-! ## 4. The same on strings -/

/-- The strings one after another, with a separator between them. -/
def join (sep : String) (parts : List String) : String :=
  String.ofList (joinWith sep.toList (parts.map String.toList))

/-- The string starts with the given one. -/
def hasStart (start s : String) : Bool := startsWith start.toList s.toList

/-- The string contains the given one. -/
def hasPart (part s : String) : Bool := occursIn part.toList s.toList

end HostAgent.Text
