import HostAgent.Text.Ranges

/-!
# Blank characters and trimming

Blank is Unicode's `White_Space`. Texts are handled as lists of characters.

* `trim_nil_iff` -- trimming leaves nothing exactly when every character is blank;
* `trimStart_of_not_blank`, `trimEnd_append` -- trimming stops at the first character that is
  not blank.
-/

namespace HostAgent.Text

/-! ## 1. The class -/

/-- Code points of `White_Space`. -/
def blankRanges : Ranges :=
  [(0x9, 0xD), (0x20, 0x20), (0x85, 0x85), (0xA0, 0xA0), (0x1680, 0x1680), (0x2000, 0x200A),
   (0x2028, 0x2029), (0x202F, 0x202F), (0x205F, 0x205F), (0x3000, 0x3000)]

/-- The character is white space. -/
def isBlank (c : Char) : Bool := blankRanges.holds c

/-- What the standard library takes for white space is blank here too. -/
theorem isBlank_of_isWhitespace {c : Char} (h : c.isWhitespace = true) : isBlank c = true := by
  have h' : c = ' ' ∨ c = '\t' ∨ c = '\r' ∨ c = '\n' := by
    simpa [Char.isWhitespace, or_assoc] using h
  rcases h' with rfl | rfl | rfl | rfl <;> decide

/-! ## 2. Trimming -/

/-- The text without the blanks at its start. -/
def trimStart (t : List Char) : List Char := t.dropWhile isBlank

/-- The text without the blanks at its end. -/
def trimEnd (t : List Char) : List Char := (trimStart t.reverse).reverse

/-- The text without the blanks at either end. -/
def trim (t : List Char) : List Char := trimEnd (trimStart t)

/-- `trim` on strings. -/
def trimmed (s : String) : String := String.ofList (trim s.toList)

/-- Nothing is left of the text once it is trimmed. -/
def allBlank (s : String) : Bool := (trim s.toList).isEmpty

theorem trimStart_nil_iff (t : List Char) : trimStart t = [] ↔ ∀ c ∈ t, isBlank c = true := by
  induction t with
  | nil => simp [trimStart]
  | cons c t ih =>
    by_cases h : isBlank c = true
    · have hdrop : trimStart (c :: t) = trimStart t := List.dropWhile_cons_of_pos h
      rw [hdrop, ih, List.forall_mem_cons]
      exact ⟨fun hall => ⟨h, hall⟩, And.right⟩
    · simp [trimStart, h]

theorem trimStart_of_not_blank {c : Char} (t : List Char) (h : isBlank c = false) :
    trimStart (c :: t) = c :: t := by
  simp [trimStart, h]

theorem trimEnd_append {c : Char} (t : List Char) (h : isBlank c = false) :
    trimEnd (t ++ [c]) = t ++ [c] := by
  simp [trimEnd, trimStart, h]

theorem trimEnd_nil_iff (t : List Char) : trimEnd t = [] ↔ ∀ c ∈ t, isBlank c = true := by
  simp [trimEnd, trimStart_nil_iff]

theorem trim_nil_iff (t : List Char) : trim t = [] ↔ ∀ c ∈ t, isBlank c = true := by
  rw [trim, trimEnd_nil_iff]
  constructor
  · intro h c hc
    rw [← List.takeWhile_append_dropWhile (p := isBlank) (l := t), List.mem_append] at hc
    exact hc.elim (fun hm => List.all_eq_true.1 List.all_takeWhile c hm) (h c)
  · exact fun h c hc => h c ((List.dropWhile_sublist isBlank).mem hc)

end HostAgent.Text
