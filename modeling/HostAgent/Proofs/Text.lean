import HostAgent.Text.Decimal
import HostAgent.Text.Lines
import Mathlib.Data.List.Basic

/-!
# Reading back what was written

What a printer puts together is found again by the readers: the lines of a text, the text without
blanks around it, and a number in decimal.

* `trim_between` -- trimming stops at characters that are not blank;
* `filledLines_spread` -- the lines of a text are found, whatever blanks stand between them;
* `splitOn_join` -- the words of a line are found between its spaces;
* `read?_write` -- a number that is written is read, up to the bound.
-/

namespace HostAgent

namespace Text

/-! ## 1. Trimming -/

/-- What is dropped from the start stops at a character that stays. -/
theorem dropWhile_append_stop {p : Char → Bool} {c : Char} (a b : List Char) (h : p c = false) :
    (a ++ c :: b).dropWhile p = a.dropWhile p ++ c :: b := by
  rw [List.dropWhile_append]
  split
  · rename_i hempty
    rw [List.isEmpty_iff.mp hempty, List.nil_append, List.dropWhile_cons_of_neg]
    rw [h]
    exact Bool.false_ne_true
  · rfl

theorem trimStart_append {c : Char} (a b : List Char) (h : isBlank c = false) :
    trimStart (a ++ c :: b) = trimStart a ++ c :: b := dropWhile_append_stop a b h

/-- **Trimming stops at the first and at the last character that is not blank**; here the last one
    is the last of all. -/
theorem trim_between {c d : Char} (a b : List Char) (hc : isBlank c = false)
    (hd : isBlank d = false) :
    trim (a ++ c :: (b ++ [d])) = trimStart a ++ c :: (b ++ [d]) := by
  have hend : trimStart a ++ c :: (b ++ [d]) = (trimStart a ++ c :: b) ++ [d] := by
    rw [List.append_assoc, List.cons_append]
  unfold trim
  rw [trimStart_append _ _ hc, hend, trimEnd_append _ hd]

/-- The text is of blanks only. -/
def AllBlank (t : List Char) : Prop := ∀ c ∈ t, isBlank c = true

instance (t : List Char) : Decidable (AllBlank t) := List.decidableBAll _ _

theorem trimStart_append_blank {before : List Char} (t : List Char) (h : AllBlank before) :
    trimStart (before ++ t) = trimStart t := List.dropWhile_append_of_pos h

theorem trim_append_blank (t : List Char) {after : List Char} (h : AllBlank after) :
    trim (t ++ after) = trim t := by
  have hend : ∀ t, trimEnd (t ++ after) = trimEnd t := by
    intro t
    rw [trimEnd, List.reverse_append,
      trimStart_append_blank _ fun c hc => h c (List.mem_reverse.mp hc)]
    rfl
  unfold trim trimStart
  rw [List.dropWhile_append]
  split
  · rename_i hempty
    rw [List.isEmpty_iff.mp hempty]
    have hafter : trimStart after = [] := (trimStart_nil_iff after).mpr h
    rw [show after.dropWhile isBlank = [] from hafter]
  · exact hend _

/-- No digit is blank. -/
theorem isBlank_digit {c : Char} (h : c.isDigit = true) : isBlank c = false := by
  have hval : 48 ≤ c.toNat ∧ c.toNat ≤ 57 := by
    simpa [Char.isDigit, UInt32.le_iff_toNat_le] using h
  simp [isBlank, blankRanges, Ranges.holds]
  omega

/-! ## 2. Lines with blanks between them -/

/-- The text has the given lines, one after another, with any blanks before and after each of them;
    a line feed ends every line but the last one, which may be without. -/
inductive Spread : List (List Char) → List Char → Prop where
  | blank {t : List Char} (h : AllBlank t) : Spread [] t
  | last {before line after : List Char} (hb : AllBlank before) (ha : AllBlank after) :
      Spread [line] (before ++ line ++ after)
  | line {before line after : List Char} {lines : List (List Char)} {t : List Char}
      (hb : AllBlank before) (ha : AllBlank after) (h : Spread lines t) :
      Spread (line :: lines) (before ++ line ++ after ++ '\n' :: t)

/-- The lines of a text that are not blank, trimmed. -/
def filledLines (t : List Char) : List (List Char) :=
  ((lines t).map trim).filter fun l => !l.isEmpty

/-- No piece has the separator. -/
theorem not_mem_of_mem_splitOn {sep : Char} {t piece : List Char} (h : piece ∈ splitOn sep t) :
    sep ∉ piece := by
  induction t generalizing piece with
  | nil =>
    rw [List.mem_singleton.mp h]
    exact List.not_mem_nil
  | cons c t ih =>
    unfold splitOn at h
    split at h
    · rcases List.mem_cons.mp h with rfl | h
      · exact List.not_mem_nil
      · exact ih h
    · rename_i hc
      split at h
      · rw [List.mem_singleton.mp h, List.mem_singleton]
        exact Ne.symm hc
      · rename_i first more heq
        rcases List.mem_cons.mp h with rfl | h
        · rw [List.mem_cons, not_or]
          exact ⟨Ne.symm hc, ih (heq ▸ List.mem_cons_self)⟩
        · exact ih (heq ▸ List.mem_cons_of_mem _ h)

theorem splitOn_append_sep (sep : Char) (a b : List Char) :
    splitOn sep (a ++ sep :: b) = splitOn sep a ++ splitOn sep b := by
  induction a with
  | nil => simp [splitOn]
  | cons c a ih =>
    by_cases hc : c = sep
    · simp [splitOn, hc, ih]
    · cases hs : splitOn sep a with
      | nil => exact absurd hs (splitOn_ne_nil sep a)
      | cons piece more => simp [splitOn, hc, ih, hs]

theorem trim_dropCarriage (l : List Char) : trim (dropCarriage l) = trim l := by
  unfold dropCarriage
  split
  · rename_i h
    obtain ⟨a, rfl⟩ := List.getLast?_eq_some_iff.mp h
    rw [List.dropLast_concat, trim_append_blank]
    intro c hc
    rw [List.mem_singleton.mp hc]
    decide
  · rfl

/-- Where a line ends does not matter to what is left of it when it is trimmed. -/
theorem filledLines_eq (t : List Char) :
    filledLines t = ((splitOn '\n' t).map trim).filter fun l => !l.isEmpty := by
  unfold filledLines lines
  have key : ∀ pieces : List (List Char),
      ((closeLines pieces).map trim).filter (fun l => !l.isEmpty)
        = (pieces.map trim).filter fun l => !l.isEmpty := by
    intro pieces
    induction pieces with
    | nil => rfl
    | cons l pieces ih =>
      cases pieces with
      | nil => cases l <;> rfl
      | cons m pieces =>
        rw [closeLines, List.map_cons, List.map_cons, trim_dropCarriage, List.filter_cons,
          List.filter_cons, ih]
        simp
  exact key _

theorem filledLines_append (a b : List Char) :
    filledLines (a ++ '\n' :: b) = filledLines a ++ filledLines b := by
  simp only [filledLines_eq, splitOn_append_sep, List.map_append, List.filter_append]

/-- Blanks at the start. -/
theorem filledLines_blank_append {before : List Char} (t : List Char) (h : AllBlank before) :
    filledLines (before ++ t) = filledLines t := by
  induction before with
  | nil => rfl
  | cons c before ih =>
    rw [List.cons_append, ← ih fun d hd => h d (List.mem_cons_of_mem _ hd), filledLines_eq,
      filledLines_eq]
    generalize before ++ t = t'
    by_cases hc : c = '\n'
    · simp [splitOn, hc, trim, trimStart, trimEnd]
    · cases hs : splitOn '\n' t' with
      | nil => exact absurd hs (splitOn_ne_nil _ _)
      | cons piece more =>
        have htrim : trim (c :: piece) = trim piece := by
          unfold trim
          rw [← List.singleton_append, trimStart_append_blank piece fun d hd => by
            rw [List.mem_singleton.mp hd]; exact h c List.mem_cons_self]
        simp [splitOn, hc, hs, htrim]

/-- Blanks around a line do not matter, wherever they break it off. -/
theorem filledLines_padded {before line after : List Char} (hb : AllBlank before)
    (ha : AllBlank after) (hline : '\n' ∉ line) :
    filledLines (before ++ line ++ after) = [trim line].filter fun l => !l.isEmpty := by
  have hrest : ∀ rest : List Char, AllBlank rest → '\n' ∉ rest →
      filledLines (line ++ rest) = [trim line].filter fun l => !l.isEmpty := by
    intro rest hblank hrest
    have hpiece : '\n' ∉ line ++ rest := fun h => (List.mem_append.mp h).elim hline hrest
    rw [filledLines_eq, splitOn_of_not_mem hpiece, List.map_singleton, trim_append_blank _ hblank]
  rw [List.append_assoc, filledLines_blank_append _ hb]
  by_cases hfeed : '\n' ∈ after
  · obtain ⟨rest, more, rfl, hnot⟩ := List.eq_append_cons_of_mem hfeed
    have hblank : AllBlank rest := fun c hc => ha c (List.mem_append_left _ hc)
    have hmore : filledLines more = [] := by
      have h := filledLines_blank_append [] fun c hc =>
        ha c (List.mem_append_right _ (List.mem_cons_of_mem _ hc))
      rwa [List.append_nil] at h
    rw [← List.append_assoc, filledLines_append, hrest rest hblank hnot, hmore, List.append_nil]
  · exact hrest after ha hfeed

/-- **The lines of a text are found again**, whatever blanks stand between them. -/
theorem filledLines_spread {ls : List (List Char)} {t : List Char} (h : Spread ls t)
    (hls : ∀ l ∈ ls, '\n' ∉ l) :
    filledLines t = (ls.map trim).filter fun l => !l.isEmpty := by
  induction h with
  | blank hblank =>
    have h := filledLines_blank_append [] hblank
    rwa [List.append_nil] at h
  | last hb ha => exact filledLines_padded hb ha (hls _ List.mem_cons_self)
  | line hb ha _ ih =>
    rw [filledLines_append, filledLines_padded hb ha (hls _ List.mem_cons_self),
      ih fun l hl => hls l (List.mem_cons_of_mem _ hl), ← List.filter_append]
    rfl

/-- Lines that each end in a line feed have no other blanks between them. -/
theorem spread_terminated (ls : List (List Char)) : Spread ls (ls.flatMap (· ++ ['\n'])) := by
  have hnone : AllBlank [] := fun _ h => by cases h
  induction ls with
  | nil => exact .blank hnone
  | cons l ls ih =>
    have h : Spread (l :: ls) ([] ++ l ++ [] ++ '\n' :: ls.flatMap (· ++ ['\n'])) :=
      .line hnone hnone ih
    simpa using h

/-! ## 3. Lines of words -/

theorem join_singleton (sep word : String) : join sep [word] = word := by
  simp [join, joinWith]

theorem join_cons_cons (sep word next : String) (words : List String) :
    join sep (word :: next :: words) = word ++ (sep ++ join sep (next :: words)) := by
  apply String.toList_inj.mp
  simp [join, joinWith]

theorem joinWith_cons_cons (sep piece next : List Char) (pieces : List (List Char)) :
    joinWith sep (piece :: next :: pieces) = piece ++ (sep ++ joinWith sep (next :: pieces)) :=
  List.append_assoc _ _ _

/-- The pieces are found again when none of them holds the separator. -/
theorem splitOn_joinWith {sep : Char} {pieces : List (List Char)} (hne : pieces ≠ [])
    (hsep : ∀ piece ∈ pieces, sep ∉ piece) : splitOn sep (joinWith [sep] pieces) = pieces := by
  induction pieces with
  | nil => exact absurd rfl hne
  | cons piece more ih =>
    have hpiece : sep ∉ piece := hsep piece List.mem_cons_self
    cases more with
    | nil => exact splitOn_of_not_mem hpiece
    | cons next more =>
      rw [joinWith_cons_cons, List.singleton_append, splitOn_append _ hpiece,
        ih (List.cons_ne_nil _ _) fun p hp => hsep p (List.mem_cons_of_mem _ hp)]

/-- A character of joined pieces is one of the separator or of a piece. -/
theorem mem_joinWith {sep : List Char} {pieces : List (List Char)} {c : Char}
    (h : c ∈ joinWith sep pieces) : c ∈ sep ∨ ∃ piece ∈ pieces, c ∈ piece := by
  induction pieces with
  | nil => cases h
  | cons piece more ih =>
    cases more with
    | nil => exact Or.inr ⟨piece, List.mem_cons_self, h⟩
    | cons next more =>
      rw [joinWith_cons_cons, List.mem_append, List.mem_append] at h
      rcases h with h | h | h
      · exact Or.inr ⟨piece, List.mem_cons_self, h⟩
      · exact Or.inl h
      · refine (ih h).imp_right fun ⟨p, hp, hc⟩ => ⟨p, List.mem_cons_of_mem _ hp, hc⟩

/-- The text holds neither a space nor a line feed. -/
def IsWord (s : String) : Prop := ' ' ∉ s.toList ∧ '\n' ∉ s.toList

instance (s : String) : Decidable (IsWord s) := instDecidableAnd

/-- Lines of words: none of them is without any. -/
def Worded (lines : List (List String)) : Prop :=
  ∀ line ∈ lines, line ≠ [] ∧ ∀ word ∈ line, IsWord word

@[simp] theorem worded_nil : Worded [] := fun _ h => by cases h

@[simp] theorem worded_cons {line : List String} {lines : List (List String)} :
    Worded (line :: lines) ↔ (line ≠ [] ∧ ∀ word ∈ line, IsWord word) ∧ Worded lines :=
  List.forall_mem_cons

@[simp] theorem worded_append {lines more : List (List String)} :
    Worded (lines ++ more) ↔ Worded lines ∧ Worded more := List.forall_mem_append

theorem worded_flatMap {α : Type} {f : α → List (List String)} {l : List α}
    (h : ∀ a ∈ l, Worded (f a)) : Worded (l.flatMap f) := by
  intro line hline
  obtain ⟨a, ha, hmem⟩ := List.mem_flatMap.mp hline
  exact h a ha line hmem

/-- The words of a line with spaces between them. -/
theorem splitOn_join {line : List String} (hne : line ≠ []) (hline : ∀ word ∈ line, IsWord word) :
    splitOn ' ' (join " " line).toList = line.map String.toList := by
  rw [join, String.toList_ofList]
  refine splitOn_joinWith (fun h => hne (List.map_eq_nil_iff.mp h)) fun piece hpiece => ?_
  obtain ⟨word, hword, rfl⟩ := List.mem_map.mp hpiece
  exact (hline word hword).1

theorem not_mem_join {line : List String} (hline : ∀ word ∈ line, IsWord word) :
    '\n' ∉ (join " " line).toList := by
  rw [join, String.toList_ofList]
  intro h
  rcases mem_joinWith h with hsep | ⟨piece, hpiece, hc⟩
  · exact absurd hsep (by decide)
  · obtain ⟨word, hword, rfl⟩ := List.mem_map.mp hpiece
    exact (hline word hword).2 hc

theorem map_toList_injective {l l' : List String} (h : l.map String.toList = l'.map String.toList) :
    l = l' := (List.map_inj_right fun _ _ => String.toList_inj.mp).mp h

end Text

/-! ## 4. Numbers -/

namespace Decimal

theorem isDigit_of_mem_write {n : Nat} {c : Char} (h : c ∈ write n) : c.isDigit = true :=
  Nat.isDigit_of_mem_toDigits (by decide) (by decide) h

/-- Only digits are written. -/
theorem not_mem_write {c : Char} (h : c.isDigit = false) (n : Nat) : c ∉ write n := by
  intro hc
  rw [isDigit_of_mem_write hc] at h
  cases h

/-- What is written starts with a digit. -/
theorem write_cons (n : Nat) : ∃ c t, write n = c :: t ∧ c.isDigit = true := by
  cases hw : write n with
  | nil => exact absurd hw Nat.toDigits_ne_nil
  | cons c t => exact ⟨c, t, rfl, isDigit_of_mem_write (hw ▸ List.mem_cons_self)⟩

theorem digit?_of_isDigit {c : Char} (h : c.isDigit = true) :
    digit? c = some (c.toNat - '0'.toNat) := by
  have hle : '0' ≤ c ∧ c ≤ '9' := by
    simpa [Char.isDigit, Char.le_def] using h
  rw [digit?, if_pos hle]

theorem digits?_eq_ofDigitChars {t : List Char} (h : ∀ c ∈ t, c.isDigit = true) (value : Nat) :
    digits? value t = some (Nat.ofDigitChars 10 t value) := by
  induction t generalizing value with
  | nil => rw [digits?, Nat.ofDigitChars_nil]
  | cons c t ih =>
    rw [digits?, digit?_of_isDigit (h c List.mem_cons_self), Nat.ofDigitChars_cons]
    exact ih (fun d hd => h d (List.mem_cons_of_mem _ hd)) _

theorem natural?_write (n : Nat) : natural? (write n) = some n := by
  obtain ⟨c, t, hw, -⟩ := write_cons n
  have hdigits : digits? 0 (write n) = some n := by
    rw [digits?_eq_ofDigitChars fun _ => isDigit_of_mem_write, write, Nat.ofDigitChars_ten_toDigits]
  rw [hw] at hdigits ⊢
  exact hdigits

theorem toNat_le_max64 (n : UInt64) : n.toNat ≤ max64 := Nat.le_sub_one_of_lt n.toNat_lt

/-- **A number that is written is read again**, when it is within the bound. -/
theorem read?_write (bound n : Nat) :
    read? bound (write n) = if n ≤ bound then some n else none := by
  obtain ⟨c, t, hw, hc⟩ := write_cons n
  have hplus : dropPlus (write n) = write n := by
    rw [hw]
    unfold dropPlus
    split
    · rename_i hplus
      rw [(List.cons.inj hplus).1] at hc
      exact absurd hc (by decide)
    · rfl
  rw [read?, hplus, natural?_write]
  simp [Option.filter]

end Decimal

end HostAgent
