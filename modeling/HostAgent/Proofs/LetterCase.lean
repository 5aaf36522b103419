import HostAgent.Text.Blank
import HostAgent.Text.LetterCase
import HostAgent.Text.Utf8
import Mathlib

/-!
# The case of ASCII letters

Texts that differ in the case of ASCII letters only have one lower case by Unicode's rules, and they
are trimmed alike. Bytes that differ so are decoded to such texts, or fail in one way: no letter is
part of a longer character, so where characters begin does not depend on case.

* `apply_toLower` -- what does not tell capitals from small letters;
* `lowercase_asciiLower`, `trimmed_asciiLower` -- texts; `lowercase_noCapitals` -- no capital is left;
* `piecesFrom_lowerByte`, `decode_lowerByte` -- bytes.
-/

namespace HostAgent

namespace Text

/-! ## 1. Characters -/

theorem toLower_capital : ∀ n < 26, (Char.ofNat (0x41 + n)).toLower = Char.ofNat (0x61 + n) := by
  decide

/-- A character is one of the 26 capitals, or it is its own lower case. -/
theorem capital_or_same (c : Char) : (∃ n < 26, c = Char.ofNat (0x41 + n)) ∨ c.toLower = c := by
  by_cases hcapital : 0x41 ≤ c.toNat ∧ c.toNat ≤ 0x5A
  · refine Or.inl ⟨c.toNat - 0x41, by omega, ?_⟩
    rw [Nat.add_sub_cancel' hcapital.1, Char.ofNat_toNat]
  · exact Or.inr (dif_neg hcapital)

/-- **What is the same for each capital and its small letter** is the same for a character and its
    lower case. -/
theorem apply_toLower {α : Type} {f : Char → α}
    (h : ∀ n < 26, f (Char.ofNat (0x61 + n)) = f (Char.ofNat (0x41 + n))) (c : Char) :
    f c.toLower = f c := by
  rcases capital_or_same c with ⟨n, hn, rfl⟩ | hsame
  · rw [toLower_capital n hn, h n hn]
  · rw [hsame]

theorem isBlank_toLower (c : Char) : isBlank c.toLower = isBlank c := apply_toLower (by decide) c

theorem utf8Size_toLower (c : Char) : c.toLower.utf8Size = c.utf8Size := apply_toLower (by decide) c

theorem isCased_toLower (c : Char) : isCased c.toLower = isCased c :=
  apply_toLower (by decide +kernel) c

theorem isCaseIgnorable_toLower (c : Char) : isCaseIgnorable c.toLower = isCaseIgnorable c :=
  apply_toLower (by decide +kernel) c

theorem lowerChar_toLower (c : Char) : lowerChar c.toLower = lowerChar c :=
  apply_toLower (by decide) c

theorem toLower_eq_sigma_iff (c : Char) : c.toLower = 'Σ' ↔ c = 'Σ' :=
  iff_of_eq (apply_toLower (f := (· = 'Σ')) (by decide) c)

/-! ## 2. Texts -/

theorem meetsCased_toLower (t : List Char) : meetsCased (t.map Char.toLower) = meetsCased t := by
  have hignored : isCaseIgnorable ∘ Char.toLower = isCaseIgnorable := funext isCaseIgnorable_toLower
  unfold meetsCased
  rw [List.dropWhile_map, hignored]
  cases t.dropWhile isCaseIgnorable with
  | nil => rfl
  | cons c t => exact isCased_toLower c

theorem lowerAfter_toLower (before t : List Char) :
    lowerAfter (before.map Char.toLower) (t.map Char.toLower) = lowerAfter before t := by
  induction t generalizing before with
  | nil => rfl
  | cons c t ih =>
    have hrest := ih (c :: before)
    rw [List.map_cons] at hrest
    rw [List.map_cons, lowerAfter, lowerAfter, hrest, lowerChar_toLower, meetsCased_toLower,
      meetsCased_toLower]
    simp only [toLower_eq_sigma_iff]

/-- The text with its ASCII letters in lower case. -/
def asciiLower (s : String) : String := String.ofList (s.toList.map Char.toLower)

/-- **Lower case does not tell capitals from small letters.** -/
theorem lowercase_asciiLower (s : String) : lowercase (asciiLower s) = lowercase s := by
  rw [lowercase, asciiLower, String.toList_ofList]
  exact congrArg String.ofList (lowerAfter_toLower [] s.toList)

theorem trim_toLower (t : List Char) : trim (t.map Char.toLower) = (trim t).map Char.toLower := by
  have hstart : ∀ t, trimStart (t.map Char.toLower) = (trimStart t).map Char.toLower := fun t => by
    have hblank : isBlank ∘ Char.toLower = isBlank := funext isBlank_toLower
    unfold trimStart
    rw [List.dropWhile_map, hblank]
  unfold trim trimEnd
  rw [hstart, ← List.map_reverse, hstart, List.map_reverse]

/-- Trimming does not, either. -/
theorem trimmed_asciiLower (s : String) : trimmed (asciiLower s) = asciiLower (trimmed s) := by
  rw [trimmed, trimmed, asciiLower, asciiLower, String.toList_ofList, String.toList_ofList,
    trim_toLower]

/-- The text has no capital letter of ASCII. -/
def NoCapitals (s : String) : Prop := ∀ c ∈ s.toList, c.isUpper = false

theorem isUpper_ofNat {n : Nat} (h : 0x5A < n) : (Char.ofNat n).isUpper = false := by
  refine decide_eq_false fun hupper => ?_
  have hin : 0x41 ≤ (Char.ofNat n).toNat ∧ (Char.ofNat n).toNat ≤ 0x5A := hupper
  rw [Char.toNat_ofNat] at hin
  split at hin <;> omega

theorem capitalRuns_high : ∀ r ∈ capitalRuns, 0x5A < (r.1 : Int) + r.2.2.2 := by decide +kernel

theorem capitalStep_cases (c : Char) :
    capitalStep c = 0 ∨ ∃ r ∈ capitalRuns, r.1 ≤ c.toNat ∧ capitalStep c = r.2.2.2 := by
  unfold capitalStep
  cases hfind : capitalRuns.find? _ with
  | none => exact Or.inl rfl
  | some r =>
    have hin := List.find?_some hfind
    simp only [Bool.and_eq_true, decide_eq_true_eq] at hin
    exact Or.inr ⟨r, List.mem_of_find?_eq_some hfind, hin.1.1, rfl⟩

theorem isUpper_lowerChar (c : Char) : ∀ d ∈ lowerChar c, d.isUpper = false := by
  intro d hd
  unfold lowerChar at hd
  split at hd
  · rw [List.mem_singleton.mp hd]
    exact c.isUpper_toLower_eq_false
  · split at hd
    · rw [List.mem_pair] at hd
      rcases hd with rfl | rfl <;> decide
    · rw [List.mem_singleton.mp hd]
      refine isUpper_ofNat ?_
      rcases capitalStep_cases c with hstep | ⟨r, hr, hfirst, hstep⟩
      · omega
      · have hhigh := capitalRuns_high r hr
        omega

/-- **No capital is left in lower case.** -/
theorem lowercase_noCapitals (s : String) : NoCapitals (lowercase s) := by
  have hafter : ∀ t before, ∀ c ∈ lowerAfter before t, c.isUpper = false := by
    intro t
    induction t with
    | nil => exact fun before c hc => absurd hc List.not_mem_nil
    | cons d t ih =>
      intro before c hc
      rw [lowerAfter] at hc
      rcases List.mem_append.mp hc with hc | hc
      · split at hc
        · rw [List.mem_singleton.mp hc]
          split <;> decide
        · exact isUpper_lowerChar d c hc
      · exact ih _ c hc
  intro c hc
  rw [lowercase, String.toList_ofList] at hc
  exact hafter _ _ c hc

end Text

namespace Utf8

open Text

/-! ## 3. Bytes -/

/-- The byte of an ASCII letter in lower case. -/
def lowerByte (b : UInt8) : UInt8 := if 0x41 ≤ b ∧ b ≤ 0x5A then b + 0x20 else b

theorem lowerByte_lt {b : UInt8} (h : 0x41 ≤ b ∧ b ≤ 0x5A) : lowerByte b < 0x80 := by
  have hb : b.toNat ≤ 0x5A := h.2
  rw [lowerByte, if_pos h, UInt8.lt_iff_toNat_lt, UInt8.toNat_add]
  show (b.toNat + 32) % 256 < 128
  omega

/-- The piece with its character in lower case. -/
def Piece.lower : Piece → Piece
  | .char c => .char c.toLower
  | p => p

/-- All bytes that are to follow are outside ASCII. -/
def Open.isHigh (o : Open) : Bool := (o.next :: o.later).all fun r => 0x80 ≤ r.1

theorem start_cases : ∀ n < 256,
    (start (lowerByte (UInt8.ofNat n))).1.map Piece.lower = (start (UInt8.ofNat n)).1.map Piece.lower
      ∧ (start (lowerByte (UInt8.ofNat n))).2 = (start (UInt8.ofNat n)).2
      ∧ (start (UInt8.ofNat n)).2.all Open.isHigh = true := by
  decide +kernel

theorem start_lowerByte (b : UInt8) :
    (start (lowerByte b)).1.map Piece.lower = (start b).1.map Piece.lower
      ∧ (start (lowerByte b)).2 = (start b).2 ∧ (start b).2.all Open.isHigh = true := by
  have hcases := start_cases b.toNat b.toNat_lt
  rw [UInt8.ofNat_toNat] at hcases
  exact hcases

/-- What a byte is inside a character does not depend on case, since no letter is. -/
theorem step_lowerByte {o : Option Open} (ho : o.all Open.isHigh = true) (b : UInt8) :
    (step o (lowerByte b)).1.map Piece.lower = (step o b).1.map Piece.lower
      ∧ (step o (lowerByte b)).2 = (step o b).2 ∧ (step o b).2.all Open.isHigh = true := by
  obtain ⟨hpieces, hopen, hhigh⟩ := start_lowerByte b
  cases o with
  | none => exact ⟨hpieces, hopen, hhigh⟩
  | some o =>
    obtain ⟨bits, length, next, later⟩ := o
    obtain ⟨hnext, hlater⟩ : 0x80 ≤ next.1 ∧ ∀ r ∈ later, 0x80 ≤ r.1 := by
      simpa [Open.isHigh] using ho
    by_cases hletter : 0x41 ≤ b ∧ b ≤ 0x5A
    · -- no letter may follow, so the character is broken off before it
      have hout : ∀ c : UInt8, c < 0x80 → next.holds c = false := fun c hc => by
        rw [Range.holds, decide_eq_false (UInt8.not_le.mpr (UInt8.lt_of_lt_of_le hc hnext)),
          Bool.false_and]
      have hb : next.holds b = false := hout b (UInt8.lt_of_le_of_lt hletter.2 (by decide))
      have hlower : next.holds (lowerByte b) = false := hout _ (lowerByte_lt hletter)
      have hstep : ∀ {c}, next.holds c = false → step (some ⟨bits, length, next, later⟩) c
          = (.broken length :: (start c).1, (start c).2) := fun hc => by
        rw [step, hc, if_neg Bool.false_ne_true]
      rw [hstep hb, hstep hlower]
      exact ⟨congrArg (Piece.broken length :: ·) hpieces, hopen, hhigh⟩
    · rw [lowerByte, if_neg hletter]
      refine ⟨rfl, rfl, ?_⟩
      rw [step]
      split
      · cases later with
        | nil => rfl
        | cons r rs =>
          simpa [Open.isHigh] using hlater
      · exact hhigh

theorem piecesFrom_lowerByte {o : Option Open} (ho : o.all Open.isHigh = true) (bs : Bytes) :
    (piecesFrom o (bs.map lowerByte)).map Piece.lower = (piecesFrom o bs).map Piece.lower := by
  induction bs generalizing o with
  | nil => rfl
  | cons b bs ih =>
    obtain ⟨hpieces, hopen, hhigh⟩ := step_lowerByte ho b
    rw [List.map_cons, piecesFrom, piecesFrom, List.map_append, List.map_append, hpieces, hopen,
      ih hhigh]

theorem faultFrom?_lower (ps : List Piece) (index : Nat) :
    faultFrom? index (ps.map Piece.lower) = faultFrom? index ps := by
  induction ps generalizing index with
  | nil => rfl
  | cons p ps ih =>
    cases p with
    | char c =>
      rw [List.map_cons, Piece.lower, faultFrom?, faultFrom?, utf8Size_toLower, ih]
    | broken n => rfl
    | cut n => rfl

theorem filterMap_lower (ps : List Piece) :
    (ps.map Piece.lower).filterMap Piece.char? = (ps.filterMap Piece.char?).map Char.toLower := by
  rw [List.filterMap_map, List.map_filterMap]
  exact congrArg (List.filterMap · ps) (funext fun p => by cases p <;> rfl)

/-- **Bytes are decoded alike whatever the case of the letters in them**: to texts that differ in
    case only, or with one fault. -/
theorem decode_lowerByte (bs : Bytes) :
    (decode (bs.map lowerByte)).map asciiLower = (decode bs).map asciiLower := by
  have hdecode : ∀ bs, (decode bs).map asciiLower
      = (faultFrom? 0 ((pieces bs).map Piece.lower)).elim
        (.ok (String.ofList (((pieces bs).map Piece.lower).filterMap Piece.char?))) .error := by
    intro bs
    rw [decode, fault?, faultFrom?_lower, filterMap_lower]
    cases faultFrom? 0 (pieces bs) with
    | none =>
      refine congrArg Except.ok ?_
      rw [asciiLower, String.toList_ofList]
    | some f => rfl
  rw [hdecode, hdecode, pieces, piecesFrom_lowerByte rfl]
  rfl

end Utf8

end HostAgent
