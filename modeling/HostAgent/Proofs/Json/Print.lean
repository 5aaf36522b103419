import HostAgent.Proofs.Json.Reading

/-!
# Printed values are read back

The compact text of a value is one of its spellings, when all strings in it are Unicode texts and
all numbers are natural ones. So the machine reads it back.

* `spellsText_print`, `isNumber_write` -- strings and numbers;
* `Readable.spells` -- the text of a value, by induction on the value;
* `readText_compact`, `readBytes_compact` -- a whole document, as a string and in bytes.
-/

namespace HostAgent.Json

open Text

/-! ## 1. Strings -/

theorem hexValue?_hexDigit : ∀ n < 0x10, hexValue? (hexDigit n) = some n := by decide

/-- **What a character is written as stands for it.** -/
theorem exists_piece (c : Char) :
    ∃ x : StringPiece, x.WrittenAs (escaped c)
      ∧ ∀ more, saidBy (x :: more) = (saidBy more).map (c :: ·) := by
  by_cases hnamed : c ∈ ['"', '\\', '\x08', '\x0c', '\n', '\r', '\t']
  · simp only [List.mem_cons, List.not_mem_nil, or_false] at hnamed
    rcases hnamed with rfl | rfl | rfl | rfl | rfl | rfl | rfl <;>
      exact ⟨.char _, .escape rfl, fun _ => rfl⟩
  · simp only [List.mem_cons, List.not_mem_nil, or_false, not_or] at hnamed
    obtain ⟨hquote, hslash, hback, hform, hline, hreturn, htab⟩ := hnamed
    rw [escaped, if_neg hquote, if_neg hslash, if_neg hback, if_neg hform, if_neg hline,
      if_neg hreturn, if_neg htab]
    by_cases hcontrol : c.toNat < 0x20
    · have hzero : hexValue? '0' = some 0 := rfl
      have hhigh := hexValue?_hexDigit (c.toNat / 0x10) (by omega)
      have hlow := hexValue?_hexDigit (c.toNat % 0x10) (by omega)
      have hunit : 0x10 * (0x10 * (0x10 * 0 + 0) + c.toNat / 0x10) + c.toNat % 0x10 = c.toNat := by
        omega
      rw [if_pos hcontrol]
      refine ⟨_, .unit hzero hzero hhigh hlow, fun more => ?_⟩
      rw [hunit, saidBy_unit (by omega) (by omega), Char.ofNat_toNat]
    · rw [if_neg hcontrol]
      exact ⟨.char c, .plain hquote hslash (Nat.not_lt.mp hcontrol), fun _ => rfl⟩

/-- The inside of a string. -/
theorem exists_pieces (t : List Char) :
    ∃ l : List (StringPiece × List Char), (∀ x ∈ l, x.1.WrittenAs x.2)
      ∧ saidBy (l.map Prod.fst) = some t ∧ l.flatMap Prod.snd = t.flatMap escaped := by
  induction t with
  | nil => exact ⟨[], by simp, rfl, rfl⟩
  | cons c t ih =>
    obtain ⟨l, heach, hsaid, htext⟩ := ih
    obtain ⟨x, hx, hsays⟩ := exists_piece c
    refine ⟨(x, escaped c) :: l, List.forall_mem_cons.mpr ⟨hx, heach⟩, ?_, ?_⟩
    · rw [List.map_cons, hsays, hsaid, Option.map_some]
    · rw [List.flatMap_cons, List.flatMap_cons, htext]

/-- **A string is written as one of its spellings.** -/
theorem spellsText_print (s : String) : SpellsText (some s) (printText s) := by
  obtain ⟨l, heach, hsaid, htext⟩ := exists_pieces s.toList
  have h := SpellsText.pieces heach
  rw [hsaid, htext, Option.map_some, String.ofList_toList] at h
  exact h

/-! ## 2. Numbers -/

/-- Nothing but zero starts with a zero. -/
theorem head?_write {n : Nat} (hn : n ≠ 0) : (Decimal.write n).head? ≠ some '0' := by
  induction n using Nat.strongRecOn with
  | ind n ih =>
    unfold Decimal.write at ih ⊢
    by_cases hlt : n < 10
    · rw [Nat.toDigits_of_lt_base hlt, List.head?_cons]
      match n, hlt, hn with
      | 1, _, _ | 2, _, _ | 3, _, _ | 4, _, _ | 5, _, _ | 6, _, _ | 7, _, _ | 8, _, _ | 9, _, _ =>
        decide
    · have hrest := ih (n / 10) (by omega) (by omega)
      rw [Nat.toDigits_of_base_le (by decide) (by omega),
        List.head?_append_of_ne_nil _ Nat.toDigits_ne_nil]
      exact hrest

theorem isWhole_write (n : Nat) : IsWhole (Decimal.write n) := by
  by_cases hn : n = 0
  · exact .inl (by rw [hn]; rfl)
  · exact .inr ⟨head?_write hn, Nat.toDigits_ne_nil, fun _ => Decimal.isDigit_of_mem_write⟩

/-- **A natural number is written as one of its spellings.** -/
theorem isNumber_write (n : Nat) : IsNumber (Decimal.write n) :=
  .inl ⟨_, [], [], (List.append_nil _).symm, isWhole_write n, .inl rfl, .inl rfl⟩

theorem ofSpelling_write (n : Nat) : Number.ofSpelling (Decimal.write n) = .natural n := by
  rw [Number.ofSpelling, Decimal.natural?_write]

/-! ## 3. Arrays and objects -/

theorem printItems_eq (items : List Value) :
    Value.printItems items = joinWith [','] (items.map Value.print) := by
  induction items with
  | nil => rfl
  | cons v vs ih =>
    cases vs with
    | nil => rfl
    | cons w ws =>
      show v.print ++ ',' :: Value.printItems (w :: ws) = _
      rw [ih]
      exact (joinWith_cons_cons [','] v.print w.print (ws.map Value.print)).symm

/-- The members as an object has them. -/
def named (l : List (String × Value)) : List (Option String × Value) :=
  l.map fun m => (some m.1, m.2)

/-- A member as it is printed. -/
def printed (m : String × Value) : SpelledMember := ⟨some m.1, m.2, printText m.1, m.2.print⟩

theorem printMembers_eq (l : List (String × Value)) :
    Value.printMembers (named l) = joinWith [','] (l.map fun m => (printed m).text) := by
  induction l with
  | nil => rfl
  | cons m ms ih =>
    cases ms with
    | nil => rfl
    | cons x xs =>
      show (printed m).text ++ ',' :: Value.printMembers (named (x :: xs)) = _
      rw [ih]
      exact (joinWith_cons_cons [','] (printed m).text (printed x).text _).symm

/-! ## 4. All values -/

/-- A value whose text says all of it: its strings are Unicode texts, and its numbers natural. -/
inductive Value.Readable : Value → Prop
  | null : Readable .null
  | bool (b : Bool) : Readable (.bool b)
  | natural (n : Nat) : Readable (.ofNat n)
  | text (s : String) : Readable (.ofText s)
  | array {items : List Value} (each : ∀ v ∈ items, Readable v) : Readable (.array items)
  | object {members : List (String × Value)} (each : ∀ m ∈ members, Readable m.2) :
      Readable (.ofMembers members)

/-- **A value is written as one of its spellings.** -/
theorem Value.Readable.spells {v : Value} (h : v.Readable) : Spells v v.print := by
  induction h with
  | null => exact .wordNull
  | bool b =>
    cases b with
    | true => exact .wordTrue
    | false => exact .wordFalse
  | natural n =>
    have h := Spells.number (isNumber_write n)
    rw [ofSpelling_write] at h
    exact h
  | text s => exact .text (spellsText_print s)
  | @array items _ ih =>
    cases items with
    | nil => exact .emptyArray Blanks.none
    | cons v vs =>
      have h := @Spells.array ((v :: vs).map fun w => (w, w.print)) (by simp)
        (List.forall_mem_map.mpr ih)
      have htexts : ((v :: vs).map fun w => (w, w.print)).map Prod.snd = (v :: vs).map print := by
        rw [List.map_map]
        rfl
      have hitems : ((v :: vs).map fun w => (w, w.print)).map Prod.fst = v :: vs := by
        rw [List.map_map]
        exact List.map_id _
      rw [htexts, hitems, ← printItems_eq] at h
      exact h
  | @object members _ ih =>
    cases members with
    | nil => exact .emptyObject Blanks.none
    | cons m ms =>
      have h := @Spells.object ((m :: ms).map printed) (by simp)
        (List.forall_mem_map.mpr fun x _ => (spellsText_print x.1).name)
        (List.forall_mem_map.mpr ih)
      rw [List.map_map, List.map_map] at h
      show Spells _ ('\x7b' :: printMembers (named (m :: ms)) ++ ['\x7d'])
      rw [printMembers_eq]
      exact h

/-! ## 5. Documents -/

/-- **A document is read back from its compact text.** -/
theorem readText_compact {v : Value} (h : v.Readable) : readText v.compact = some v :=
  h.spells.readText

/-- **A document is read back from the bytes of its compact text.** -/
theorem readBytes_compact {v : Value} (h : v.Readable) :
    readBytes (Utf8.encode v.compact) = some v :=
  h.spells.readBytes

end HostAgent.Json
