import HostAgent.Proofs.Json.Grammar
import HostAgent.Proofs.Text
import HostAgent.Proofs.Utf8

/-!
# Every spelling is read

The machine that reads JSON goes through any text of the grammar, and has the value that the text
spells at its end. A number ends with the symbol after it, so at the end of a text it may still be
open.

* `content_taken` -- what the pieces of a string say is what the machine makes of them;
* `begin_number` -- a number, part by part;
* `Taken` -- the ways in which a value has been read;
* `Spells.reads` -- the text of a value, by induction on the grammar;
* `Spells.readText`, `Spells.readBytes` -- a whole document, as a string and in bytes.
-/

namespace HostAgent.Json

open Text

/-! ## 1. Runs -/

/-- The state after the characters of a text. -/
def runOver (s : State) (t : List Char) : Option State := run s (t.map some)

theorem runOver_nil (s : State) : runOver s [] = some s := rfl

theorem runOver_cons (s : State) (c : Char) (t : List Char) :
    runOver s (c :: t) = (step s (some c)).bind fun s' => runOver s' t := rfl

theorem runOver_single (s : State) (c : Char) : runOver s [c] = step s (some c) :=
  Option.bind_fun_some _

theorem runOver_append (s : State) (t t' : List Char) :
    runOver s (t ++ t') = (runOver s t).bind fun s' => runOver s' t' := by
  unfold runOver run
  rw [List.map_append, List.foldlM_append]
  rfl

/-- Blanks leave a state alone in which they may stand. -/
theorem run_blanks {s : State} {t : List Char}
    (hs : ∀ c, isSpace c = true → step s (some c) = some s) (ht : Blanks t) :
    runOver s t = some s := by
  induction t with
  | nil => rfl
  | cons c t ih =>
    have hrest := ih fun d hd => ht d (List.mem_cons_of_mem _ hd)
    rw [runOver_cons, hs c (ht c List.mem_cons_self), Option.bind_some, hrest]

/-! ## 2. Strings -/

/-- One more piece of a string. -/
def Partial.take (p : Partial) : StringPiece → Partial
  | .char c => p.push c
  | .unit u => p.unit u

section

variable {stack : List Frame} {isKey : Bool} {p : Partial}

theorem step_string (phase : StringPhase) (x : Symbol) :
    step ⟨stack, .string isKey p phase⟩ x = stringStep stack isKey p phase x := rfl

/-- A piece, however it is written. -/
theorem run_piece {x : StringPiece} {t : List Char} (h : x.WrittenAs t) :
    runOver ⟨stack, .string isKey p .plain⟩ t = some ⟨stack, .string isKey (p.take x) .plain⟩ := by
  cases h with
  | plain hquote hslash hcontrol =>
    rw [runOver_single, step_string, stringStep, if_neg hquote, if_neg hslash,
      if_neg (Nat.not_lt.mpr hcontrol)]
    rfl
  | @escape e c he =>
    have hunit : e ≠ 'u' := by
      rintro rfl
      cases he
    have hstep : stringStep stack isKey p .escape (some e)
        = some ⟨stack, .string isKey (p.push c) .plain⟩ := by
      rw [stringStep, if_neg hunit, he, Option.map_some]
    exact (runOver_single _ _).trans hstep
  | unit ha hb hc hd =>
    simp [runOver_cons, runOver_nil, step_string, stringStep, ha, hb, hc, hd, Partial.take]

/-- The inside of a string. -/
theorem run_pieces {l : List (StringPiece × List Char)} (h : ∀ x ∈ l, x.1.WrittenAs x.2) :
    runOver ⟨stack, .string isKey p .plain⟩ (l.flatMap Prod.snd)
      = some ⟨stack, .string isKey ((l.map Prod.fst).foldl Partial.take p) .plain⟩ := by
  induction l generalizing p with
  | nil => rfl
  | cons x l ih =>
    have hrest := ih (p := p.take x.1) fun y hy => h y (List.mem_cons_of_mem _ hy)
    rw [List.flatMap_cons, runOver_append, run_piece (h x List.mem_cons_self), Option.bind_some,
      hrest]
    rfl

end

section

variable {p : Partial} {u : Nat}

theorem not_isHigh_of_isLow (h : IsLow u) : ¬IsHigh u := fun hhigh => by omega

theorem push_of_sound (hsound : p.sound = true) (hhigh : p.high = none) (c : Char) :
    p.push c = ⟨c :: p.chars, true, none⟩ := by
  rw [Partial.push, hsound, hhigh]
  rfl

theorem unit_high (hu : IsHigh u) (hhigh : p.high = none) :
    p.unit u = ⟨p.chars, p.sound, some u⟩ := by
  rw [Partial.unit, if_pos hu, hhigh]
  rfl

theorem unit_low {high : Nat} (hu : IsLow u) (hhigh : p.high = some high) :
    p.unit u = ⟨ofPair high u :: p.chars, p.sound, none⟩ := by
  rw [Partial.unit, if_neg (not_isHigh_of_isLow hu), if_pos hu, hhigh]
  rfl

theorem unit_plain (hhigh : ¬IsHigh u) (hlow : ¬IsLow u) : p.unit u = p.push (Char.ofNat u) := by
  rw [Partial.unit, if_neg hhigh, if_neg hlow]

/-- A string stays sound only when a second half follows every first half, and nothing else. -/
theorem sound_of_take {x : StringPiece} (h : (p.take x).sound = true) :
    p.sound = true ∧ (p.high ≠ none ↔ ∃ low, x = .unit low ∧ IsLow low) := by
  cases x with
  | char c =>
    obtain ⟨hsound, hnone⟩ := Bool.and_eq_true_iff.mp h
    simp [hsound, Option.isNone_iff_eq_none.mp hnone]
  | unit u =>
    change (p.unit u).sound = true at h
    by_cases hlow : IsLow u
    · cases hhigh : p.high with
      | none =>
        rw [Partial.unit, if_neg (not_isHigh_of_isLow hlow), if_pos hlow, hhigh] at h
        cases h
      | some high =>
        rw [unit_low hlow hhigh] at h
        exact ⟨h, fun _ => ⟨u, rfl, hlow⟩, fun _ => Option.some_ne_none high⟩
    · have hnone : ¬∃ low, StringPiece.unit u = .unit low ∧ IsLow low := by
        rintro ⟨_, ⟨⟩, h⟩
        exact hlow h
      have hsound : p.sound = true ∧ p.high = none := by
        by_cases hu : IsHigh u
        · rw [Partial.unit, if_pos hu] at h
          split at h
          · rename_i hisNone
            exact ⟨h, Option.isNone_iff_eq_none.mp hisNone⟩
          · cases h
        · rw [unit_plain hu hlow] at h
          simpa [Partial.push] using h
      exact ⟨hsound.1, fun h => absurd hsound.2 h, fun h => absurd h hnone⟩

/-- A string that is spoiled stays so. -/
theorem content_spoiled (h : p.sound = false) (l : List StringPiece) :
    (l.foldl Partial.take p).content = none := by
  induction l generalizing p with
  | nil => rw [List.foldl_nil, Partial.content, h]; rfl
  | cons x l ih =>
    exact ih (Bool.eq_false_iff.mpr fun hsound => Bool.eq_false_iff.mp h (sound_of_take hsound).1)

/-- A first half that stands alone spoils the string. -/
theorem content_alone (hhigh : p.high ≠ none) {l : List StringPiece}
    (hl : ∀ low rest, l = .unit low :: rest → ¬IsLow low) :
    (l.foldl Partial.take p).content = none := by
  cases l with
  | nil =>
    obtain ⟨high, hsome⟩ := Option.ne_none_iff_exists'.mp hhigh
    simp [Partial.content, hsome]
  | cons x l =>
    refine content_spoiled (Bool.eq_false_iff.mpr fun hsound => ?_) l
    obtain ⟨low, rfl, hlow⟩ := (sound_of_take hsound).2.mp hhigh
    exact hl low l rfl hlow

/-- **What the pieces of a string say is what the machine makes of them.** -/
theorem content_taken (l : List StringPiece) (hsound : p.sound = true) (hhigh : p.high = none) :
    (l.foldl Partial.take p).content
      = (saidBy l).map fun t => String.ofList (p.chars.reverse ++ t) := by
  fun_induction saidBy l generalizing p with
  | case1 =>
    rw [List.foldl_nil, Partial.content, hsound, hhigh, Option.map_some, List.append_nil]
    rfl
  | case2 c more ih =>
    have hpush : p.take (.char c) = ⟨c :: p.chars, true, none⟩ := push_of_sound hsound hhigh c
    rw [List.foldl_cons, hpush, ih rfl rfl, Option.map_map]
    simp [Function.comp_def]
  | case3 u hu low rest hlow ih =>
    have hpair : (p.take (.unit u)).take (.unit low) = ⟨ofPair u low :: p.chars, true, none⟩ := by
      show (p.unit u).unit low = _
      rw [unit_high hu hhigh, unit_low hlow rfl, hsound]
    rw [List.foldl_cons, List.foldl_cons, hpair, ih rfl rfl, Option.map_map]
    simp [Function.comp_def]
  | case4 u hu low rest hlow =>
    rw [List.foldl_cons, Option.map_none]
    refine content_alone (p := p.unit u) (by simp [unit_high hu hhigh]) ?_
    rintro _ _ ⟨⟩
    exact hlow
  | case5 u more hu hmore =>
    rw [List.foldl_cons, Option.map_none]
    exact content_alone (p := p.unit u) (by simp [unit_high hu hhigh])
      fun low rest h => absurd h (hmore low rest)
  | case6 u more hu hlow =>
    rw [List.foldl_cons, Option.map_none]
    refine content_spoiled (Bool.eq_false_iff.mpr fun hsound => ?_) more
    exact (sound_of_take hsound).2.mpr ⟨u, rfl, hlow⟩ hhigh
  | case7 u more hhigh' hlow ih =>
    have hpush : p.take (.unit u) = ⟨Char.ofNat u :: p.chars, true, none⟩ :=
      (unit_plain hhigh' hlow).trans (push_of_sound hsound hhigh _)
    rw [List.foldl_cons, hpush, ih rfl rfl, Option.map_map]
    simp [Function.comp_def]

end

theorem content_spelled (l : List StringPiece) :
    (l.foldl Partial.take {}).content = (saidBy l).map String.ofList :=
  content_taken l rfl rfl

/-- **A string after its first quote.** -/
theorem SpellsText.run {content : Option String} {t : List Char} (h : SpellsText content t) :
    ∃ body p, t = '"' :: body ∧ Partial.content p = content ∧ ∀ stack isKey,
      runOver ⟨stack, .string isKey {} .plain⟩ body = endString stack isKey p := by
  obtain ⟨each⟩ := h
  refine ⟨_, _, rfl, content_spelled _, fun stack isKey => ?_⟩
  refine (runOver_append _ _ _).trans ?_
  rw [run_pieces each, Option.bind_some, runOver_single]
  rfl

/-! ## 3. Numbers -/

/-- The phase after the characters of a text. -/
def NumberPhase.after? (phase : NumberPhase) (t : List Char) : Option NumberPhase :=
  t.foldlM (fun phase c => phase.next? c) phase

section

variable {phase phase' : NumberPhase} {t : List Char}

theorem after?_cons (phase : NumberPhase) (c : Char) (t : List Char) :
    phase.after? (c :: t) = (phase.next? c).bind (·.after? t) := rfl

theorem after?_append (phase : NumberPhase) (t t' : List Char) :
    phase.after? (t ++ t') = (phase.after? t).bind (·.after? t') := List.foldlM_append

/-- The phases that more digits leave alone. -/
theorem after?_digits (hphase : ∀ c : Char, c.isDigit = true → phase.next? c = some phase)
    (h : ∀ c ∈ t, c.isDigit = true) : phase.after? t = some phase := by
  induction t with
  | nil => rfl
  | cons c t ih =>
    have hrest := ih fun d hd => h d (List.mem_cons_of_mem _ hd)
    rw [after?_cons, hphase c (h c List.mem_cons_self), Option.bind_some, hrest]

/-- The phases that the first of several digits ends. -/
theorem after?_firstDigit (hfirst : ∀ c : Char, c.isDigit = true → phase.next? c = some phase')
    (hmore : ∀ c : Char, c.isDigit = true → phase'.next? c = some phase') (h : IsDigits t) :
    phase.after? t = some phase' := by
  obtain ⟨hne, hdigits⟩ := h
  obtain ⟨c, t, rfl⟩ := List.exists_cons_of_ne_nil hne
  rw [after?_cons, hfirst c (hdigits c List.mem_cons_self), Option.bind_some,
    after?_digits hmore fun d hd => hdigits d (List.mem_cons_of_mem _ hd)]

theorem whole_next_digit {c : Char} (h : c.isDigit = true) :
    NumberPhase.next? c .whole = some .whole := if_pos h

theorem after?_whole (h : IsWhole t) :
    ∃ phase, NumberPhase.minus.after? t = some phase ∧ (phase = .zero ∨ phase = .whole) := by
  rcases h with rfl | ⟨hzero, hne, hdigits⟩
  · exact ⟨.zero, rfl, .inl rfl⟩
  · obtain ⟨c, t, rfl⟩ := List.exists_cons_of_ne_nil hne
    have hc : c ≠ '0' := fun h => hzero (congrArg some h)
    have hfirst : NumberPhase.minus.next? c = some .whole := by
      rw [NumberPhase.next?, if_neg hc, if_pos (hdigits c List.mem_cons_self)]
    refine ⟨.whole, ?_, .inr rfl⟩
    rw [after?_cons, hfirst, Option.bind_some,
      after?_digits (fun d => whole_next_digit) fun d hd => hdigits d (List.mem_cons_of_mem _ hd)]

theorem after?_fraction (hphase : phase = .zero ∨ phase = .whole) (h : IsFraction t) :
    ∃ phase', phase.after? t = some phase'
      ∧ (phase' = .zero ∨ phase' = .whole ∨ phase' = .fraction) := by
  rcases h with rfl | ⟨digits, rfl, hdigits⟩
  · exact ⟨phase, rfl, hphase.imp_right .inl⟩
  · have hpoint : phase.next? '.' = some .point := by rcases hphase with rfl | rfl <;> rfl
    refine ⟨.fraction, ?_, .inr (.inr rfl)⟩
    rw [after?_cons, hpoint, Option.bind_some]
    exact after?_firstDigit (fun c h => if_pos h) (fun c h => if_pos h) hdigits

theorem after?_exponent (hphase : phase = .zero ∨ phase = .whole ∨ phase = .fraction)
    (h : IsExponent t) : ∃ phase', phase.after? t = some phase' ∧ phase'.isComplete = true := by
  rcases h with rfl | ⟨e, sign, digits, rfl, he, hsign, hdigits⟩
  · exact ⟨phase, rfl, by rcases hphase with rfl | rfl | rfl <;> rfl⟩
  · have hstart : phase.next? e = some .exponent := by
      rcases hphase with rfl | rfl | rfl <;> rcases he with rfl | rfl <;> rfl
    have hdone : ∀ c : Char, c.isDigit = true →
        NumberPhase.next? c .exponentDigits = some .exponentDigits := fun c h => if_pos h
    have hlast : ∀ phase : NumberPhase, phase = .exponent ∨ phase = .exponentSign →
        phase.after? digits = some .exponentDigits := by
      rintro _ (rfl | rfl) <;> exact after?_firstDigit (fun c h => if_pos h) hdone hdigits
    refine ⟨.exponentDigits, ?_, rfl⟩
    rw [after?_cons, hstart, Option.bind_some, after?_append]
    rcases hsign with rfl | rfl | rfl
    · exact hlast .exponent (.inl rfl)
    · exact hlast .exponentSign (.inr rfl)
    · exact hlast .exponentSign (.inr rfl)

/-- The parts of a number follow one another, and after the last the number may end. -/
theorem after?_unsigned (h : IsUnsigned t) :
    ∃ phase, NumberPhase.minus.after? t = some phase ∧ phase.isComplete = true := by
  obtain ⟨whole, fraction, exponent, rfl, hwhole, hfraction, hexponent⟩ := h
  obtain ⟨first, hfirst, hin⟩ := after?_whole hwhole
  obtain ⟨second, hsecond, hin'⟩ := after?_fraction hin hfraction
  obtain ⟨last, hlast, hcomplete⟩ := after?_exponent hin' hexponent
  refine ⟨last, ?_, hcomplete⟩
  rw [after?_append, hfirst, Option.bind_some, after?_append, hsecond, Option.bind_some, hlast]

/-- A number goes on, or the symbol is what follows it. -/
theorem step_number (stack : List Frame) (spelling : List Char) (phase : NumberPhase) (c : Char) :
    step ⟨stack, .number spelling phase⟩ (some c)
      = match phase.next? c with
        | some next => some ⟨stack, .number (c :: spelling) next⟩
        | none =>
          if phase.isComplete then
            afterStep (deliver (.number (.ofSpelling spelling.reverse)) stack) c
          else none := rfl

/-- The characters of a number are kept. -/
theorem run_number {stack : List Frame} {spelling : List Char} (h : phase.after? t = some phase') :
    runOver ⟨stack, .number spelling phase⟩ t
      = some ⟨stack, .number (t.reverse ++ spelling) phase'⟩ := by
  induction t generalizing spelling phase with
  | nil => cases h; rfl
  | cons c t ih =>
    obtain ⟨next, hnext, hrest⟩ := Option.bind_eq_some_iff.mp h
    have hstep : step ⟨stack, .number spelling phase⟩ (some c)
        = some ⟨stack, .number (c :: spelling) next⟩ := by
      have hphase : phase.next? c = some next := hnext
      rw [step_number, hphase]
    rw [runOver_cons, hstep, Option.bind_some, ih hrest, List.reverse_cons, List.append_assoc,
      List.singleton_append]

/-- A number starts as it would after a minus sign. -/
theorem begin_digit {c : Char} (stack : List Frame) (h : NumberPhase.minus.next? c = some phase) :
    begin stack c = some ⟨stack, .number [c] phase⟩ := by
  rw [NumberPhase.next?] at h
  split at h
  · rename_i hc
    cases h
    rw [hc]
    rfl
  · rename_i hzero
    split at h
    · rename_i hdigit
      cases h
      have hne : ∀ d : Char, d.isDigit = false → c ≠ d := by
        rintro d hd rfl
        rw [hd] at hdigit
        cases hdigit
      rw [begin, if_neg (hne _ rfl), if_neg (hne _ rfl), if_neg (hne _ rfl), if_neg (hne _ rfl),
        if_neg (hne _ rfl), if_neg (hne _ rfl), if_neg (hne _ rfl), if_neg hzero, if_pos hdigit]
    · cases h

/-- **A number is read**; it is still open at its end. -/
theorem begin_number (stack : List Frame) (h : IsNumber t) :
    ∃ c u s phase, t = c :: u ∧ begin stack c = some s
      ∧ runOver s u = some ⟨stack, .number t.reverse phase⟩ ∧ phase.isComplete = true := by
  rcases h with h | ⟨u, rfl, h⟩
  · obtain ⟨phase, hafter, hcomplete⟩ := after?_unsigned h
    cases t with
    | nil => cases hafter; cases hcomplete
    | cons c u =>
      obtain ⟨first, hfirst, hrest⟩ := Option.bind_eq_some_iff.mp hafter
      refine ⟨c, u, _, phase, rfl, begin_digit stack hfirst, ?_, hcomplete⟩
      rw [run_number hrest, List.reverse_cons]
  · obtain ⟨phase, hafter, hcomplete⟩ := after?_unsigned h
    refine ⟨'-', u, _, phase, rfl, rfl, ?_, hcomplete⟩
    rw [run_number hafter, List.reverse_cons]

end

/-! ## 4. Values -/

/-- What may follow a value inside an array or an object, blanks apart. -/
def isSeparator (c : Char) : Bool := c = ',' || c = ']' || c = '\x7d'

theorem isSeparator_iff {c : Char} : isSeparator c = true ↔ c = ',' ∨ c = ']' ∨ c = '\x7d' := by
  simp [isSeparator, or_assoc]

theorem isSpace_iff {c : Char} :
    isSpace c = true ↔ c = ' ' ∨ c = '\t' ∨ c = '\n' ∨ c = '\r' := by
  simp [isSpace, or_assoc]

theorem not_isSpace_of_isSeparator {c : Char} (h : isSeparator c = true) : ¬isSpace c = true := by
  rcases isSeparator_iff.mp h with rfl | rfl | rfl <;> decide

/-- Nothing that may follow a number goes on with it. -/
theorem next?_of_follows {c : Char} (hc : isSpace c = true ∨ isSeparator c = true)
    (phase : NumberPhase) : phase.next? c = none := by
  rw [isSpace_iff, isSeparator_iff] at hc
  rcases hc with (rfl | rfl | rfl | rfl) | rfl | rfl | rfl <;> cases phase <;> rfl

/-- A value has been read in front of a stack: it is delivered, or it is a number that ends with the
    next symbol. -/
inductive Taken (stack : List Frame) : Value → State → Prop where
  | delivered (v : Value) : Taken stack v (deliver v stack)
  | unfinished {t : List Char} {phase : NumberPhase} (h : phase.isComplete = true) :
      Taken stack (.number (.ofSpelling t)) ⟨stack, .number t.reverse phase⟩

section

variable {stack : List Frame} {v : Value} {s : State}

/-- **A blank or a separator ends the value before it.** -/
theorem Taken.step {c : Char} (h : Taken stack v s)
    (hc : isSpace c = true ∨ isSeparator c = true) :
    Json.step s (some c) = afterStep (deliver v stack) c := by
  cases h with
  | delivered =>
    cases stack with
    | nil => rfl
    | cons frame below => cases frame <;> rfl
  | unfinished hcomplete =>
    rw [step_number, next?_of_follows hc, List.reverse_reverse]
    exact if_pos hcomplete

/-- Blanks after a value. -/
theorem Taken.blanks {t : List Char} (h : Taken stack v s) (ht : Blanks t) :
    ∃ s', runOver s t = some s' ∧ Taken stack v s' := by
  cases t with
  | nil => exact ⟨s, rfl, h⟩
  | cons c t =>
    have hblank : ∀ s, Taken stack v s → ∀ c, isSpace c = true →
        Json.step s (some c) = some (deliver v stack) := fun s hs c hc =>
      (hs.step (.inl hc)).trans (if_pos hc)
    have hrest := run_blanks (hblank _ (.delivered v)) fun d hd => ht d (List.mem_cons_of_mem _ hd)
    refine ⟨_, ?_, .delivered v⟩
    rw [runOver_cons, hblank s h c (ht c List.mem_cons_self), Option.bind_some, hrest]

/-- **A separator goes on with the array or object around the value.** -/
theorem Taken.separator {frame : Frame} {c : Char} (h : Taken (frame :: stack) v s)
    (hc : isSeparator c = true) :
    Json.step s (some c) = continue? (deliver v (frame :: stack)).stack c := by
  rw [h.step (.inr hc), afterStep, if_neg (not_isSpace_of_isSeparator hc)]
  cases frame <;> rfl

/-- A value that is all of a document. -/
theorem Taken.result? (h : Taken [] v s) : s.result? = some v := by
  cases h with
  | delivered => rfl
  | unfinished hcomplete => simp only [State.result?, hcomplete, List.reverse_reverse, if_true]

end

/-- Where a value may begin. -/
def Mode.Begins (mode : Mode) : Prop := mode = .value ∨ mode = .firstItem

/-- Where a member may begin. -/
def Mode.BeginsMember (mode : Mode) : Prop := mode = .key ∨ mode = .firstKey

/-- The machine reads a text as a value, wherever one may begin. -/
def Reads (v : Value) (t : List Char) : Prop :=
  ∀ stack mode, Mode.Begins mode → ∃ s, runOver ⟨stack, mode⟩ t = some s ∧ Taken stack v s

theorem step_begin {stack : List Frame} {mode : Mode} {c : Char} {s : State}
    (hmode : mode.Begins) (h : begin stack c = some s) : step ⟨stack, mode⟩ (some c) = some s := by
  have hspace : ¬isSpace c = true := by
    rw [isSpace_iff]
    rintro (rfl | rfl | rfl | rfl) <;> cases h
  have hclose : c ≠ ']' := by
    rintro rfl
    cases h
  rcases hmode with rfl | rfl
  · exact (if_neg hspace).trans h
  · exact (if_neg hspace).trans ((if_neg hclose).trans h)

theorem Reads.of_begin {v : Value} {c : Char} {t : List Char}
    (h : ∀ stack, ∃ s s', begin stack c = some s ∧ runOver s t = some s' ∧ Taken stack v s') :
    Reads v (c :: t) := by
  intro stack mode hmode
  obtain ⟨s, s', hbegin, hrun, htaken⟩ := h stack
  exact ⟨s', by rw [runOver_cons, step_begin hmode hbegin, Option.bind_some, hrun], htaken⟩

/-- Blanks around a value. -/
theorem Reads.padded {v : Value} {before t after : List Char} (hbefore : Blanks before)
    (h : Reads v t) (hafter : Blanks after) : Reads v (before ++ (t ++ after)) := by
  intro stack mode hmode
  have hblanks : runOver ⟨stack, mode⟩ before = some ⟨stack, mode⟩ := by
    refine run_blanks (fun c hc => ?_) hbefore
    rcases hmode with rfl | rfl <;> exact if_pos hc
  obtain ⟨s, hrun, htaken⟩ := h stack mode hmode
  obtain ⟨s', hrun', htaken'⟩ := htaken.blanks hafter
  refine ⟨s', ?_, htaken'⟩
  rw [runOver_append, hblanks, Option.bind_some, runOver_append, hrun, Option.bind_some, hrun']

/-! ## 5. Arrays and objects -/

/-- **The values of an array are read one by one.** -/
theorem run_items {stack : List Frame} {acc : List Value} {x : Value × List Char}
    {xs : List (Value × List Char)} (h : ∀ y ∈ x :: xs, Reads y.1 y.2) {mode : Mode}
    (hmode : mode.Begins) :
    runOver ⟨.array acc :: stack, mode⟩ (joinWith [','] ((x :: xs).map Prod.snd) ++ [']'])
      = some (deliver (.array (acc.reverse ++ (x :: xs).map Prod.fst)) stack) := by
  induction xs generalizing x acc mode with
  | nil =>
    obtain ⟨s, hrun, htaken⟩ := h x List.mem_cons_self (.array acc :: stack) mode hmode
    have hall : acc.reverse ++ [x.1] = (x.1 :: acc).reverse := List.reverse_cons.symm
    show runOver _ (x.2 ++ [']']) = some (deliver (.array (acc.reverse ++ [x.1])) stack)
    rw [runOver_append, hrun, Option.bind_some, runOver_single, htaken.separator rfl, hall]
    rfl
  | cons y ys ih =>
    obtain ⟨s, hrun, htaken⟩ := h x List.mem_cons_self (.array acc :: stack) mode hmode
    have hrest : runOver ⟨.array (x.1 :: acc) :: stack, .value⟩
        (joinWith [','] ((y :: ys).map Prod.snd) ++ [']'])
          = some (deliver (.array ((x.1 :: acc).reverse ++ (y :: ys).map Prod.fst)) stack) :=
      ih (fun z hz => h z (List.mem_cons_of_mem _ hz)) (.inl rfl)
    have hall : acc.reverse ++ (x :: y :: ys).map Prod.fst
        = (x.1 :: acc).reverse ++ (y :: ys).map Prod.fst := by
      rw [List.reverse_cons, List.append_assoc, List.singleton_append, List.map_cons]
    rw [List.map_cons, List.map_cons, joinWith_cons_cons, List.append_assoc, runOver_append, hrun,
      Option.bind_some, List.singleton_append, List.cons_append, runOver_cons,
      htaken.separator rfl, ← List.map_cons, hall]
    exact hrest

/-- The name of a member. -/
theorem SpellsName.run {name : Option String} {t : List Char} (h : SpellsName name t)
    {stack : List Frame} {acc : List (Option String × Value)} {mode : Mode}
    (hmode : mode.BeginsMember) :
    runOver ⟨.object acc :: stack, mode⟩ (t ++ [':'])
      = some ⟨.member acc name :: stack, .value⟩ := by
  obtain @⟨before, _, after, hbefore, h, hafter⟩ := h
  obtain ⟨body, p, rfl, rfl, hrun⟩ := h.run
  have hblanks : runOver ⟨.object acc :: stack, mode⟩ before
      = some ⟨.object acc :: stack, mode⟩ := by
    refine run_blanks (fun c hc => ?_) hbefore
    rcases hmode with rfl | rfl <;> exact if_pos hc
  have hquote : step ⟨.object acc :: stack, mode⟩ (some '"')
      = some ⟨.object acc :: stack, .string true {} .plain⟩ := by
    rcases hmode with rfl | rfl <;> rfl
  have hcolon : runOver ⟨.member acc p.content :: stack, .colon⟩ after
      = some ⟨.member acc p.content :: stack, .colon⟩ :=
    run_blanks (fun c hc => if_pos hc) hafter
  rw [List.append_assoc, runOver_append, hblanks, Option.bind_some, List.cons_append,
    List.cons_append, runOver_cons, hquote, Option.bind_some, List.append_assoc, runOver_append,
    hrun]
  show (runOver ⟨.member acc p.content :: stack, .colon⟩ _) = _
  rw [runOver_append, hcolon]
  rfl

/-- **A member.** -/
theorem SpelledMember.run {m : SpelledMember} (hname : SpellsName m.name m.nameText)
    (hvalue : Reads m.value m.valueText) (stack : List Frame) (acc : List (Option String × Value))
    {mode : Mode} (hmode : mode.BeginsMember) :
    ∃ s, runOver ⟨.object acc :: stack, mode⟩ m.text = some s
      ∧ Taken (.member acc m.name :: stack) m.value s := by
  obtain ⟨s, hrun, htaken⟩ := hvalue (.member acc m.name :: stack) .value (.inl rfl)
  refine ⟨s, ?_, htaken⟩
  rw [text, List.append_cons, runOver_append, hname.run hmode, Option.bind_some, hrun]

/-- **The members of an object are read one by one.** -/
theorem run_members {stack : List Frame} {acc : List (Option String × Value)} {m : SpelledMember}
    {ms : List SpelledMember} (hnames : ∀ x ∈ m :: ms, SpellsName x.name x.nameText)
    (hvalues : ∀ x ∈ m :: ms, Reads x.value x.valueText) {mode : Mode}
    (hmode : mode.BeginsMember) :
    runOver ⟨.object acc :: stack, mode⟩
        (joinWith [','] ((m :: ms).map SpelledMember.text) ++ ['\x7d'])
      = some (deliver (.object (acc.reverse ++ (m :: ms).map SpelledMember.member)) stack) := by
  induction ms generalizing m acc mode with
  | nil =>
    obtain ⟨s, hrun, htaken⟩ := SpelledMember.run (hnames m List.mem_cons_self)
      (hvalues m List.mem_cons_self) stack acc hmode
    have hall : acc.reverse ++ [m.member] = (m.member :: acc).reverse := List.reverse_cons.symm
    show runOver _ (m.text ++ ['\x7d'])
      = some (deliver (.object (acc.reverse ++ [m.member])) stack)
    rw [runOver_append, hrun, Option.bind_some, runOver_single, htaken.separator rfl, hall]
    rfl
  | cons x xs ih =>
    obtain ⟨s, hrun, htaken⟩ := SpelledMember.run (hnames m List.mem_cons_self)
      (hvalues m List.mem_cons_self) stack acc hmode
    have hrest : runOver ⟨.object (m.member :: acc) :: stack, .key⟩
        (joinWith [','] ((x :: xs).map SpelledMember.text) ++ ['\x7d'])
          = some (deliver
            (.object ((m.member :: acc).reverse ++ (x :: xs).map SpelledMember.member)) stack) :=
      ih (fun y hy => hnames y (List.mem_cons_of_mem _ hy))
        (fun y hy => hvalues y (List.mem_cons_of_mem _ hy)) (.inl rfl)
    have hall : acc.reverse ++ (m :: x :: xs).map SpelledMember.member
        = (m.member :: acc).reverse ++ (x :: xs).map SpelledMember.member := by
      rw [List.reverse_cons, List.append_assoc, List.singleton_append, List.map_cons]
    rw [List.map_cons, List.map_cons, joinWith_cons_cons, List.append_assoc, runOver_append, hrun,
      Option.bind_some, List.singleton_append, List.cons_append, runOver_cons,
      htaken.separator rfl, ← List.map_cons, hall]
    exact hrest

/-! ## 6. All spellings -/

namespace Spells

/-- **The machine reads every spelling of a value as the value.** -/
theorem reads {v : Value} {t : List Char} (h : Spells v t) : Reads v t := by
  induction h with
  | wordNull => exact .of_begin fun stack => ⟨_, _, rfl, rfl, .delivered _⟩
  | wordTrue => exact .of_begin fun stack => ⟨_, _, rfl, rfl, .delivered _⟩
  | wordFalse => exact .of_begin fun stack => ⟨_, _, rfl, rfl, .delivered _⟩
  | number h =>
    obtain ⟨c, u, rfl⟩ : ∃ c u, _ = c :: u := by
      obtain ⟨c, u, _, _, ht, -⟩ := begin_number [] h
      exact ⟨c, u, ht⟩
    refine .of_begin fun stack => ?_
    obtain ⟨_, _, s, phase, ⟨⟩, hbegin, hrun, hcomplete⟩ := begin_number stack h
    exact ⟨s, _, hbegin, hrun, .unfinished hcomplete⟩
  | text h =>
    obtain ⟨body, p, rfl, rfl, hrun⟩ := h.run
    exact .of_begin fun stack => ⟨_, _, rfl, hrun stack false, .delivered _⟩
  | @emptyArray blanks h =>
    refine .of_begin fun stack => ⟨_, deliver (.array []) stack, rfl, ?_, .delivered _⟩
    have hblanks : runOver ⟨.array [] :: stack, .firstItem⟩ blanks
        = some ⟨.array [] :: stack, .firstItem⟩ := run_blanks (fun c hc => if_pos hc) h
    refine (runOver_append _ _ _).trans ?_
    rw [hblanks]
    rfl
  | @array items hne _ ih =>
    obtain ⟨x, xs, rfl⟩ := List.exists_cons_of_ne_nil hne
    exact .of_begin fun stack => ⟨_, _, rfl, run_items ih (.inr rfl), .delivered _⟩
  | @emptyObject blanks h =>
    refine .of_begin fun stack => ⟨_, deliver (.object []) stack, rfl, ?_, .delivered _⟩
    have hblanks : runOver ⟨.object [] :: stack, .firstKey⟩ blanks
        = some ⟨.object [] :: stack, .firstKey⟩ := run_blanks (fun c hc => if_pos hc) h
    refine (runOver_append _ _ _).trans ?_
    rw [hblanks]
    rfl
  | @object members hne names _ ih =>
    obtain ⟨m, ms, rfl⟩ := List.exists_cons_of_ne_nil hne
    exact .of_begin fun stack => ⟨_, _, rfl, run_members names ih (.inr rfl), .delivered _⟩
  | padded hbefore _ hafter ih => exact ih.padded hbefore hafter

/-- **A document is read as the value that it spells.** -/
theorem readText {v : Value} {t : List Char} (h : Spells v t) :
    Json.readText (String.ofList t) = some v := by
  obtain ⟨s, hrun, htaken⟩ := h.reads [] .value (.inl rfl)
  rw [Json.readText, String.toList_ofList, read]
  exact Option.bind_eq_some_iff.mpr ⟨s, hrun, htaken.result?⟩

end Spells

/-- The bytes of a text are read as the text is. -/
theorem readBytes_encode (s : String) : readBytes (Utf8.encode s) = readText s := by
  rw [readBytes, Utf8.pieces_encode, List.map_map, readText]
  rfl

namespace Spells

/-- **The bytes of a document are read as the value that it spells.** -/
theorem readBytes {v : Value} {t : List Char} (h : Spells v t) :
    Json.readBytes (Utf8.encode (String.ofList t)) = some v := by
  rw [readBytes_encode, h.readText]

/-- A text spells one value at most. -/
theorem unique {v w : Value} {t : List Char} (hv : Spells v t) (hw : Spells w t) : v = w :=
  Option.some.inj (hv.readText.symm.trans hw.readText)

end Spells

end HostAgent.Json
