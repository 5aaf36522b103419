import HostAgent.Text.Utf8

/-!
# Encoded text is read back

The bytes of a text fall into its characters again: the first byte of each says how many are to
follow it, and these stand in the ranges that it allows.

* `piecesFrom_more`, `piecesFrom_last` -- one byte inside a character;
* `pieces_char` -- all bytes of a character;
* `pieces_encode`, `decode_encode` -- the text;
* `encode_le_iff` -- texts are in the order of their bytes.
-/

namespace HostAgent.Utf8

/-! ## 1. One byte -/

/-- The byte after the first one that carries six bits. -/
abbrev tailByte (m : Nat) : UInt8 := UInt8.ofNat (m + 0x80)

theorem toNat_tailByte {m : Nat} (hm : m < 0x40) : (tailByte m).toNat = m + 0x80 :=
  UInt8.toNat_ofNat_of_lt' (show m + 0x80 < 256 by omega)

theorem holds_iff {r : Range} {m : Nat} (hm : m < 0x40) :
    r.holds (tailByte m) = true ↔ r.1.toNat ≤ m + 0x80 ∧ m + 0x80 ≤ r.2.toNat := by
  rw [Range.holds, Bool.and_eq_true, decide_eq_true_eq, decide_eq_true_eq, UInt8.le_iff_toNat_le,
    UInt8.le_iff_toNat_le, toNat_tailByte hm]

theorem tail_holds {m : Nat} (hm : m < 0x40) : tail.holds (tailByte m) = true := by
  rw [holds_iff hm]
  show 128 ≤ m + 128 ∧ m + 128 ≤ 191
  omega

section

variable {bits length m : Nat} {r : Range} {bs : Bytes}

/-- The last byte of a character. -/
theorem piecesFrom_last (hm : m < 0x40) (hr : r.holds (tailByte m) = true) :
    piecesFrom (some ⟨bits, length, r, []⟩) (tailByte m :: bs)
      = .char (Char.ofNat (bits * 0x40 + m)) :: pieces bs := by
  have hbits : (tailByte m).toNat % 0x40 = m := by rw [toNat_tailByte hm]; omega
  rw [piecesFrom, step, if_pos hr, hbits]
  rfl

/-- A byte of a character that more are to follow. -/
theorem piecesFrom_more {next : Range} {later : List Range} (hm : m < 0x40)
    (hr : r.holds (tailByte m) = true) :
    piecesFrom (some ⟨bits, length, r, next :: later⟩) (tailByte m :: bs)
      = piecesFrom (some ⟨bits * 0x40 + m, length + 1, next, later⟩) bs := by
  have hbits : (tailByte m).toNat % 0x40 = m := by rw [toNat_tailByte hm]; omega
  rw [piecesFrom, step, if_pos hr, hbits]
  rfl

end

/-! ## 2. First bytes -/

/-- What may follow a first byte of three or four. One range is cut off at its start, so that no
    character is written longer than it has to be, and one at its end, because surrogates and what
    lies above `0x10FFFF` are no characters. -/
def secondByte (low : UInt8) (edge : Nat) (high : UInt8) (bits : Nat) : Range :=
  if bits = 0 then (low, 0xBF) else if bits = edge then (0x80, high) else tail

theorem secondByte_holds {low high : UInt8} {edge bits m : Nat} (hm : m < 0x40)
    (hlow : bits = 0 → low.toNat ≤ m + 0x80) (hhigh : bits = edge → m + 0x80 ≤ high.toNat) :
    (secondByte low edge high bits).holds (tailByte m) = true := by
  unfold secondByte
  by_cases hzero : bits = 0
  · have hlast : m + 0x80 ≤ (0xBF : UInt8).toNat := by
      show m + 128 ≤ 191
      omega
    rw [if_pos hzero, holds_iff hm]
    exact ⟨hlow hzero, hlast⟩
  · rw [if_neg hzero]
    by_cases hedge : bits = edge
    · have hfirst : (0x80 : UInt8).toNat ≤ m + 0x80 := Nat.le_add_left _ _
      rw [if_pos hedge, holds_iff hm]
      exact ⟨hfirst, hhigh hedge⟩
    · rw [if_neg hedge]
      exact tail_holds hm

theorem start_one : ∀ n < 0x80, start (UInt8.ofNat n) = ([.char (Char.ofNat n)], none) := by
  decide +kernel

theorem start_two : ∀ n < 0x20, 2 ≤ n →
    start (UInt8.ofNat (n + 0xC0)) = ([], some ⟨n, 1, tail, []⟩) := by
  decide +kernel

theorem start_three : ∀ n < 0x10,
    start (UInt8.ofNat (n + 0xE0)) = ([], some ⟨n, 1, secondByte 0xA0 0xD 0x9F n, [tail]⟩) := by
  decide +kernel

theorem start_four : ∀ n < 5,
    start (UInt8.ofNat (n + 0xF0)) = ([], some ⟨n, 1, secondByte 0x90 4 0x8F n, [tail, tail]⟩) := by
  decide +kernel

/-! ## 3. Characters -/

section

variable {a b d m : Nat} (bs : Bytes)

theorem pieces_one (hm : m < 0x80) :
    pieces (UInt8.ofNat m :: bs) = .char (Char.ofNat m) :: pieces bs := by
  rw [pieces, piecesFrom, step, start_one m hm]
  rfl

theorem pieces_two (ha : a < 0x20) (hlong : 2 ≤ a) (hm : m < 0x40) :
    pieces (UInt8.ofNat (a + 0xC0) :: tailByte m :: bs)
      = .char (Char.ofNat (a * 0x40 + m)) :: pieces bs := by
  rw [pieces, piecesFrom, step, start_two a ha hlong, List.nil_append,
    piecesFrom_last hm (tail_holds hm)]

theorem pieces_three (ha : a < 0x10) (hb : b < 0x40) (hm : m < 0x40) (hlong : a = 0 → 0x20 ≤ b)
    (hsurrogate : a = 0xD → b < 0x20) :
    pieces (UInt8.ofNat (a + 0xE0) :: tailByte b :: tailByte m :: bs)
      = .char (Char.ofNat ((a * 0x40 + b) * 0x40 + m)) :: pieces bs := by
  have hsecond : (secondByte 0xA0 0xD 0x9F a).holds (tailByte b) = true :=
    secondByte_holds hb (fun h => Nat.add_le_add_right (hlong h) 0x80)
      fun h => Nat.add_le_add_right (Nat.le_of_lt_succ (hsurrogate h)) 0x80
  rw [pieces, piecesFrom, step, start_three a ha, List.nil_append, piecesFrom_more hb hsecond,
    piecesFrom_last hm (tail_holds hm)]

theorem pieces_four (ha : a < 5) (hb : b < 0x40) (hd : d < 0x40) (hm : m < 0x40)
    (hlong : a = 0 → 0x10 ≤ b) (hlast : a = 4 → b < 0x10) :
    pieces (UInt8.ofNat (a + 0xF0) :: tailByte b :: tailByte d :: tailByte m :: bs)
      = .char (Char.ofNat (((a * 0x40 + b) * 0x40 + d) * 0x40 + m)) :: pieces bs := by
  have hsecond : (secondByte 0x90 4 0x8F a).holds (tailByte b) = true :=
    secondByte_holds hb (fun h => Nat.add_le_add_right (hlong h) 0x80)
      fun h => Nat.add_le_add_right (Nat.le_of_lt_succ (hlast h)) 0x80
  rw [pieces, piecesFrom, step, start_four a ha, List.nil_append, piecesFrom_more hb hsecond,
    piecesFrom_more hd (tail_holds hd), piecesFrom_last hm (tail_holds hm)]

end

/-- **All bytes of a character are the character.** -/
theorem pieces_char (c : Char) (bs : Bytes) :
    pieces (String.utf8EncodeChar c ++ bs) = .char c :: pieces bs := by
  have hvalid : c.val.toNat < 55296 ∨ 57343 < c.val.toNat ∧ c.val.toNat < 1114112 := c.valid
  have hback : Char.ofNat c.val.toNat = c := Char.ofNat_toNat c
  unfold String.utf8EncodeChar
  generalize c.val.toNat = v at hvalid hback
  have hm := Nat.mod_lt v (show 0 < 64 by decide)
  have hd := Nat.mod_lt (v / 64) (show 0 < 64 by decide)
  have hb := Nat.mod_lt (v / 4096) (show 0 < 64 by decide)
  dsimp only
  by_cases h1 : v ≤ 127
  · have hone := pieces_one bs (show v < 128 by omega)
    rw [if_pos h1]
    rw [hback] at hone
    exact hone
  · rw [if_neg h1]
    by_cases h2 : v ≤ 2047
    · have hsum : v / 64 % 32 * 64 + v % 64 = v := by omega
      have htwo := pieces_two (a := v / 64 % 32) bs (by omega) (by omega) hm
      rw [if_pos h2]
      rw [hsum, hback] at htwo
      exact htwo
    · rw [if_neg h2]
      by_cases h3 : v ≤ 65535
      · have hsum : (v / 4096 % 16 * 64 + v / 64 % 64) * 64 + v % 64 = v := by omega
        have hthree := pieces_three (a := v / 4096 % 16) bs (by omega) hd hm (by omega)
          (by omega)
        rw [if_pos h3]
        rw [hsum, hback] at hthree
        exact hthree
      · have hsum : ((v / 262144 % 8 * 64 + v / 4096 % 64) * 64 + v / 64 % 64) * 64 + v % 64 = v := by
          omega
        have hfour := pieces_four (a := v / 262144 % 8) bs (by omega) hb hd hm (by omega)
          (by omega)
        rw [if_neg h3]
        rw [hsum, hback] at hfour
        exact hfour

/-- **The bytes of a text fall into its characters.** -/
theorem pieces_encode (s : String) : pieces (encode s) = s.toList.map .char := by
  unfold encode
  induction s.toList with
  | nil => rfl
  | cons c cs ih => rw [List.flatMap_cons, pieces_char, ih, List.map_cons]

/-- **Text is decoded from its bytes.** -/
theorem decode_encode (s : String) : decode (encode s) = .ok s := by
  have hfault : ∀ (cs : List Char) (index : Nat), faultFrom? index (cs.map .char) = none := by
    intro cs
    induction cs with
    | nil => exact fun _ => rfl
    | cons c cs ih => exact fun index => ih (index + c.utf8Size)
  have htext : (s.toList.map Piece.char).filterMap Piece.char? = s.toList := by
    rw [List.filterMap_map]
    exact List.filterMap_some
  rw [decode, fault?, pieces_encode, hfault]
  show Except.ok (String.ofList _) = Except.ok s
  rw [htext, String.ofList_toList]

/-- Different texts have different bytes. -/
theorem encode_injective : Function.Injective encode := by
  intro s t h
  have hpieces : s.toList.map Piece.char = t.toList.map Piece.char := by
    rw [← pieces_encode, ← pieces_encode, h]
  exact String.toList_inj.mp ((List.map_inj_right fun _ _ => Piece.char.inj).mp hpieces)

/-! ## 4. Order -/

theorem ofNat_cons_lt_iff {m n : Nat} {bs cs : Bytes} (hm : m < 256) (hn : n < 256) :
    UInt8.ofNat m :: bs < UInt8.ofNat n :: cs ↔ m < n ∨ m = n ∧ bs < cs := by
  rw [List.cons_lt_cons_iff, UInt8.lt_iff_toNat_lt, ← UInt8.toNat_inj, UInt8.toNat_ofNat_of_lt' hm,
    UInt8.toNat_ofNat_of_lt' hn]

/-- Of numbers with four digits the lower one is lower at the first digit that differs. -/
theorem digits_lt {v w : Nat} (h : v < w) :
    v / 262144 < w / 262144 ∨ v / 262144 = w / 262144 ∧ (v / 4096 % 64 < w / 4096 % 64
      ∨ v / 4096 % 64 = w / 4096 % 64 ∧ (v / 64 % 64 < w / 64 % 64
      ∨ v / 64 % 64 = w / 64 % 64 ∧ v % 64 < w % 64)) := by
  have hv : v = ((v / 262144 * 64 + v / 4096 % 64) * 64 + v / 64 % 64) * 64 + v % 64 := by omega
  have hw : w = ((w / 262144 * 64 + w / 4096 % 64) * 64 + w / 64 % 64) * 64 + w % 64 := by omega
  have hlast := Nat.mod_lt v (show 0 < 64 by decide)
  have hthird := Nat.mod_lt (v / 64) (show 0 < 64 by decide)
  have hsecond := Nat.mod_lt (v / 4096) (show 0 < 64 by decide)
  generalize v / 262144 = a, v / 4096 % 64 = b, v / 64 % 64 = d, v % 64 = m at *
  omega

/-- **The bytes of a lower character come first**, whatever follows them. -/
theorem encodeChar_lt {c d : Char} (h : c < d) (bs cs : Bytes) :
    String.utf8EncodeChar c ++ bs < String.utf8EncodeChar d ++ cs := by
  have hlt : c.val.toNat < d.val.toNat := h
  have hd : d.val.toNat < 55296 ∨ 57343 < d.val.toNat ∧ d.val.toNat < 1114112 := d.valid
  unfold String.utf8EncodeChar
  generalize c.val.toNat = v at hlt
  generalize d.val.toNat = w at hlt hd
  dsimp only
  by_cases hlong : v ≤ 65535
  · -- a longer encoding starts with a greater byte, and of one length the bytes are digits
    (repeat' split) <;>
      simp (disch := omega) only [List.cons_append, List.nil_append, ofNat_cons_lt_iff] <;> omega
  · have hfirst : v / 262144 % 8 = v / 262144 ∧ w / 262144 % 8 = w / 262144 := by omega
    have hdigits := digits_lt hlt
    iterate 6 rw [if_neg (by omega)]
    simp (disch := omega) only [List.cons_append, List.nil_append, ofNat_cons_lt_iff, hfirst]
    generalize v / 262144 = a, v / 4096 % 64 = b, v / 64 % 64 = e, v % 64 = m at *
    omega

theorem encode_lt_of_lt {s t : String} (h : s < t) : encode s < encode t := by
  unfold encode
  rw [String.lt_iff] at h
  generalize s.toList = l, t.toList = l' at h
  induction h with
  | @nil c cs =>
    have hlength : 0 < (String.utf8EncodeChar c).length :=
      Nat.lt_of_lt_of_eq (Char.utf8Size_pos c) (String.length_utf8EncodeChar c).symm
    obtain ⟨b, bs, hb⟩ := List.exists_cons_of_length_pos hlength
    rw [List.flatMap_nil, List.flatMap_cons, hb]
    exact .nil
  | rel h => exact encodeChar_lt h _ _
  | cons _ ih => exact List.append_left_lt ih

/-- **Texts are in the order of their bytes.** -/
theorem encode_le_iff {s t : String} : encode s ≤ encode t ↔ s ≤ t := by
  have hlt : encode t < encode s ↔ t < s := by
    refine ⟨fun h => ?_, encode_lt_of_lt⟩
    refine Decidable.by_contra fun hnot => ?_
    have hle : s ≤ t := String.not_lt.mp hnot
    by_cases heq : s = t
    · exact List.lt_irrefl _ (heq ▸ h)
    · exact List.lt_asymm h (encode_lt_of_lt (Std.lt_of_le_of_ne hle heq))
  rw [← List.not_lt, ← String.not_lt, hlt]

end HostAgent.Utf8
