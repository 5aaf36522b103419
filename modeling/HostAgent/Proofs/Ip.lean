import HostAgent.Ip.Subnet
import Mathlib.Data.List.Infix
import Mathlib.Data.List.TakeWhile

/-!
# Masks and the texts that name them

A mask is ones followed by zeros, and it is known by the number of its ones. For IPv6 the number
itself names the mask as well as an address does that is the mask; no text is both.

* `IsMask`, `maskLength?_eq_some_iff` -- the length that is found is the number of ones;
* `and_prefixMask` -- what is left of an address under a mask;
* `prefixLength?_eq_some_iff` -- the two ways to name a mask of IPv6.
-/

namespace HostAgent.Ip

/-! ## 1. Masks -/

section

variable {width length : Nat} {mask : BitVec width}

/-- The mask starts with so many ones, and all other bits are zeros. -/
def IsMask (mask : BitVec width) (length : Nat) : Prop :=
  length ≤ width ∧ ∀ i < width, mask.getMsbD i = decide (i < length)

instance (mask : BitVec width) (length : Nat) : Decidable (IsMask mask length) :=
  inferInstanceAs (Decidable (_ ∧ ∀ i < width, _))

theorem getMsbD_prefixMask {i : Nat} (hi : i < width) (length : Nat) :
    (prefixMask width length).getMsbD i = decide (i < length) := by
  unfold prefixMask
  rw [BitVec.getMsbD_not, BitVec.getMsbD_ushiftRight, BitVec.getMsbD_allOnes]
  by_cases h : i < length
  · simp [hi, h]
  · simp [hi, h]
    omega

theorem isMask_iff : IsMask mask length ↔ length ≤ width ∧ mask = prefixMask width length := by
  refine and_congr_right fun _ => ⟨fun h => ?_, fun h i hi => ?_⟩
  · refine BitVec.eq_of_getMsbD_eq fun i hi => ?_
    rw [h i hi, getMsbD_prefixMask hi]
  · rw [h, getMsbD_prefixMask hi]

/-- A mask has one length. -/
theorem IsMask.unique {length' : Nat} (h : IsMask mask length) (h' : IsMask mask length') :
    length = length' := by
  have hle : ∀ {l l'}, IsMask mask l → IsMask mask l' → l ≤ l' := by
    intro l l' h h'
    refine Nat.not_lt.mp fun hlt => ?_
    -- the first bit beyond the shorter run would be both
    have hbit := h.2 l' (Nat.lt_of_lt_of_le hlt h.1)
    rw [h'.2 l' (Nat.lt_of_lt_of_le hlt h.1)] at hbit
    simp [hlt] at hbit
  exact Nat.le_antisymm (hle h h') (hle h' h)

/-- **The length that is found is the number of ones of a mask.** -/
theorem maskLength?_eq_some_iff : maskLength? mask = some length ↔ IsMask mask length := by
  constructor
  · exact fun h => isMask_iff.mpr (maskLength?_eq_some h)
  · intro h
    cases hfound : maskLength? mask with
    | none =>
      have hnone := List.find?_eq_none.mp hfound length (List.mem_range.mpr (Nat.lt_succ_of_le h.1))
      rw [(isMask_iff.mp h).2] at hnone
      simp at hnone
    | some length' =>
      rw [h.unique (isMask_iff.mpr (maskLength?_eq_some hfound))]

/-- Under a mask the low bits are cleared. -/
theorem and_prefixMask (a : BitVec width) (h : length ≤ width) :
    a &&& prefixMask width length = a >>> (width - length) <<< (width - length) := by
  refine BitVec.eq_of_getMsbD_eq fun i hi => ?_
  rw [BitVec.getMsbD_and, getMsbD_prefixMask hi, BitVec.getMsbD_shiftLeft, BitVec.getMsbD_ushiftRight]
  have hback : i + (width - length) - (width - length) = i := Nat.add_sub_cancel ..
  rw [hback]
  by_cases hlt : i < length
  · have hin : i + (width - length) < width := by omega
    simp [hlt, hin]
  · have hout : ¬ i + (width - length) < width := by omega
    simp [hlt, hout]

end

/-! ## 2. What is left of a text -/

section

variable {t rest : List Char}

theorem skip?_eq_some {c : Char} (h : skip? c t = some rest) : t = c :: rest := by
  cases t with
  | nil => cases h
  | cons x t =>
    rw [skip?] at h
    split at h
    · rename_i heq
      rw [heq, Option.some.inj h]
    · cases h

theorem skip?_suffix {c : Char} (h : skip? c t = some rest) : rest <:+ t := by
  rw [skip?_eq_some h]
  exact List.suffix_cons c rest

theorem octet?_suffix {n : Nat} (h : octet? t = some (n, rest)) : rest <:+ t := by
  simp only [octet?] at h
  split at h
  · cases h
  · split at h
    · cases h
    · split at h
      · split at h
        · cases h
          exact List.drop_suffix _ _
        · cases h
      · cases h

theorem pointOctet?_suffix {n : Nat} (h : pointOctet? t = some (n, rest)) : rest <:+ t := by
  obtain ⟨body, hskip, hoctet⟩ := Option.bind_eq_some_iff.mp h
  exact (octet?_suffix hoctet).trans (skip?_suffix hskip)

theorem v4?_suffix {a : V4} (h : v4? t = some (a, rest)) : rest <:+ t := by
  obtain ⟨⟨_, t₁⟩, h₁, h⟩ := Option.bind_eq_some_iff.mp h
  obtain ⟨⟨_, t₂⟩, h₂, h⟩ := Option.bind_eq_some_iff.mp h
  obtain ⟨⟨_, t₃⟩, h₃, h⟩ := Option.bind_eq_some_iff.mp h
  obtain ⟨⟨_, t₄⟩, h₄, h⟩ := Option.bind_eq_some_iff.mp h
  cases h
  exact (pointOctet?_suffix h₄).trans ((pointOctet?_suffix h₃).trans
    ((pointOctet?_suffix h₂).trans (octet?_suffix h₁)))

theorem group?_suffix {g : Nat} (h : group? t = some (g, rest)) : rest <:+ t := by
  simp only [group?] at h
  split at h
  · cases h
  · cases h
    exact List.drop_suffix _ _

theorem groupsUpTo_suffix (room : Nat) (isFirst : Bool) (t : List Char) :
    (groupsUpTo room isFirst t).rest <:+ t := by
  induction room generalizing isFirst t with
  | zero => exact List.suffix_rfl
  | succ room ih =>
    rw [groupsUpTo]
    split
    · exact List.suffix_rfl
    · rename_i body hbody
      have hsuffix : body <:+ t := by
        split at hbody
        · cases hbody
          exact List.suffix_rfl
        · exact skip?_suffix hbody
      split
      · rename_i a rest hv4
        split at hv4
        · cases hv4
        · exact (v4?_suffix hv4).trans hsuffix
      · split
        · exact List.suffix_rfl
        · rename_i g rest hgroup
          exact (ih false rest).trans ((group?_suffix hgroup).trans hsuffix)

/-- A colon stands before every group but the first one. -/
theorem colon_of_groups {room : Nat} (h : (groupsUpTo room false t).groups ≠ []) : ':' ∈ t := by
  cases room with
  | zero => exact absurd rfl h
  | succ room =>
    cases hskip : skip? ':' t with
    | none => exact absurd (by simp [groupsUpTo, hskip]) h
    | some body =>
      rw [skip?_eq_some hskip]
      exact List.mem_cons_self

/-- Without a colon there is at most one group, or the two of an IPv4 address. -/
theorem colon_of_many {room : Nat} (h : 2 < (groupsUpTo room true t).groups.length) : ':' ∈ t := by
  cases room with
  | zero => exact absurd h (Nat.not_lt_zero 2)
  | succ room =>
    rw [groupsUpTo] at h
    split at h
    · exact absurd h (Nat.not_lt_zero 2)
    · rename_i body hbody
      cases hbody
      split at h
      · exact absurd h (by simp)
      · split at h
        · exact absurd h (Nat.not_lt_zero 2)
        · rename_i g rest hgroup
          have hmore : (groupsUpTo room false rest).groups ≠ [] := fun hnil => by
            simp [hnil] at h
          exact (group?_suffix hgroup).mem (colon_of_groups hmore)

/-- **An IPv6 address holds a colon.** -/
theorem v6?_colon {a : V6} (h : v6? t = some (a, rest)) : ':' ∈ t := by
  simp only [v6?] at h
  split at h
  · rename_i height
    have hmany : 2 < (groupsUpTo 8 true t).groups.length := by omega
    exact colon_of_many hmany
  · split at h
    · cases h
    · obtain ⟨body, hskip, -⟩ := Option.bind_eq_some_iff.mp h
      refine (groupsUpTo_suffix 8 true t).mem ?_
      rw [skip?_eq_some hskip]
      exact List.mem_cons_self

end

/-! ## 3. The length of a mask of IPv6 -/

/-- A number is of digits. -/
theorem digits?_colon {value n : Nat} {t : List Char} (h : Decimal.digits? value t = some n) :
    ':' ∉ t := by
  induction t generalizing value with
  | nil => exact List.not_mem_nil
  | cons c t ih =>
    obtain ⟨d, hdigit, hrest⟩ := Option.bind_eq_some_iff.mp h
    have hne : ':' ≠ c := by
      rintro rfl
      have hnone : Decimal.digit? ':' = none := by decide
      rw [hnone] at hdigit
      cases hdigit
    exact List.not_mem_cons_of_ne_of_not_mem hne (ih hrest)

theorem read?_colon {bound n : Nat} {t : List Char} (h : Decimal.read? bound t = some n) :
    ':' ∉ t := by
  have hnatural := (Option.filter_eq_some_iff.mp h).1
  have hdropped : ':' ∉ Decimal.dropPlus t := by
    cases hrest : Decimal.dropPlus t with
    | nil => exact List.not_mem_nil
    | cons c u =>
      rw [hrest] at hnatural
      exact digits?_colon hnatural
  intro hmem
  unfold Decimal.dropPlus at hdropped
  split at hdropped
  · rcases List.mem_cons.mp hmem with heq | hmem
    · exact absurd heq (by decide)
    · exact hdropped hmem
  · exact hdropped hmem

/-- No text is both a number and an IPv6 address. -/
theorem read?_of_v6 {s : String} {mask : V6} (h : V6.parse? s = some mask) (bound : Nat) :
    Decimal.read? bound s.toList = none := by
  cases hread : Decimal.read? bound s.toList with
  | none => rfl
  | some n =>
    unfold V6.parse? whole? at h
    split at h
    · rename_i a hv6
      exact absurd (v6?_colon hv6) (read?_colon hread)
    · cases h

/-- The text names the mask of so many ones: it is the number as one of eight bits, or the mask as an
    address. -/
def NamesMask (netmask : String) (length : Nat) : Prop :=
  (Decimal.read? Decimal.max8 netmask.toList = some length ∧ length ≤ 128)
    ∨ ∃ mask, V6.parse? netmask = some mask ∧ IsMask mask.bits length

theorem NamesMask.le {netmask : String} {length : Nat} (h : NamesMask netmask length) :
    length ≤ 128 := h.elim And.right fun ⟨_, _, hmask⟩ => hmask.1

/-- **A length is found for the texts that name a mask**, and for the numbers of eight bits that are
    too large. -/
theorem prefixLength?_eq_some_iff {s : String} {length : Nat} (h : length ≤ 128) :
    prefixLength? s = some length ↔ NamesMask s length := by
  unfold prefixLength? NamesMask
  cases hread : Decimal.read? Decimal.max8 s.toList with
  | some n =>
    have hno : ¬ ∃ mask, V6.parse? s = some mask ∧ IsMask mask.bits length := by
      intro hmask
      obtain ⟨mask, hparse, -⟩ := hmask
      rw [read?_of_v6 hparse] at hread
      cases hread
    simp [hno, h]
  | none => simp [Option.bind_eq_some_iff, maskLength?_eq_some_iff]

end HostAgent.Ip
