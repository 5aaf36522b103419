import HostAgent.Proofs.Disk.Words
import HostAgent.Settings.Document
import Mathlib.Algebra.Ring.Nat

/-!
# What fits on a device

A plan is refused for two reasons only: a partition that is not the last one has no size, or the
partitions do not fit. Whether they fit is a matter of one sum, however large: a unit at either end,
each partition but the last one rounded up, and the last one as it is, or one byte for it.

* `UnsizedInside`, `Fits` -- the two conditions;
* `validate_refuses_iff` -- a settings document is refused for the first one, too;
* `layFrom?_isSome_iff` -- the layout exists when the second one holds;
* `plan_verdict` -- what a plan comes to.
-/

namespace HostAgent.Disk

/-! ## 1. Sizes that are not given -/

/-- A partition that is not the last one has no size. -/
def UnsizedInside (desired : List Partition) : Prop :=
  ∃ i p, desired[i]? = some p ∧ i + 1 < desired.length ∧ p.size = 0

theorem unsizedInside_iff {desired : List Partition} :
    UnsizedInside desired ↔ ∃ p ∈ desired.dropLast, p.size = 0 := by
  constructor
  · rintro ⟨i, p, hp, hi, hsize⟩
    have hget : desired.dropLast[i]? = some p := by
      rw [List.getElem?_dropLast, if_pos (by omega)]
      exact hp
    exact ⟨p, List.mem_of_getElem? hget, hsize⟩
  · rintro ⟨p, hp, hsize⟩
    obtain ⟨i, hi, rfl⟩ := List.getElem_of_mem hp
    rw [List.length_dropLast] at hi
    exact ⟨i, _, by rw [List.getElem_dropLast, List.getElem?_eq_getElem], by omega, hsize⟩

/-- The plan finds such a partition when there is one. -/
theorem unsizedNumber?_isSome_iff {desired : List Partition} :
    (unsizedNumber? desired).isSome ↔ UnsizedInside desired := by
  rw [unsizedInside_iff, unsizedNumber?, Option.isSome_map, List.findIdx?_isSome, List.any_eq_true]
  simp only [decide_eq_true_eq]

theorem unsizedNumber?_eq_none_iff {desired : List Partition} :
    unsizedNumber? desired = none ↔ ¬UnsizedInside desired := by
  rw [← unsizedNumber?_isSome_iff, Option.not_isSome_iff_eq_none]

/-- So does the check of a settings document. -/
theorem unsizedBeforeLast_iff {desired : List Partition} :
    unsizedBeforeLast desired = true ↔ UnsizedInside desired := by
  rw [unsizedInside_iff, unsizedBeforeLast, List.any_eq_true]
  simp only [decide_eq_true_eq]

/-- **A document that declares nothing but a disk is refused for a partition without a size** that
    is not the last one, and for nothing else. -/
theorem validate_refuses_iff (agentId : String) {path : String} {desired : List Partition}
    (hpath : path ≠ "") :
    (∃ e, Settings.validate ⟨agentId, NameMap.empty, some ⟨path, desired⟩⟩ = .error e)
      ↔ UnsizedInside desired := by
  have hobjection : Settings.objection? ⟨agentId, NameMap.empty, some ⟨path, desired⟩⟩
      = if unsizedBeforeLast desired then
          some "only the last ephemeral partition may have size 0" else none := by
    have hgiven : ¬path.isEmpty = true := fun h => hpath (String.isEmpty_iff.mp h)
    show EphemeralDisk.objection? ⟨path, desired⟩ = _
    rw [EphemeralDisk.objection?, if_neg hgiven]
  rw [← unsizedBeforeLast_iff, Settings.validate, hobjection]
  cases unsizedBeforeLast desired <;> simp

/-! ## 2. Room -/

/-- What partitions take, the last one included: the others are rounded up, and it takes one byte at
    least. -/
def bytesTaken (others : List Partition) (last : Partition) : Nat :=
  (others.map fun p => alignUp p.size.toNat).sum + max last.size.toNat 1

/-- There is room for the partitions on a device, with a unit at either end. -/
def Fits (desired : List Partition) (deviceSize : Nat) : Prop :=
  ∀ last ∈ desired.getLast?, 2 * alignment + bytesTaken desired.dropLast last ≤ deviceSize

section

variable {deviceSize start : Nat} {p q : Partition} {qs desired : List Partition}

/-- There is room for the partitions from an offset on. -/
def FitsFrom (deviceSize start : Nat) (desired : List Partition) : Prop :=
  ∀ last ∈ desired.getLast?, start + bytesTaken desired.dropLast last ≤ usableEnd deviceSize

theorem fitsFrom_nil : FitsFrom deviceSize start [] := fun last hlast => absurd hlast (by simp)

theorem fitsFrom_last :
    FitsFrom deviceSize start [p] ↔ start + max p.size.toNat 1 ≤ usableEnd deviceSize := by
  have hbytes : bytesTaken [] p = max p.size.toNat 1 := Nat.zero_add _
  simp only [FitsFrom, List.getLast?_singleton, Option.mem_some_iff, forall_eq',
    List.dropLast_singleton, hbytes]

theorem fitsFrom_cons :
    FitsFrom deviceSize start (p :: q :: qs)
      ↔ FitsFrom deviceSize (start + alignUp p.size.toNat) (q :: qs) := by
  have hbytes : ∀ last, bytesTaken (p :: (q :: qs).dropLast) last
      = alignUp p.size.toNat + bytesTaken (q :: qs).dropLast last := fun last => by
    rw [bytesTaken, bytesTaken, List.map_cons, List.sum_cons, Nat.add_assoc]
  simp only [FitsFrom, List.getLast?_cons_cons, List.dropLast_cons_cons, hbytes, Nat.add_assoc]

/-- There is room for something only behind an offset that is in time itself. -/
theorem FitsFrom.start_le (h : FitsFrom deviceSize start (q :: qs)) :
    start ≤ usableEnd deviceSize :=
  (Nat.le_add_right _ _).trans (h _ List.getLast?_cons)

theorem takenSize_of_more : takenSize deviceSize start p (q :: qs) = p.size.toNat :=
  if_neg fun h => List.cons_ne_nil q qs h.2

/-- The last partition ends in time when it can have its size, or one byte. -/
theorem takenSize_last_fits :
    (0 < takenSize deviceSize start p []
        ∧ start + takenSize deviceSize start p [] ≤ usableEnd deviceSize)
      ↔ FitsFrom deviceSize start [p] := by
  rw [fitsFrom_last]
  by_cases hp : p.size = 0
  · have hzero : p.size.toNat = 0 := by rw [hp]; rfl
    have htaken : takenSize deviceSize start p [] = usableEnd deviceSize - start :=
      if_pos ⟨hp, rfl⟩
    rw [htaken, hzero]
    omega
  · have hpos : 0 < p.size.toNat := Nat.pos_of_ne_zero fun h => hp (UInt64.toNat_inj.mp h)
    have htaken : takenSize deviceSize start p [] = p.size.toNat := if_neg fun h => hp h.1
    rw [htaken]
    omega

/-- **There is a layout from an offset on when there is room for it.** -/
theorem layFrom?_isSome_iff {owner : String} {number : Nat} (hsize : deviceSize ≤ Decimal.max64)
    (hstart : alignment ∣ start) (hsized : ∀ p ∈ desired.dropLast, p.size ≠ 0) :
    (layFrom? owner deviceSize number start desired).isSome
      ↔ FitsFrom deviceSize start desired := by
  induction desired generalizing number start with
  | nil => exact ⟨fun _ => fitsFrom_nil, fun _ => rfl⟩
  | cons p ps ih =>
    rw [layFrom?_cons hsize rfl]
    cases ps with
    | nil =>
      rw [← takenSize_last_fits]
      by_cases hfits : 0 < takenSize deviceSize start p []
          ∧ start + takenSize deviceSize start p [] ≤ usableEnd deviceSize
      · rw [if_pos hfits]
        exact ⟨fun _ => hfits, fun _ => rfl⟩
      · rw [if_neg hfits]
        exact ⟨fun h => absurd h Bool.false_ne_true, fun h => absurd h hfits⟩
    | cons q qs =>
      rw [List.dropLast_cons_cons] at hsized
      have hpos : 0 < p.size.toNat := Nat.pos_of_ne_zero fun h =>
        hsized p List.mem_cons_self (UInt64.toNat_inj.mp h)
      -- the next one starts at the same place whether its offset or the size is rounded up
      have hnext : alignUp (start + p.size.toNat) = start + alignUp p.size.toNat :=
        alignUp_add hstart _
      have hrest : (layFrom? owner deviceSize (number + 1) (start + alignUp p.size.toNat)
          (q :: qs)).isSome ↔ FitsFrom deviceSize (start + alignUp p.size.toNat) (q :: qs) :=
        ih ((Nat.dvd_add_right hstart).mpr (dvd_alignUp _))
          fun r hr => hsized r (List.mem_cons_of_mem _ hr)
      rw [takenSize_of_more, fitsFrom_cons, hnext, ← hrest]
      by_cases hfits : 0 < p.size.toNat ∧ start + p.size.toNat ≤ usableEnd deviceSize
      · rw [if_pos hfits, Option.isSome_map]
      · rw [if_neg hfits, hrest]
        refine ⟨fun h => absurd h Bool.false_ne_true, fun h => absurd ⟨hpos, ?_⟩ hfits⟩
        have hle : p.size.toNat ≤ alignUp p.size.toNat := le_alignUp _
        have hbefore := h.start_le
        omega

end

/-- There is a layout of a device exactly when there is room on it. -/
theorem layFrom?_isSome_iff_fits (owner : String) {desired : List Partition} {deviceSize : Nat}
    (hsize : deviceSize ≤ Decimal.max64) (hsized : ¬UnsizedInside desired) :
    (layFrom? owner deviceSize 1 alignment desired).isSome ↔ Fits desired deviceSize := by
  have hinside : ∀ p ∈ desired.dropLast, p.size ≠ 0 :=
    fun p hp hzero => hsized (unsizedInside_iff.mpr ⟨p, hp, hzero⟩)
  rw [layFrom?_isSome_iff hsize (Nat.dvd_refl _) hinside, FitsFrom, Fits]
  refine forall₂_congr fun last _ => ?_
  have hpos : 1 ≤ bytesTaken desired.dropLast last := by
    unfold bytesTaken
    omega
  unfold usableEnd
  omega

/-! ## 3. The verdict -/

/-- **A plan rejects exactly what does not fit.** The layout is invalid when a partition that is not
    the last one has no size, which is when a document that declares nothing but such a disk is
    refused. Otherwise the plan is accepted when there is room on the device, and finds too little
    space when there is none. -/
theorem plan_verdict (owner device agentId path : String) (desired : List Partition)
    (deviceSize : UInt64) (hpath : path ≠ "") :
    ((∃ reason, plan owner device desired deviceSize.toNat = .error (.invalidLayout device reason))
        ↔ UnsizedInside desired)
      ∧ (UnsizedInside desired
        ↔ ∃ e, Settings.validate ⟨agentId, NameMap.empty, some ⟨path, desired⟩⟩ = .error e)
      ∧ ((∃ planned, plan owner device desired deviceSize.toNat = .ok planned)
        ↔ ¬UnsizedInside desired ∧ Fits desired deviceSize.toNat)
      ∧ (plan owner device desired deviceSize.toNat
          = .error (.insufficientSpace device (requiredBytes desired) deviceSize.toNat)
        ↔ ¬UnsizedInside desired ∧ ¬Fits desired deviceSize.toNat) := by
  have hsize := Decimal.toNat_le_max64 deviceSize
  rw [plan_eq]
  cases hunsized : unsizedNumber? desired with
  | some number =>
    have hinside : UnsizedInside desired := by
      rw [← unsizedNumber?_isSome_iff, hunsized]
      rfl
    have hrefused := (validate_refuses_iff agentId hpath).mpr hinside
    simp [hinside, hrefused]
  | none =>
    have hsized : ¬UnsizedInside desired := unsizedNumber?_eq_none_iff.mp hunsized
    have haccepted := mt (validate_refuses_iff agentId hpath).mp hsized
    have hroom := layFrom?_isSome_iff_fits owner hsize hsized
    cases hlay : layFrom? owner deviceSize.toNat 1 alignment desired with
    | some planned =>
      have hfits : Fits desired deviceSize.toNat := hroom.mp (by rw [hlay]; rfl)
      simp [hsized, haccepted, hfits]
    | none =>
      have hfits : ¬Fits desired deviceSize.toNat := fun h => by
        have hsome := hroom.mpr h
        rw [hlay] at hsome
        cases hsome
      simp [hsized, haccepted, hfits]

/-- Swap and data on the smallest device that has room for them, the data taking a single byte. -/
theorem plan_verdict_smallest :
    Fits [⟨1048577, .swap⟩, ⟨0, .linux⟩] (4194305 : UInt64).toNat
      ∧ "/dev/sdb" ≠ ""
      ∧ ∃ planned, plan "agent-1" "/dev/sdb" [⟨1048577, .swap⟩, ⟨0, .linux⟩]
          (4194305 : UInt64).toNat = .ok planned := by
  have hfits : Fits [⟨1048577, .swap⟩, ⟨0, .linux⟩] (4194305 : UInt64).toNat := by
    intro last hlast
    cases hlast
    decide
  have hsized : ¬UnsizedInside [⟨1048577, .swap⟩, ⟨0, .linux⟩] := by
    rw [← unsizedBeforeLast_iff]
    decide
  have hpath : "/dev/sdb" ≠ "" := by decide
  have hverdict := plan_verdict "agent-1" "/dev/sdb" "agent-1" "/dev/sdb"
    [⟨1048577, .swap⟩, ⟨0, .linux⟩] 4194305 hpath
  exact ⟨hfits, hpath, hverdict.2.2.1.mpr ⟨hsized, hfits⟩⟩

end HostAgent.Disk
