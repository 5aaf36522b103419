import HostAgent.Proofs.Disk.Layout
import Mathlib.Data.List.Chain
import Mathlib.Order.Bounds.Basic

/-!
# Where partitions are placed

A plan is computed in two passes: one finds the sizes, the other one the places. Both move along the
device in the same way, so they are one pass: each partition takes its size from the first free
multiple of the alignment on, as long as it ends in time. On a device whose size is a word, nothing
that ends in time leaves the range of a word.

* `alignUp_isLeast` -- rounding up gives the first multiple of the alignment that is large enough;
* `layFrom?_cons` -- the two passes as one, partition by partition;
* `layFrom?_eq_some_iff` -- what this one pass lays out;
* `IsLayout`, `LaidFrom.isLayout` -- what can be said of the layout as a whole.
-/

namespace HostAgent.Disk

/-! ## 1. Rounding up -/

/-- The multiple of the alignment at or after an offset. -/
def alignUp (offset : Nat) : Nat := (offset + (alignment - 1)) / alignment * alignment

theorem dvd_alignUp (offset : Nat) : alignment ∣ alignUp offset := Nat.dvd_mul_left _ _

theorem le_alignUp (offset : Nat) : offset ≤ alignUp offset := by
  unfold alignUp alignment
  omega

/-- **Rounding up gives the first multiple of the alignment that is large enough.** -/
theorem alignUp_isLeast (offset : Nat) :
    IsLeast {m | alignment ∣ m ∧ offset ≤ m} (alignUp offset) := by
  refine ⟨⟨dvd_alignUp offset, le_alignUp offset⟩, ?_⟩
  rintro m ⟨⟨k, rfl⟩, hle⟩
  unfold alignUp
  unfold alignment at hle ⊢
  omega

/-- A multiple of the alignment can be taken out of the rounding. -/
theorem alignUp_add {start : Nat} (h : alignment ∣ start) (n : Nat) :
    alignUp (start + n) = start + alignUp n := by
  obtain ⟨k, rfl⟩ := h
  unfold alignUp alignment
  omega

theorem word?_of_le {n : Nat} (h : n ≤ Decimal.max64) : word? n = some n := if_pos h

/-- What ends in time is a word, rounded up or not. -/
theorem alignUp_le_max64 {deviceSize n : Nat} (hsize : deviceSize ≤ Decimal.max64)
    (h : n ≤ usableEnd deviceSize) : n ≤ Decimal.max64 ∧ alignUp n ≤ Decimal.max64 := by
  unfold usableEnd at h
  unfold Decimal.max64 at hsize ⊢
  have hword : UInt64.size = 18446744073709551616 := rfl
  unfold alignUp
  unfold alignment at h ⊢
  omega

/-! ## 2. Two passes as one -/

/-- The size that a partition takes from an offset on, when others are to come later. -/
def takenSize (deviceSize start : Nat) (p : Partition) (later : List Partition) : Nat :=
  if p.size = 0 ∧ later = [] then usableEnd deviceSize - start else p.size.toNat

/-- The places of partitions from an offset and a number on, by both passes. -/
def layFrom? (owner : String) (deviceSize number start : Nat) (desired : List Partition) :
    Option (List PlannedPartition) :=
  (sizesFrom? deviceSize start desired).bind fun sizes =>
    placeFrom? owner deviceSize number start (desired.zip sizes)

/-- A plan is a layout from the first unit on, unless a partition that is not the last one has no
    size. -/
theorem plan_eq (owner device : String) (desired : List Partition) (deviceSize : Nat) :
    plan owner device desired deviceSize =
      match unsizedNumber? desired with
      | some number =>
        .error (.invalidLayout device
          ("partition " ++ Decimal.text number ++ " has no size and is not the last one"))
      | none =>
        match layFrom? owner deviceSize 1 alignment desired with
        | some planned => .ok planned
        | none => .error (.insufficientSpace device (requiredBytes desired) deviceSize) := rfl

section

variable {owner : String} {deviceSize number start : Nat} {p : Partition} {ps : List Partition}

theorem sizesFrom?_cons : sizesFrom? deviceSize start (p :: ps) =
    (word? (start + takenSize deviceSize start p ps)).bind fun stop =>
      (alignUp? stop).bind fun next =>
        (sizesFrom? deviceSize next ps).map (takenSize deviceSize start p ps :: ·) := by
  simp only [sizesFrom?, takenSize, Option.bind_eq_bind, Option.map_eq_bind]
  rfl

theorem placeFrom?_cons {size : Nat} {rest : List (Partition × Nat)} :
    placeFrom? owner deviceSize number start ((p, size) :: rest) =
      (word? (start + size)).bind fun stop =>
        if 0 < size ∧ stop ≤ usableEnd deviceSize then
          (alignUp? stop).bind fun next =>
            (placeFrom? owner deviceSize (number + 1) next rest).map
              (⟨partitionName owner number, fileSystemFor p.type, start, stop - 1⟩ :: ·)
        else none := by
  simp only [placeFrom?, Option.bind_eq_bind, Option.map_eq_bind]
  rfl

/-- **The two passes place a partition, if it ends in time, and go on behind it.** -/
theorem layFrom?_cons (hsize : deviceSize ≤ Decimal.max64) {size : Nat}
    (htaken : takenSize deviceSize start p ps = size) :
    layFrom? owner deviceSize number start (p :: ps) =
      if 0 < size ∧ start + size ≤ usableEnd deviceSize then
        (layFrom? owner deviceSize (number + 1) (alignUp (start + size)) ps).map
          (⟨partitionName owner number, fileSystemFor p.type, start, start + size - 1⟩ :: ·)
      else none := by
  rw [layFrom?, sizesFrom?_cons, htaken]
  by_cases hfits : 0 < size ∧ start + size ≤ usableEnd deviceSize
  · obtain ⟨hword, hnext⟩ := alignUp_le_max64 hsize hfits.2
    have hstop : word? (start + size) = some (start + size) := word?_of_le hword
    have halign : alignUp? (start + size) = some (alignUp (start + size)) := word?_of_le hnext
    rw [if_pos hfits, hstop, Option.bind_some, halign, Option.bind_some, layFrom?]
    cases sizesFrom? deviceSize (alignUp (start + size)) ps with
    | none => rfl
    | some sizes =>
      rw [Option.map_some, Option.bind_some, Option.bind_some, List.zip_cons_cons, placeFrom?_cons,
        hstop, Option.bind_some, if_pos hfits, halign, Option.bind_some]
  · -- where the sizes are found, the place is refused
    rw [if_neg hfits, Option.bind_eq_none_iff]
    intro sizes hsizes
    simp only [Option.bind_eq_some_iff, Option.map_eq_some_iff] at hsizes
    obtain ⟨stop, hstop, -, -, later, -, rfl⟩ := hsizes
    obtain ⟨rfl, -⟩ := word?_eq_some hstop
    rw [List.zip_cons_cons, placeFrom?_cons, hstop, Option.bind_some, if_neg hfits]

end

/-! ## 3. The layout -/

/-- Partitions laid out one behind the other, from a number and an offset on. -/
inductive LaidFrom (owner : String) (deviceSize : Nat) :
    Nat → Nat → List Partition → List PlannedPartition → Prop where
  | nil {number start : Nat} : LaidFrom owner deviceSize number start [] []
  | cons {number start : Nat} {p : Partition} {ps : List Partition} {q : PlannedPartition}
      {qs : List PlannedPartition} (name : q.name = partitionName owner number)
      (fileSystem : q.fileSystem = fileSystemFor p.type) (begins : q.start = start)
      (ordered : q.start ≤ q.stop) (ends : q.stop + 1 = start + takenSize deviceSize start p ps)
      (inside : q.stop + 1 ≤ usableEnd deviceSize)
      (later : LaidFrom owner deviceSize (number + 1) (alignUp (q.stop + 1)) ps qs) :
      LaidFrom owner deviceSize number start (p :: ps) (q :: qs)

/-- **The passes lay partitions out one behind the other**, and in no other way. -/
theorem layFrom?_eq_some_iff {owner : String} {deviceSize number start : Nat}
    (hsize : deviceSize ≤ Decimal.max64) {desired : List Partition}
    {planned : List PlannedPartition} :
    layFrom? owner deviceSize number start desired = some planned
      ↔ LaidFrom owner deviceSize number start desired planned := by
  induction desired generalizing number start planned with
  | nil =>
    constructor
    · intro h
      cases h
      exact .nil
    · intro h
      cases h
      rfl
  | cons p ps ih =>
    rw [layFrom?_cons hsize rfl]
    constructor
    · intro h
      split at h
      · rename_i hfits
        obtain ⟨qs, hqs, rfl⟩ := Option.map_eq_some_iff.mp h
        have hends : start + takenSize deviceSize start p ps - 1 + 1
            = start + takenSize deviceSize start p ps := by omega
        refine .cons rfl rfl rfl ?_ hends ?_ ?_
        · show start ≤ start + takenSize deviceSize start p ps - 1
          omega
        · exact hends.le.trans hfits.2
        · show LaidFrom owner deviceSize (number + 1)
            (alignUp (start + takenSize deviceSize start p ps - 1 + 1)) ps qs
          rw [hends]
          exact ih.mp hqs
      · cases h
    · intro h
      cases h with
      | @cons _ _ _ _ q qs name fileSystem begins ordered ends inside later =>
        have hfits : 0 < takenSize deviceSize start p ps
            ∧ start + takenSize deviceSize start p ps ≤ usableEnd deviceSize := by omega
        have hq : q = ⟨partitionName owner number, fileSystemFor p.type, start,
            start + takenSize deviceSize start p ps - 1⟩ := by
          obtain ⟨qname, qfs, qstart, qstop⟩ := q
          simp only at name fileSystem begins ends
          rw [name, fileSystem, begins, ← ends, Nat.add_sub_cancel]
        rw [if_pos hfits, ← ends, ih.mpr later, ends, hq]
        rfl

/-- The place is as long as the partition is to be; one without a size goes on to the unit that
    stays free. -/
def Takes (deviceSize : Nat) (p : Partition) (q : PlannedPartition) : Prop :=
  if p.size = 0 then q.stop + 1 + alignment = deviceSize else q.stop - q.start + 1 = p.size.toNat

/-- The planned partitions are a layout of the desired ones on a device. -/
structure IsLayout (owner : String) (deviceSize : Nat) (desired : List Partition)
    (planned : List PlannedPartition) : Prop where
  /-- there is one for each desired partition, in order -/
  takes : List.Forall₂ (Takes deviceSize) desired planned
  fileSystems : planned.map PlannedPartition.fileSystem = desired.map fun p => fileSystemFor p.type
  /-- they are numbered from one under the owner's name -/
  names : planned.map PlannedPartition.name
    = (List.range' 1 desired.length).map (partitionName owner)
  aligned : ∀ q ∈ planned, alignment ∣ q.start
  first : ∀ q ∈ planned.head?, q.start = alignment
  /-- each later one starts at the first unit above the end of the one before it -/
  next : planned.IsChain fun q r => IsLeast {m | alignment ∣ m ∧ q.stop < m} r.start
  /-- no two of them overlap -/
  apart : planned.Pairwise fun q r => q.stop < r.start
  /-- each of them ends before the unit that stays free -/
  inside : ∀ q ∈ planned, q.start ≤ q.stop ∧ q.stop + alignment < deviceSize

namespace LaidFrom

variable {owner : String} {deviceSize number start : Nat} {desired : List Partition}
  {planned : List PlannedPartition}

/-- A partition takes its size; one without a size can only be the last one. -/
theorem takes (h : LaidFrom owner deviceSize number start desired planned) :
    List.Forall₂ (Takes deviceSize) desired planned := by
  induction h with
  | nil => exact .nil
  | @cons number start p ps q qs _ _ begins ordered ends inside _ ih =>
    refine .cons ?_ ih
    unfold takenSize at ends
    unfold usableEnd at ends inside
    unfold Takes
    by_cases hp : p.size = 0
    · rw [if_pos hp]
      by_cases hps : ps = []
      · rw [if_pos ⟨hp, hps⟩] at ends
        omega
      · -- there would be no room between its start and its end
        have hzero : p.size.toNat = 0 := by rw [hp]; rfl
        rw [if_neg fun h => hps h.2] at ends
        omega
    · rw [if_neg hp]
      rw [if_neg fun h => hp h.1] at ends
      omega

theorem fileSystems (h : LaidFrom owner deviceSize number start desired planned) :
    planned.map PlannedPartition.fileSystem = desired.map fun p => fileSystemFor p.type := by
  induction h with
  | nil => rfl
  | cons _ fileSystem _ _ _ _ _ ih => rw [List.map_cons, List.map_cons, fileSystem, ih]

/-- All partitions start at multiples of the alignment, none before the offset. -/
theorem starts (h : LaidFrom owner deviceSize number start desired planned)
    (hstart : alignment ∣ start) : ∀ q ∈ planned, alignment ∣ q.start ∧ start ≤ q.start := by
  induction h with
  | nil => exact fun q hq => absurd hq List.not_mem_nil
  | @cons number start p ps q qs _ _ begins ordered _ _ _ ih =>
    intro r hr
    rcases List.mem_cons.mp hr with rfl | hr
    · exact ⟨begins ▸ hstart, begins.ge⟩
    · obtain ⟨hdvd, hle⟩ := ih (dvd_alignUp _) r hr
      have hnext := le_alignUp (q.stop + 1)
      exact ⟨hdvd, by omega⟩

theorem first (h : LaidFrom owner deviceSize number start desired planned) :
    ∀ q ∈ planned.head?, q.start = start := by
  cases h with
  | nil => exact fun q hq => absurd hq (by simp)
  | cons _ _ begins _ _ _ _ =>
    intro r hr
    rw [List.head?_cons, Option.mem_some_iff] at hr
    rw [← hr, begins]

theorem next (h : LaidFrom owner deviceSize number start desired planned) :
    planned.IsChain fun q r => IsLeast {m | alignment ∣ m ∧ q.stop < m} r.start := by
  induction h with
  | nil => exact .nil
  | @cons _ _ _ _ q _ _ _ _ _ _ _ later ih =>
    refine List.isChain_cons.mpr ⟨fun r hr => ?_, ih⟩
    rw [later.first r hr]
    exact alignUp_isLeast (q.stop + 1)

theorem apart (h : LaidFrom owner deviceSize number start desired planned) :
    planned.Pairwise fun q r => q.stop < r.start := by
  induction h with
  | nil => exact .nil
  | @cons _ _ _ _ q _ _ _ _ _ _ _ later ih =>
    refine List.pairwise_cons.mpr ⟨fun r hr => ?_, ih⟩
    have hnext := le_alignUp (q.stop + 1)
    have hstart := (later.starts (dvd_alignUp _) r hr).2
    omega

theorem inside (h : LaidFrom owner deviceSize number start desired planned) :
    ∀ q ∈ planned, q.start ≤ q.stop ∧ q.stop + alignment < deviceSize := by
  induction h with
  | nil => exact fun q hq => absurd hq List.not_mem_nil
  | cons _ _ _ ordered _ inside _ ih =>
    intro r hr
    rcases List.mem_cons.mp hr with rfl | hr
    · unfold usableEnd at inside
      exact ⟨ordered, by omega⟩
    · exact ih r hr

/-- **What is laid out from the first unit on is a layout**, when it is named as one. -/
theorem isLayout (h : LaidFrom owner deviceSize 1 alignment desired planned)
    (hnames : planned.map PlannedPartition.name
      = (List.range' 1 desired.length).map (partitionName owner)) :
    IsLayout owner deviceSize desired planned where
  takes := h.takes
  fileSystems := h.fileSystems
  names := hnames
  aligned q hq := (h.starts (Nat.dvd_refl _) q hq).1
  first := h.first
  next := h.next
  apart := h.apart
  inside := h.inside

end LaidFrom

end HostAgent.Disk
