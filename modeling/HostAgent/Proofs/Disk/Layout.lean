import HostAgent.Disk.Plan
import Mathlib.Data.List.Forall2

/-!
# What a plan says

A plan takes the sizes of the desired partitions, in order, and gives each of them its place and its
number.

* `plan_eq_ok` -- a plan is the placement of the planned sizes;
* `placeFrom?_fills` -- a place is as long as the size that it was made for, and ends in time;
* `plan_names` -- the names are the owner's, numbered from one.
-/

namespace HostAgent.Disk

theorem word?_eq_some {n m : Nat} (h : word? n = some m) : m = n ∧ n ≤ Decimal.max64 := by
  unfold word? at h
  split at h
  · rename_i hn
    exact ⟨(Option.some.inj h).symm, hn⟩
  · cases h

/-! ## 1. Sizes -/

/-- There is one size for each partition. -/
theorem sizesFrom?_length {deviceSize start : Nat} {desired : List Partition} {sizes : List Nat}
    (h : sizesFrom? deviceSize start desired = some sizes) : sizes.length = desired.length := by
  induction desired generalizing start sizes with
  | nil =>
    cases h
    rfl
  | cons p ps ih =>
    simp only [sizesFrom?, Option.bind_eq_bind, Option.bind_eq_some_iff, Option.some.injEq] at h
    obtain ⟨stop, -, next, -, rest, hrest, rfl⟩ := h
    rw [List.length_cons, List.length_cons, ih hrest]

/-! ## 2. Places -/

/-- A place that a partition of the given size has on a device: it is as long as the size, which is
    not zero, and it ends before the unit that stays free. -/
structure Fills (deviceSize : Nat) (sized : Partition × Nat) (p : PlannedPartition) : Prop where
  fileSystem : p.fileSystem = fileSystemFor sized.1.type
  length : p.start + sized.2 = p.stop + 1
  positive : 0 < sized.2
  inside : p.stop + 1 ≤ usableEnd deviceSize

/-- Each partition gets one place, which fits its size. -/
theorem placeFrom?_fills {owner : String} {deviceSize number start : Nat}
    {sized : List (Partition × Nat)} {planned : List PlannedPartition}
    (h : placeFrom? owner deviceSize number start sized = some planned) :
    List.Forall₂ (Fills deviceSize) sized planned := by
  induction sized generalizing number start planned with
  | nil =>
    cases h
    exact .nil
  | cons x rest ih =>
    obtain ⟨p, size⟩ := x
    simp only [placeFrom?, Option.bind_eq_bind, Option.bind_eq_some_iff] at h
    obtain ⟨stop, hstop, h⟩ := h
    obtain ⟨rfl, -⟩ := word?_eq_some hstop
    split at h
    · rename_i hfit
      simp only [Option.bind_eq_some_iff, Option.some.injEq] at h
      obtain ⟨next, -, later, hlater, rfl⟩ := h
      have hlen : start + size = start + size - 1 + 1 := by omega
      refine .cons ⟨rfl, hlen, hfit.1, ?_⟩ (ih hlater)
      show start + size - 1 + 1 ≤ usableEnd deviceSize
      rw [← hlen]
      exact hfit.2
    · cases h

/-- The places are named after their owner, by consecutive numbers. -/
theorem placeFrom?_names {owner : String} {deviceSize number start : Nat}
    {sized : List (Partition × Nat)} {planned : List PlannedPartition}
    (h : placeFrom? owner deviceSize number start sized = some planned) :
    planned.map PlannedPartition.name
      = (List.range' number sized.length).map (partitionName owner) := by
  induction sized generalizing number start planned with
  | nil =>
    cases h
    rfl
  | cons x rest ih =>
    obtain ⟨p, size⟩ := x
    simp only [placeFrom?, Option.bind_eq_bind, Option.bind_eq_some_iff] at h
    obtain ⟨stop, -, h⟩ := h
    split at h
    · simp only [Option.bind_eq_some_iff, Option.some.injEq] at h
      obtain ⟨next, -, later, hlater, rfl⟩ := h
      rw [List.map_cons, ih hlater, List.length_cons, List.range'_succ, List.map_cons]
    · cases h

/-! ## 3. The plan -/

/-- **A plan is the placement of the planned sizes.** -/
theorem plan_eq_ok {owner device : String} {desired : List Partition} {deviceSize : Nat}
    {planned : List PlannedPartition} (h : plan owner device desired deviceSize = .ok planned) :
    ∃ sizes, plannedSizes? desired deviceSize = some sizes
      ∧ placeFrom? owner deviceSize 1 alignment (desired.zip sizes) = some planned := by
  unfold plan at h
  split at h
  · cases h
  · split at h
    · rename_i planned' hplace
      obtain ⟨sizes, hsizes, hplace⟩ := Option.bind_eq_some_iff.mp hplace
      cases h
      exact ⟨sizes, hsizes, hplace⟩
    · cases h

/-- The name of an owner's partition. -/
theorem partitionName_of_owner {owner : String} (h : owner.isEmpty = false) (number : Nat) :
    partitionName owner number = owner ++ "-" ++ Decimal.text number := by
  rw [partitionName, h, if_neg Bool.false_ne_true]

/-- **The planned partitions are named after their owner**, by their numbers from one on. -/
theorem plan_names {owner device : String} {desired : List Partition} {deviceSize : Nat}
    {planned : List PlannedPartition} (h : plan owner device desired deviceSize = .ok planned) :
    planned.map PlannedPartition.name
      = (List.range' 1 desired.length).map (partitionName owner) := by
  obtain ⟨sizes, hsizes, hplace⟩ := plan_eq_ok h
  have hlen : (desired.zip sizes).length = desired.length := by
    rw [List.length_zip, sizesFrom?_length hsizes, Nat.min_self]
  rw [placeFrom?_names hplace, hlen]

/-- There is one planned partition for each desired one. -/
theorem plan_length {owner device : String} {desired : List Partition} {deviceSize : Nat}
    {planned : List PlannedPartition} (h : plan owner device desired deviceSize = .ok planned) :
    planned.length = desired.length := by
  rw [← List.length_map PlannedPartition.name, plan_names h, List.length_map, List.length_range']

end HostAgent.Disk
