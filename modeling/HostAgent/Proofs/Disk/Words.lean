import HostAgent.Proofs.Disk.Placement
import HostAgent.Proofs.Text

/-!
# A layout computed on words

Positions on a device are 64-bit words. Where a sum or a product may be too large for one, it is
checked, or it stops at the largest word; every other step has to stay in range by itself. Here the
plan is computed once more, in such a way that it comes to nothing as soon as one of these other
steps leaves the range. It never does, so the plan is the same.

* `planInRange` -- the computation, step by step;
* `planInRange_eq` -- all of its steps stay in range;
* `plan_isLayout` -- so do those of every plan, and what is accepted is a layout.
-/

namespace HostAgent.Disk

/-! ## 1. Steps that are not checked -/

/-- The outcome of a computation on words: nothing, once a step that is not checked has left their
    range. -/
abbrev InRange (α : Type) : Type := Option α

namespace InRange

/-- A sum that is not checked. -/
def sum (a b : Nat) : InRange Nat := word? (a + b)

/-- A difference that is not checked. -/
def difference (a b : Nat) : InRange Nat := if b ≤ a then some (a - b) else none

/-- The computation goes on with the value of a checked step, and ends where it has none. -/
def ifAny {α β : Type} (value? : Option α) (next : α → InRange (Option β)) : InRange (Option β) :=
  match value? with
  | none => some none
  | some value => next value

theorem ifAny_none {α β : Type} (next : α → InRange (Option β)) : ifAny none next = some none := rfl

theorem ifAny_some {α β : Type} (value : α) (next : α → InRange (Option β)) :
    ifAny (some value) next = next value := rfl

end InRange

open InRange

/-- Rounding up: one more unit than fits below the offset, unless it is a multiple already. The
    product is checked. -/
def alignUpInRange (offset : Nat) : InRange (Option Nat) :=
  let units :=
    if offset % alignment = 0 then some (offset / alignment) else sum (offset / alignment) 1
  units.map fun n => word? (n * alignment)

/-- The bytes that partitions need: each step of the sum stops at the largest word. -/
def requiredInRange (desired : List Partition) : InRange Nat :=
  desired.foldlM
    (fun n p => (alignUpInRange p.size.toNat).map fun up =>
      min Decimal.max64 (n + up.getD Decimal.max64)) (2 * alignment)

/-- The sizes that partitions take: the end of each is checked. -/
def sizesInRange (deviceSize : Nat) : Nat → List Partition → InRange (Option (List Nat))
  | _, [] => some (some [])
  | start, p :: ps =>
    ifAny (word? (start + takenSize deviceSize start p ps)) fun stop =>
      (alignUpInRange stop).bind fun next? => ifAny next? fun next =>
        (sizesInRange deviceSize next ps).map fun sizes =>
          sizes.map (takenSize deviceSize start p ps :: ·)

/-- The places of partitions: the end of each is checked; its last byte is one less, and the next
    one starts at or after one more than that. -/
def placesInRange (owner : String) (deviceSize : Nat) :
    Nat → Nat → List (Partition × Nat) → InRange (Option (List PlannedPartition))
  | _, _, [] => some (some [])
  | number, start, (p, size) :: rest =>
    ifAny (word? (start + size)) fun reached =>
      if 0 < size ∧ reached ≤ usableEnd deviceSize then
        (difference reached 1).bind fun stop => (sum stop 1).bind fun after =>
          (alignUpInRange after).bind fun next? => ifAny next? fun next =>
            (placesInRange owner deviceSize (number + 1) next rest).map fun later =>
              later.map (⟨partitionName owner number, fileSystemFor p.type, start, stop⟩ :: ·)
      else some none

/-- The plan. -/
def planInRange (owner device : String) (desired : List Partition) (deviceSize : Nat) :
    InRange (Except Error (List PlannedPartition)) :=
  match unsizedNumber? desired with
  | some number =>
    some (.error (.invalidLayout device
      ("partition " ++ Decimal.text number ++ " has no size and is not the last one")))
  | none =>
    (requiredInRange desired).bind fun required =>
      (sizesInRange deviceSize alignment desired).bind fun sizes? =>
        match sizes? with
        | none => some (.error (.insufficientSpace device required deviceSize))
        | some sizes =>
          (placesInRange owner deviceSize 1 alignment (desired.zip sizes)).map fun planned? =>
            match planned? with
            | none => .error (.insufficientSpace device required deviceSize)
            | some planned => .ok planned

/-! ## 2. They stay in range -/

theorem alignUpInRange_eq {offset : Nat} (h : offset ≤ Decimal.max64) :
    alignUpInRange offset = some (alignUp? offset) := by
  by_cases hzero : offset % alignment = 0
  · have hunits : (offset + (alignment - 1)) / alignment = offset / alignment := by
      unfold alignment at hzero ⊢
      omega
    rw [alignUpInRange, if_pos hzero, Option.map_some, alignUp?, hunits]
  · have hunits : (offset + (alignment - 1)) / alignment = offset / alignment + 1 := by
      unfold alignment at hzero ⊢
      omega
    have hsum : sum (offset / alignment) 1 = some (offset / alignment + 1) := by
      have hle : offset / alignment + 1 ≤ Decimal.max64 := by
        have hpos : 1 < Decimal.max64 := by decide
        unfold alignment
        omega
      exact word?_of_le hle
    rw [alignUpInRange, if_neg hzero, hsum, Option.map_some, alignUp?, hunits]

theorem requiredInRange_eq (desired : List Partition) :
    requiredInRange desired = some (requiredBytes desired) := by
  unfold requiredInRange requiredBytes
  generalize 2 * alignment = n
  induction desired generalizing n with
  | nil => rfl
  | cons p ps ih =>
    rw [List.foldlM_cons, alignUpInRange_eq (Decimal.toNat_le_max64 p.size), List.foldl_cons, ← ih]
    rfl

theorem sizesInRange_eq (deviceSize start : Nat) (desired : List Partition) :
    sizesInRange deviceSize start desired = some (sizesFrom? deviceSize start desired) := by
  induction desired generalizing start with
  | nil => rfl
  | cons p ps ih =>
    rw [sizesInRange, sizesFrom?_cons]
    cases hstop : word? (start + takenSize deviceSize start p ps) with
    | none => rw [ifAny_none, Option.bind_none]
    | some stop =>
      obtain ⟨rfl, hle⟩ := word?_eq_some hstop
      rw [ifAny_some, alignUpInRange_eq hle, Option.bind_some, Option.bind_some]
      cases alignUp? (start + takenSize deviceSize start p ps) with
      | none => rw [ifAny_none, Option.bind_none]
      | some next => rw [ifAny_some, ih next, Option.map_some, Option.bind_some]

theorem placesInRange_eq (owner : String) (deviceSize number start : Nat)
    (sized : List (Partition × Nat)) :
    placesInRange owner deviceSize number start sized
      = some (placeFrom? owner deviceSize number start sized) := by
  induction sized generalizing number start with
  | nil => rfl
  | cons x rest ih =>
    obtain ⟨p, size⟩ := x
    rw [placesInRange, placeFrom?_cons]
    cases hreached : word? (start + size) with
    | none => rw [ifAny_none, Option.bind_none]
    | some reached =>
      obtain ⟨rfl, hle⟩ := word?_eq_some hreached
      rw [ifAny_some, Option.bind_some]
      by_cases hfits : 0 < size ∧ start + size ≤ usableEnd deviceSize
      · -- the partition is not empty, so its end has a byte before it
        have hdifference : difference (start + size) 1 = some (start + size - 1) :=
          if_pos (by omega)
        have hback : start + size - 1 + 1 = start + size := by omega
        have hsum : sum (start + size - 1) 1 = some (start + size) := by
          rw [sum, hback]
          exact hreached
        rw [if_pos hfits, if_pos hfits, hdifference, Option.bind_some, hsum, Option.bind_some,
          alignUpInRange_eq hle, Option.bind_some]
        cases alignUp? (start + size) with
        | none => rw [ifAny_none, Option.bind_none]
        | some next => rw [ifAny_some, ih, Option.map_some, Option.bind_some]
      · rw [if_neg hfits, if_neg hfits]

/-- **No step that is not checked leaves the range of a word**, whether the plan is accepted or
    not. -/
theorem planInRange_eq (owner device : String) (desired : List Partition) (deviceSize : Nat) :
    planInRange owner device desired deviceSize = some (plan owner device desired deviceSize) := by
  rw [planInRange, plan]
  cases unsizedNumber? desired with
  | some number => rfl
  | none =>
    simp only [requiredInRange_eq, sizesInRange_eq, Option.bind_some, plannedSizes?]
    cases sizesFrom? deviceSize alignment desired with
    | none => rfl
    | some sizes =>
      simp only [placesInRange_eq, Option.map_some, Option.bind_some]
      cases placeFrom? owner deviceSize 1 alignment (desired.zip sizes) with
      | none => rfl
      | some planned => rfl

/-! ## 3. Accepted plans -/

/-- **Every accepted plan is a layout of the desired partitions**, and no step of the computation
    leaves the range of a word, whether the plan is accepted or not. -/
theorem plan_isLayout (owner device : String) (desired : List Partition) (deviceSize : UInt64) :
    (∀ planned, plan owner device desired deviceSize.toNat = .ok planned →
        IsLayout owner deviceSize.toNat desired planned)
      ∧ planInRange owner device desired deviceSize.toNat
        = some (plan owner device desired deviceSize.toNat) := by
  refine ⟨fun planned hplan => ?_, planInRange_eq _ _ _ _⟩
  obtain ⟨sizes, hsizes, hplace⟩ := plan_eq_ok hplan
  have hlay : layFrom? owner deviceSize.toNat 1 alignment desired = some planned :=
    Option.bind_eq_some_iff.mpr ⟨sizes, hsizes, hplace⟩
  have hlaid := (layFrom?_eq_some_iff (Decimal.toNat_le_max64 deviceSize)).mp hlay
  exact hlaid.isLayout (plan_names hplan)

/-- Swap and data on a device whose size is no multiple of the alignment: what is left for the data
    ends where the last unit begins. -/
theorem plan_isLayout_oddDevice :
    plan "agent-1" "/dev/sdb" [⟨1073741825, .swap⟩, ⟨0, .linux⟩] (107374182401 : UInt64).toNat
        = .ok [⟨"agent-1-1", "linux-swap", 1048576, 1074790400⟩,
          ⟨"agent-1-2", "ext4", 1075838976, 107373133824⟩]
      ∧ IsLayout "agent-1" (107374182401 : UInt64).toNat [⟨1073741825, .swap⟩, ⟨0, .linux⟩]
        [⟨"agent-1-1", "linux-swap", 1048576, 1074790400⟩,
          ⟨"agent-1-2", "ext4", 1075838976, 107373133824⟩] := by
  have hplan : plan "agent-1" "/dev/sdb" [⟨1073741825, .swap⟩, ⟨0, .linux⟩]
      (107374182401 : UInt64).toNat
        = .ok [⟨"agent-1-1", "linux-swap", 1048576, 1074790400⟩,
          ⟨"agent-1-2", "ext4", 1075838976, 107373133824⟩] := by
    decide +kernel
  exact ⟨hplan, (plan_isLayout "agent-1" "/dev/sdb" _ 107374182401).1 _ hplan⟩

end HostAgent.Disk
