import HostAgent.Disk.Table

/-!
# Laying out a device

Where the desired partitions go: the first one at one alignment unit, each later one at the next
unit after the one before it, and one unit at the end of the device stays free for the backup table.
All positions are natural numbers that are checked against the range of a 64-bit word.

* `plan` -- the layout, or why there is none;
* `tableMatches` -- an existing table that is close enough to the desired one.
-/

namespace HostAgent.Disk

/-! ## 1. Alignment -/

/-- Partitions start at multiples of this many bytes. -/
def alignment : Nat := 1024 * 1024

/-- Sizes that differ by no more than this count as equal. -/
def sizeTolerance : Nat := 20 * alignment

/-- The number, when it fits a 64-bit word. -/
def word? (n : Nat) : Option Nat := if n ≤ Decimal.max64 then some n else none

/-- The multiple of the alignment at or after an offset, when it fits a word. -/
def alignUp? (offset : Nat) : Option Nat := word? ((offset + (alignment - 1)) / alignment * alignment)

/-- The first byte that no partition may reach. -/
def usableEnd (deviceSize : Nat) : Nat := deviceSize - alignment

/-! ## 2. Sizes -/

/-- The sizes that partitions take from an offset on; a last one of size zero takes what is left.
    There are none when the layout leaves the range of a word. -/
def sizesFrom? (deviceSize start : Nat) : List Partition → Option (List Nat)
  | [] => some []
  | p :: ps => do
    let size := if p.size = 0 ∧ ps = [] then usableEnd deviceSize - start else p.size.toNat
    let stop ← word? (start + size)
    let next ← alignUp? stop
    let sizes ← sizesFrom? deviceSize next ps
    some (size :: sizes)

/-- The sizes that the desired partitions take on a device. -/
def plannedSizes? (desired : List Partition) (deviceSize : Nat) : Option (List Nat) :=
  sizesFrom? deviceSize alignment desired

/-- The existing partition is close enough to a desired one of the given size; one without a file
    system is close enough to any type. -/
def isClose (existing : ExistingPartition) (desired : Partition) (size : Nat) : Bool :=
  (existing.type = desired.type || existing.type = .empty)
    && decide (max existing.size.toNat size - min existing.size.toNat size ≤ sizeTolerance)

/-- Every existing partition is close enough to its counterpart. -/
def allClose : List ExistingPartition → List Partition → List Nat → Bool
  | e :: es, d :: ds, size :: sizes => isClose e d size && allClose es ds sizes
  | _, _, _ => true

/-- The existing partitions are the desired ones, up to tolerance. -/
def tableMatches (existing : List ExistingPartition) (desired : List Partition) (deviceSize : Nat) :
    Bool :=
  if existing.length ≠ desired.length then false
  else
    match plannedSizes? desired deviceSize with
    | none => false
    | some sizes => allClose existing desired sizes

/-! ## 3. Plans -/

/-- A partition that is to be made, with its first and last byte. -/
structure PlannedPartition where
  name : String
  fileSystem : String
  start : Nat
  stop : Nat
  deriving DecidableEq, Repr, Inhabited

/-- The file system that a type is made with. -/
def fileSystemFor : PartitionType → String
  | .swap => "linux-swap"
  | _ => "ext4"

/-- The name of a partition: its number after the owner's prefix. -/
def partitionName (owner : String) (number : Nat) : String :=
  (if owner.isEmpty then "partition" else owner) ++ "-" ++ Decimal.text number

/-- The bytes that partitions need, each rounded up, with a unit at either end. It stops at the
    largest word. -/
def requiredBytes (desired : List Partition) : Nat :=
  desired.foldl
    (fun n p => min Decimal.max64 (n + (alignUp? p.size.toNat).getD Decimal.max64)) (2 * alignment)

/-- The planned partitions from an offset and a number on; there are none when one does not fit. -/
def placeFrom? (owner : String) (deviceSize : Nat) (number start : Nat) :
    List (Partition × Nat) → Option (List PlannedPartition)
  | [] => some []
  | (p, size) :: rest => do
    let stop ← word? (start + size)
    if 0 < size ∧ stop ≤ usableEnd deviceSize then
      let next ← alignUp? stop
      let later ← placeFrom? owner deviceSize (number + 1) next rest
      some (⟨partitionName owner number, fileSystemFor p.type, start, stop - 1⟩ :: later)
    else none

/-- The place of the first partition without a size that is not the last one, counted from one. -/
def unsizedNumber? (desired : List Partition) : Option Nat :=
  (desired.dropLast.findIdx? fun p => p.size = 0).map (· + 1)

/-- The layout of the desired partitions on a device. -/
def plan (owner device : String) (desired : List Partition) (deviceSize : Nat) :
    Except Error (List PlannedPartition) :=
  match unsizedNumber? desired with
  | some number =>
    .error (.invalidLayout device
      ("partition " ++ Decimal.text number ++ " has no size and is not the last one"))
  | none =>
    match (plannedSizes? desired deviceSize).bind fun sizes =>
        placeFrom? owner deviceSize 1 alignment (desired.zip sizes) with
    | some planned => .ok planned
    | none => .error (.insufficientSpace device (requiredBytes desired) deviceSize)

end HostAgent.Disk
