import HostAgent.Text.Decimal

/-!
# Declared partitions

The layout that the ephemeral disk is to have: partitions in order, each with a size and a type. A
last partition of size zero takes the rest of the device.
-/

namespace HostAgent

/-- What a partition is for. -/
inductive PartitionType where
  | swap
  | linux
  | empty
  | unknown
  | gpt
  deriving DecidableEq, Repr, Inhabited

namespace PartitionType

/-- The name of the type. -/
def name : PartitionType → String
  | .swap => "swap"
  | .linux => "linux"
  | .empty => "empty"
  | .unknown => "unknown"
  | .gpt => "gpt"

/-- All types, by name. -/
def named : List (String × PartitionType) :=
  [.swap, .linux, .empty, .unknown, .gpt].map fun t => (t.name, t)

end PartitionType

/-- A desired partition. -/
structure Partition where
  size : UInt64
  type : PartitionType := .linux
  deriving DecidableEq, Repr, Inhabited

/-- The partition in words. -/
def Partition.text (p : Partition) : String :=
  "[Type: " ++ p.type.name ++ ", SizeInBytes: " ++ Decimal.text p.size.toNat ++ "]"

/-- The ephemeral disk and the partitions that it is to have. -/
structure EphemeralDisk where
  path : String
  partitions : List Partition := []
  deriving DecidableEq, Repr, Inhabited

end HostAgent
