import HostAgent.Settings.Disk
import HostAgent.Text.Lines
import HostAgent.Error

/-!
# Partition tables as they are printed

The machine-readable print of a partition table: a heading, a line about the device, and one line
per partition, with fields between colons. Blank lines and blanks around a line count for nothing.

* `readTable` -- the partitions of a print and the size of the device;
* an unreadable line is an error, never skipped.
-/

namespace HostAgent.Disk

/-! ## 1. Partitions on a device -/

/-- A partition as it is found on the device. -/
structure ExistingPartition where
  /-- its number in the table -/
  index : UInt32
  name : String
  size : UInt64
  type : PartitionType
  deriving DecidableEq, Repr, Inhabited

/-- The partitions of a device and its size. -/
structure Table where
  partitions : List ExistingPartition
  deviceSize : UInt64
  deriving DecidableEq, Repr, Inhabited

/-- The type that a file system stands for. -/
def typeOfFileSystem (fs : String) : PartitionType :=
  if fs.isEmpty then .empty
  else if Text.hasStart "linux-swap" fs then .swap
  else if ["ext2", "ext3", "ext4", "xfs", "btrfs"].contains fs then .linux
  else .unknown

/-! ## 2. Reading -/

/-- The text without the given characters at its end. -/
def dropTrailing (c : Char) (t : List Char) : List Char :=
  (t.reverse.dropWhile (· == c)).reverse

/-- A number of bytes, with its unit. -/
def readBytes (field : List Char) : Except Error UInt64 :=
  match Decimal.read? Decimal.max64 (dropTrailing 'B' (Text.trim field)) with
  | some n => .ok (UInt64.ofNat n)
  | none => .error (.parse ("invalid byte count '" ++ String.ofList field ++ "'"))

/-- The size in the line about the device. -/
def readDeviceLine (line : List Char) : Except Error UInt64 :=
  match Text.splitOn ':' line with
  | _ :: size :: _ => readBytes size
  | _ => .error (.parse ("malformed device line '" ++ String.ofList line ++ "'"))

/-- The partition in a line. -/
def readPartitionLine (line : List Char) : Except Error ExistingPartition :=
  match Text.splitOn ':' (dropTrailing ';' line) with
  | number :: _ :: _ :: size :: fs :: name :: _ =>
    match Decimal.read? Decimal.max32 number with
    | none => .error (.parse ("invalid partition number in '" ++ String.ofList line ++ "'"))
    | some index => do
      let size ← readBytes size
      .ok ⟨UInt32.ofNat index, String.ofList name, size, typeOfFileSystem (String.ofList fs)⟩
  | _ => .error (.parse ("malformed partition line '" ++ String.ofList line ++ "'"))

/-- The heading of a print. -/
def heading : List Char := ['B', 'Y', 'T', ';']

/-- The lines of a print that are not blank, trimmed, without the headings that it starts with. -/
def tableLines (stdout : String) : List (List Char) :=
  (((Text.lines stdout.toList).map Text.trim).filter fun l => !l.isEmpty).dropWhile (· == heading)

/-- The table in a print. -/
def readTable (stdout : String) : Except Error Table :=
  match tableLines stdout with
  | [] => .error (.parse "parted printed no device line")
  | device :: lines => do
    let deviceSize ← readDeviceLine device
    let partitions ← lines.mapM readPartitionLine
    .ok ⟨partitions, deviceSize⟩

end HostAgent.Disk
