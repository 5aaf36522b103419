import HostAgent.Disk.Plan
import HostAgent.Retry

/-!
# The partition table tool

Reading and making partition tables through `parted`, `lsblk` and `partprobe`. Making a table takes
one step for the label and one per partition; each is retried.

* `getTable` -- the table of a device; a device without a label has an empty one;
* `makeTable` -- a new table with the desired partitions.
-/

namespace HostAgent.Disk

variable {S : Type}

/-- What `parted` says about a device without a label. -/
def unlabeled : String := "unrecognised disk label"

/-- The size of a device. -/
def getDeviceSize [Commands S] (device : String) : Pass S UInt64 := do
  let output ← (runCommand "lsblk" ["--nodeps", "-nb", "-o", "SIZE", device]).within
    ("Getting size of `" ++ device ++ "'")
  Pass.ofResult (readBytes output.stdout.toList)

/-- The error is that of a device without a label. -/
def isUnlabeled (e : Error) : Bool :=
  match e.stderr with
  | some words => Text.hasPart unlabeled words
  | none => false

/-- The table of a device. -/
def getTable [Commands S] (device : String) : Pass S Table := do
  match ← (runCommand "parted" ["-m", device, "unit", "B", "print"]).tried with
  | .ok output => Pass.ofResult (readTable output.stdout)
  | .error e =>
    if isUnlabeled e then
      let size ← getDeviceSize device
      return ⟨[], size⟩
    else Pass.fail (.context ("Getting partitions of `" ++ device ++ "'") e)

/-- A run of `parted`, retried. -/
def runParted [Commands S] [Clock S] (policy : RetryPolicy) (args : List String) : Pass S Unit := do
  let _ ← retryPass policy (runCommand "parted" args)
  return ()

/-- Make one planned partition. -/
def makePartition [Commands S] [Clock S] (policy : RetryPolicy) (device : String)
    (p : PlannedPartition) : Pass S Unit :=
  (runParted policy
    ["-s", device, "unit", "B", "mkpart", p.name, p.fileSystem, Decimal.text p.start,
      Decimal.text p.stop]).within ("Partitioning disk `" ++ device ++ "'")

/-- Make a table with the desired partitions, named after their owner. Nothing is done when none are
    desired. That the kernel may still see the old table is no failure. -/
def makeTable [Commands S] [Clock S] (policy : RetryPolicy) (owner device : String)
    (desired : List Partition) : Pass S Unit := do
  if desired.isEmpty then
    return ()
  let size ← getDeviceSize device
  let planned ← Pass.ofResult (plan owner device desired size.toNat)
  (runParted policy ["-s", device, "mklabel", "gpt"]).within
    ("Creating GPT label on `" ++ device ++ "'")
  Pass.forEach planned (makePartition policy device)
  (runCommand "partprobe" [device]).ignored

end HostAgent.Disk
