import HostAgent.Disk.Parted
import HostAgent.Settings.Json
import HostAgent.Text.DecimalDigit

/-!
# The ephemeral disk of one agent

Partitions bear the name of the agent that made them. A table of the desired shape that bears this
agent's name is left alone; any other one is wiped and made anew.

* `agentId` -- who the agent is, from its identity file;
* `partitionPaths` -- the partitions of a device among the signatures on the host;
* `partitionDisk` -- the whole pass.
-/

namespace HostAgent.Disk

variable {S : Type}

/-! ## 1. Identity -/

/-- The identity in the contents of the file at a path. A blank one is none. -/
def identityOf (path : Path) (contents : Except Fault Bytes) : Except Error String :=
  match contents with
  | .error fault => .error (.identity path.text (Error.io path.text fault).message)
  | .ok bs =>
    match (Json.readBytes bs).bind agentIdOfJson? with
    | none => .error (.identity path.text ("malformed identity: " ++ jsonReason))
    | some id =>
      if Text.allBlank id then .error (.identity path.text "agent_id is empty") else .ok id

/-- Who the agent is. -/
def agentId [Files S] (s : S) (identityPath : Path) : Except Error String :=
  identityOf identityPath (Files.contents s identityPath)

/-- Ask who the agent is. -/
def getAgentId [Files S] (identityPath : Path) : Pass S String :=
  fun s => (agentId s identityPath, s)

/-! ## 2. Partition paths -/

/-- What stands between a device and a partition number: a device that ends in a digit has a letter
    there. -/
def partitionSeparator (device : List Char) : List Char :=
  match device.getLast? with
  | some c => if c.isDigit then ['p'] else []
  | none => []

/-- The partition of the device that a line about a signature starts with. -/
def partitionPath? (device : List Char) (line : List Char) : Option (List Char) := do
  let rest ← Text.after? (device ++ partitionSeparator device) line
  let number := rest.takeWhile Text.isDecimalDigit
  if number.isEmpty then none
  else if (rest.drop number.length).head? = some ':' then
    some (device ++ partitionSeparator device ++ number)
  else none

/-- The members of a list, each at its first place only. -/
def firstPlaces {α : Type} [DecidableEq α] (l : List α) : List α :=
  l.foldl (fun seen x => if x ∈ seen then seen else seen ++ [x]) []

/-- The partitions of a device among the lines about signatures. -/
def partitionPaths (device stdout : String) : List String :=
  (firstPlaces ((Text.lines stdout.toList).filterMap fun line =>
    partitionPath? device.toList (Text.trim line))).map String.ofList

/-- The partitions of a device that bear signatures. The tool's second exit status says that there
    are none to report. -/
def getPartitionPaths [Commands S] (device : String) : Pass S (List String) := do
  match ← (runCommand "blkid" []).tried with
  | .ok output => return partitionPaths device output.stdout
  | .error (.commandFailed _ 2 _ _) => return partitionPaths device ""
  | .error e => Pass.fail (.context "Listing block device signatures" e)

/-! ## 3. Removal -/

/-- Erase the signatures of a partition. -/
def erasePath [Commands S] [Clock S] (policy : RetryPolicy) (path : String) : Pass S Unit :=
  (do
    let _ ← retryPass policy (runCommand "wipefs" ["-a", path])
    return ()).within ("Erasing partition path `" ++ path ++ "'")

/-- Remove a partition from the table. -/
def removePartition [Commands S] [Clock S] (policy : RetryPolicy) (device : String)
    (p : ExistingPartition) : Pass S Unit :=
  let index := Decimal.text p.index.toNat
  (runParted policy ["-s", device, "rm", index]).within
    ("Removing partition " ++ index ++ " from `" ++ device ++ "'")

/-- Erase and remove the existing partitions of a device. -/
def removePartitions [Commands S] [Clock S] (policy : RetryPolicy) (device : String)
    (existing : List ExistingPartition) : Pass S Unit := do
  if existing.isEmpty then
    return ()
  let paths ← getPartitionPaths device
  Pass.forEach paths (erasePath policy)
  Pass.forEach existing (removePartition policy device)

/-! ## 4. The pass -/

/-- A partition's name starts with the owner's. -/
def isOwned (owner : String) (existing : List ExistingPartition) : Bool :=
  existing.any fun p => Text.hasStart owner p.name

/-- Policies for the two kinds of steps: removing old partitions, and making new ones. -/
structure DiskPolicy where
  removal : RetryPolicy
  creation : RetryPolicy

/-- Bring a device to the desired layout, under the name of the given owner. -/
def partitionAs [Commands S] [Clock S] (policy : DiskPolicy) (owner device : String)
    (desired : List Partition) : Pass S Unit := do
  let table ← (getTable device).within ("Getting existing partitions of `" ++ device ++ "'")
  if isOwned owner table.partitions
      && tableMatches table.partitions desired table.deviceSize.toNat then
    return ()
  (removePartitions policy.removal device table.partitions).within
    ("Removing existing partitions of `" ++ device ++ "'")
  (makeTable policy.creation owner device desired).within
    ("Partitioning ephemeral disk `" ++ device ++ "'")

/-- Bring a device to the desired layout. -/
def partitionDisk [Commands S] [Files S] [Clock S] (policy : DiskPolicy) (identityPath : Path)
    (device : String) (desired : List Partition) : Pass S Unit := do
  let owner ← (getAgentId identityPath).within "Getting agent ID"
  partitionAs policy owner device desired

end HostAgent.Disk
