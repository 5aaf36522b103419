import HostAgent.Settings.Network
import HostAgent.Settings.Disk
import HostAgent.Error

/-!
# The settings document

What the host is to look like: who the agent is, the networks, and the ephemeral disk.

* `Settings.validate` -- the documents that the agent can act on.
-/

namespace HostAgent

/-- The desired state of a host. -/
structure Settings where
  agentId : String := ""
  networks : Networks := NameMap.empty
  ephemeralDisk : Option EphemeralDisk := none
  deriving DecidableEq, Inhabited

/-- Why settings cannot be used. -/
inductive SettingsError where
  /-- the file cannot be read -/
  | read (path : String) (fault : Fault)
  /-- the file holds no settings -/
  | parse (path : String)
  /-- the agent cannot act on the settings -/
  | invalid (reason : String)
  deriving DecidableEq, Repr

namespace SettingsError

/-- The error in words. -/
def message : SettingsError → String
  | .read path fault => "Reading settings from " ++ path ++ ": " ++ fault.message
  | .parse path => "Parsing settings from " ++ path ++ ": " ++ jsonReason
  | .invalid reason => "Invalid settings: " ++ reason

/-- The error and what lies below it, in words. -/
def chain (e : SettingsError) : List String :=
  e.message :: match e with
    | .read _ fault => [fault.message]
    | .parse _ => [jsonReason]
    | .invalid _ => []

end SettingsError

/-- A static network needs both an address and a mask. -/
def Network.isComplete (n : Network) : Bool :=
  n.isVip || n.isDhcp || !(n.ip.isEmpty || n.netmask.isEmpty)

/-- A partition of size zero stands before the last one. -/
def unsizedBeforeLast (partitions : List Partition) : Bool :=
  partitions.dropLast.any fun p => p.size = 0

/-- What is wrong with a disk. -/
def EphemeralDisk.objection? (d : EphemeralDisk) : Option String :=
  if d.path.isEmpty then some "ephemeral disk path is empty"
  else if unsizedBeforeLast d.partitions then
    some "only the last ephemeral partition may have size 0"
  else none

/-- What is wrong with a document: the first incomplete network, else the disk. -/
def Settings.objection? (s : Settings) : Option String :=
  match s.networks.entries.find? fun e => !e.2.isComplete with
  | some e => some ("static network '" ++ e.1 ++ "' needs both ip and netmask")
  | none => s.ephemeralDisk.bind EphemeralDisk.objection?

/-- The document, unless the agent cannot act on it. -/
def Settings.validate (s : Settings) : Except SettingsError Unit :=
  match s.objection? with
  | some reason => .error (.invalid reason)
  | none => .ok ()

end HostAgent
