import HostAgent.Agent.Failure
import HostAgent.Net.Converge

/-!
# Reconciliation

One pass over a host: networking first, then the ephemeral disk, and last the announcement of
addresses, which goes on in the background and whose outcome nobody waits for.

* `Reconcile.network`, `Reconcile.partition`, `Reconcile.apply` -- the parts and the whole;
* `Reconcile.interfaces`, `Reconcile.deviceSize` -- questions about the host.
-/

namespace HostAgent

variable {H : Type}

/-- Work of an agent on a host that may end in a failure. -/
abbrev Work (H α : Type) := Agent H → Except Failure α × Agent H

/-- A pass as a step that a failure names. -/
def step {α : Type} (name : String) (p : Pass (Agent H) α) : Work H α := fun a =>
  ((p a).1.mapError fun e => .during name (.pass e), (p a).2)

namespace Reconcile

/-- Policies for a disk that is made and removed alike. -/
def diskPolicy (config : AgentConfig) : Disk.DiskPolicy :=
  ⟨config.partitionRetry, config.partitionRetry⟩

/-- Bring a device to the desired layout, and remember its owner. -/
def partitionDevice [Host H] (policy : Disk.DiskPolicy) (identityPath : Path) (device : String)
    (desired : List Partition) : Pass (Agent H) Unit := do
  rememberOwner identityPath
  Disk.partitionDisk policy identityPath device desired

/-- Announce addresses in the background, when there are any. -/
def background [Host H] (config : AgentConfig) (addresses : Option (List Net.InterfaceAddress)) :
    Pass (Agent H) Unit :=
  match addresses with
  | none => pure ()
  | some l => (Net.announceAll config.arping config.network.sysClassNet l).ignored

/-- Bring networking to the settings. -/
def converge [Host H] (config : AgentConfig) (settings : Settings) :
    Work H (Option (List Net.InterfaceAddress)) :=
  step "Failed to set up networking" (Net.setupNetworking config.network settings.networks)

/-- Bring networking to the settings, and wait for the announcement. -/
def network [Host H] (config : AgentConfig) (settings : Settings) : Work H Unit := fun a =>
  match converge config settings a with
  | (.error f, a) => (.error f, a)
  | (.ok addresses, a) => (.ok (), (background config addresses a).2)

/-- Bring the ephemeral disk to the settings, when there is one. -/
def partition [Host H] (config : AgentConfig) (settings : Settings) : Work H Unit :=
  match settings.ephemeralDisk with
  | none => fun a => (.ok (), a)
  | some disk =>
    step ("Failed to partition ephemeral disk " ++ disk.path)
      (partitionDevice (diskPolicy config) config.identityPath disk.path disk.partitions)

/-- Bring networking and disk to the settings; addresses are announced once the disk is done. -/
def apply [Host H] (config : AgentConfig) (settings : Settings) : Work H Unit := fun a =>
  match converge config settings a with
  | (.error f, a) => (.error f, a)
  | (.ok addresses, a) =>
    let (result, a) := partition config settings a
    (result, (background config addresses a).2)

/-- The interfaces that the host knows how to configure. -/
def interfaces [Host H] (config : AgentConfig) : Work H (List String) :=
  step "Failed to list configured interfaces" (Net.getConfiguredInterfaces config.network)

/-- The size of a device. -/
def deviceSize [Host H] (device : String) : Work H UInt64 :=
  step ("Failed to get size of " ++ device) (Disk.getDeviceSize device)

end Reconcile

/-! ## Documents on the host -/

/-- The configuration in a file, or the standing one when no file is named. -/
def AgentConfig.load [Files H] (h : H) : Option Path → Except Failure AgentConfig
  | none => .ok {}
  | some path =>
    match Files.contents h path with
    | .error fault => .error (.during ("Failed to read config file " ++ path.text) (.unreadable fault))
    | .ok bs =>
      match AgentConfig.parse? bs with
      | none => .error (.during ("Failed to parse config file " ++ path.text) .malformed)
      | some config => .ok config

/-- The settings in a file, when the agent can act on them. -/
def Settings.load [Files H] (h : H) (path : Path) : Except SettingsError Settings :=
  Settings.ofContents path (Files.contents h path)

end HostAgent
