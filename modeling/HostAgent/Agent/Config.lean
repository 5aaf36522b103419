import HostAgent.Json.Reader
import HostAgent.Json.Shape
import HostAgent.Net.Announce
import HostAgent.Retry

/-!
# The agent's configuration

Paths and policies. Every member of the configuration file may be missing, at both levels; its
default stands in for it.

* `AgentConfig.ofJson?`, `AgentConfig.toJson` -- the configuration as JSON.
-/

namespace HostAgent

open Json

/-! ## 1. Paths and policies -/

/-- Where the files about the network are. -/
structure NetPaths where
  interfaces : Path := ⟨"/etc/network/interfaces"⟩
  dhclientConf : Path := ⟨"/etc/dhcp/dhclient.conf"⟩
  resolvConf : Path := ⟨"/etc/resolv.conf"⟩
  resolvconfBase : Path := ⟨"/etc/resolvconf/resolv.conf.d/base"⟩
  resolvconfRun : Path := ⟨"/run/resolvconf/resolv.conf"⟩
  sysClassNet : Path := ⟨"/sys/class/net"⟩
  deriving DecidableEq, Repr, Inhabited

/-- Where the settings document is, unless the configuration says otherwise. -/
def defaultSettingsPath : Path := ⟨"/var/lib/cirrus/settings.json"⟩

/-- The configuration of the agent. The settings document carries the identity too, unless the
    configuration says otherwise. -/
structure AgentConfig where
  settingsPath : Path := defaultSettingsPath
  identityPath : Path := defaultSettingsPath
  partitionRetry : RetryPolicy := {}
  arping : Net.ArpingPolicy := {}
  network : NetPaths := {}
  deriving DecidableEq, Repr, Inhabited

/-! ## 2. As JSON -/

/-- A path. -/
def Path.ofJson? (v : Value) : Option Path := v.asText.map Path.mk

/-- A path as its text. -/
def Path.toJson (p : Path) : Value := .ofText p.text

/-- A retry policy. -/
def RetryPolicy.ofJson? (v : Value) : Option RetryPolicy := do
  let standard : RetryPolicy := {}
  let ms ← v.members ["max_attempts", "delay_ms"]
  let maxAttempts ← Value.optional "max_attempts" standard.maxAttempts Value.asUInt32 ms
  let delayMs ← Value.optional "delay_ms" standard.delayMs Value.asUInt64 ms
  some { maxAttempts, delayMs }

/-- A retry policy as an object. -/
def RetryPolicy.toJson (p : RetryPolicy) : Value :=
  .ofMembers [("max_attempts", .ofNat p.maxAttempts.toNat), ("delay_ms", .ofNat p.delayMs.toNat)]

/-- The retry policy in a byte string. -/
def RetryPolicy.parse? (bs : Bytes) : Option RetryPolicy := (readBytes bs).bind RetryPolicy.ofJson?

/-- An announcement policy. -/
def Net.ArpingPolicy.ofJson? (v : Value) : Option Net.ArpingPolicy := do
  let standard : Net.ArpingPolicy := {}
  let ms ← v.members
    ["iterations", "iteration_delay_ms", "interface_check_attempts", "interface_check_delay_ms"]
  let iterations ← Value.optional "iterations" standard.iterations Value.asUInt32 ms
  let iterationDelayMs ←
    Value.optional "iteration_delay_ms" standard.iterationDelayMs Value.asUInt64 ms
  let checkAttempts ←
    Value.optional "interface_check_attempts" standard.checkAttempts Value.asUInt32 ms
  let checkDelayMs ←
    Value.optional "interface_check_delay_ms" standard.checkDelayMs Value.asUInt64 ms
  some { iterations, iterationDelayMs, checkAttempts, checkDelayMs }

/-- An announcement policy as an object. -/
def Net.ArpingPolicy.toJson (p : Net.ArpingPolicy) : Value :=
  .ofMembers
    [("iterations", .ofNat p.iterations.toNat),
     ("iteration_delay_ms", .ofNat p.iterationDelayMs.toNat),
     ("interface_check_attempts", .ofNat p.checkAttempts.toNat),
     ("interface_check_delay_ms", .ofNat p.checkDelayMs.toNat)]

/-- The network paths. -/
def NetPaths.ofJson? (v : Value) : Option NetPaths := do
  let standard : NetPaths := {}
  let ms ← v.members
    ["interfaces", "dhclient_conf", "resolv_conf", "resolvconf_base", "resolvconf_run",
      "sys_class_net"]
  let interfaces ← Value.optional "interfaces" standard.interfaces Path.ofJson? ms
  let dhclientConf ← Value.optional "dhclient_conf" standard.dhclientConf Path.ofJson? ms
  let resolvConf ← Value.optional "resolv_conf" standard.resolvConf Path.ofJson? ms
  let resolvconfBase ← Value.optional "resolvconf_base" standard.resolvconfBase Path.ofJson? ms
  let resolvconfRun ← Value.optional "resolvconf_run" standard.resolvconfRun Path.ofJson? ms
  let sysClassNet ← Value.optional "sys_class_net" standard.sysClassNet Path.ofJson? ms
  some { interfaces, dhclientConf, resolvConf, resolvconfBase, resolvconfRun, sysClassNet }

/-- The network paths as an object. -/
def NetPaths.toJson (p : NetPaths) : Value :=
  .ofMembers
    [("interfaces", p.interfaces.toJson), ("dhclient_conf", p.dhclientConf.toJson),
     ("resolv_conf", p.resolvConf.toJson), ("resolvconf_base", p.resolvconfBase.toJson),
     ("resolvconf_run", p.resolvconfRun.toJson), ("sys_class_net", p.sysClassNet.toJson)]

/-- The configuration. -/
def AgentConfig.ofJson? (v : Value) : Option AgentConfig := do
  let standard : AgentConfig := {}
  let ms ← v.members ["settings_path", "identity_path", "partition_retry", "arping", "network"]
  let settingsPath ← Value.optional "settings_path" standard.settingsPath Path.ofJson? ms
  let identityPath ← Value.optional "identity_path" standard.identityPath Path.ofJson? ms
  let partitionRetry ←
    Value.optional "partition_retry" standard.partitionRetry RetryPolicy.ofJson? ms
  let arping ← Value.optional "arping" standard.arping Net.ArpingPolicy.ofJson? ms
  let network ← Value.optional "network" standard.network NetPaths.ofJson? ms
  some { settingsPath, identityPath, partitionRetry, arping, network }

/-- The configuration as an object. -/
def AgentConfig.toJson (c : AgentConfig) : Value :=
  .ofMembers
    [("settings_path", c.settingsPath.toJson), ("identity_path", c.identityPath.toJson),
     ("partition_retry", c.partitionRetry.toJson), ("arping", c.arping.toJson),
     ("network", c.network.toJson)]

/-- The configuration in a byte string. -/
def AgentConfig.parse? (bs : Bytes) : Option AgentConfig := (readBytes bs).bind AgentConfig.ofJson?

end HostAgent
