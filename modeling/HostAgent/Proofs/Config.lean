import HostAgent.Agent.Reconcile
import HostAgent.Host.Scripted
import HostAgent.Proofs.Json.Shape

/-!
# Partial configuration files

A configuration file may name some members of a configuration only, at both levels. It overrides
these, and the defaults stand for all others; members of other names, whatever their values, do not
matter, and neither does the order or the spelling of the file. Names are Unicode texts: with a name
that is none, such as half of a surrogate pair, a file is no configuration.

* `KeptMembers` -- a choice of members, at both levels;
* `AgentConfig.NamedBy` -- the files that name the kept members of a configuration;
* `AgentConfig.keeping` -- the kept members of a configuration, over another one;
* `AgentConfig.restores` -- a configuration that is written is read back;
* `AgentConfig.load_keeping` -- what a file that names a part of one is read as.
-/

namespace HostAgent

open Json Value

/-! ## 1. Policies and paths -/

section

variable {keeps : String → Bool} {v : Value}

/-- The kept members of a policy, over another one. -/
def RetryPolicy.keeping (keeps : String → Bool) (p base : RetryPolicy) : RetryPolicy where
  maxAttempts := if keeps "max_attempts" then p.maxAttempts else base.maxAttempts
  delayMs := if keeps "delay_ms" then p.delayMs else base.delayMs

theorem RetryPolicy.ofJson?_kept {p : RetryPolicy} (h : v.HoldsKept keeps p.toJson) :
    RetryPolicy.ofJson? v = some (p.keeping keeps {}) := by
  obtain ⟨ms, hms, hfind⟩ := h.members ["max_attempts", "delay_ms"] rfl (by decide)
  obtain ⟨hattempts, hdelay, -⟩ := by simpa only [List.forall_mem_cons] using hfind
  rw [RetryPolicy.ofJson?, hms]
  refine Eq.trans (optional_kept hattempts (Restores.uint32.restored p.maxAttempts)) ?_
  exact optional_kept hdelay (Restores.uint64.restored p.delayMs)

/-- The kept members of a policy, over another one. -/
def Net.ArpingPolicy.keeping (keeps : String → Bool) (p base : ArpingPolicy) : ArpingPolicy where
  iterations := if keeps "iterations" then p.iterations else base.iterations
  iterationDelayMs :=
    if keeps "iteration_delay_ms" then p.iterationDelayMs else base.iterationDelayMs
  checkAttempts := if keeps "interface_check_attempts" then p.checkAttempts else base.checkAttempts
  checkDelayMs := if keeps "interface_check_delay_ms" then p.checkDelayMs else base.checkDelayMs

theorem Net.ArpingPolicy.ofJson?_kept {p : ArpingPolicy} (h : v.HoldsKept keeps p.toJson) :
    ArpingPolicy.ofJson? v = some (p.keeping keeps {}) := by
  obtain ⟨ms, hms, hfind⟩ := h.members
    ["iterations", "iteration_delay_ms", "interface_check_attempts", "interface_check_delay_ms"]
    rfl (by decide)
  obtain ⟨hiterations, hdelay, hattempts, hpause, -⟩ := by
    simpa only [List.forall_mem_cons] using hfind
  rw [ArpingPolicy.ofJson?, hms]
  refine Eq.trans (optional_kept hiterations (Restores.uint32.restored p.iterations)) ?_
  refine Eq.trans (optional_kept hdelay (Restores.uint64.restored p.iterationDelayMs)) ?_
  refine Eq.trans (optional_kept hattempts (Restores.uint32.restored p.checkAttempts)) ?_
  exact optional_kept hpause (Restores.uint64.restored p.checkDelayMs)

theorem Path.restores : Restores Path.ofJson? Path.toJson where
  readable p := .text p.text
  restored _ := rfl

/-- The kept ones of the paths, over other ones. -/
def NetPaths.keeping (keeps : String → Bool) (p base : NetPaths) : NetPaths where
  interfaces := if keeps "interfaces" then p.interfaces else base.interfaces
  dhclientConf := if keeps "dhclient_conf" then p.dhclientConf else base.dhclientConf
  resolvConf := if keeps "resolv_conf" then p.resolvConf else base.resolvConf
  resolvconfBase := if keeps "resolvconf_base" then p.resolvconfBase else base.resolvconfBase
  resolvconfRun := if keeps "resolvconf_run" then p.resolvconfRun else base.resolvconfRun
  sysClassNet := if keeps "sys_class_net" then p.sysClassNet else base.sysClassNet

theorem NetPaths.ofJson?_kept {p : NetPaths} (h : v.HoldsKept keeps p.toJson) :
    NetPaths.ofJson? v = some (p.keeping keeps {}) := by
  obtain ⟨ms, hms, hfind⟩ := h.members ["interfaces", "dhclient_conf", "resolv_conf",
    "resolvconf_base", "resolvconf_run", "sys_class_net"] rfl (by decide)
  obtain ⟨hinterfaces, hdhclient, hresolv, hbase, hrun, hsys, -⟩ := by
    simpa only [List.forall_mem_cons] using hfind
  have hpath := Path.restores.restored
  rw [NetPaths.ofJson?, hms]
  refine Eq.trans (optional_kept hinterfaces (hpath p.interfaces)) ?_
  refine Eq.trans (optional_kept hdhclient (hpath p.dhclientConf)) ?_
  refine Eq.trans (optional_kept hresolv (hpath p.resolvConf)) ?_
  refine Eq.trans (optional_kept hbase (hpath p.resolvconfBase)) ?_
  refine Eq.trans (optional_kept hrun (hpath p.resolvconfRun)) ?_
  exact optional_kept hsys (hpath p.sysClassNet)

end

/-! ## 2. The configuration -/

/-- Which members of a configuration are kept, and which ones inside of a member. -/
structure KeptMembers where
  top : String → Bool
  inside : String → String → Bool

/-- Nothing is left out. -/
def KeptMembers.Everything (kept : KeptMembers) : Prop :=
  (∀ name, kept.top name = true) ∧ ∀ part name, kept.inside part name = true

theorem everything_true : KeptMembers.Everything ⟨fun _ => true, fun _ _ => true⟩ :=
  ⟨fun _ => rfl, fun _ _ => rfl⟩

namespace AgentConfig

/-- The kept members of a configuration, over another one. -/
def keeping (kept : KeptMembers) (c base : AgentConfig) : AgentConfig where
  settingsPath := if kept.top "settings_path" then c.settingsPath else base.settingsPath
  identityPath := if kept.top "identity_path" then c.identityPath else base.identityPath
  partitionRetry :=
    if kept.top "partition_retry" then
      c.partitionRetry.keeping (kept.inside "partition_retry") base.partitionRetry
    else base.partitionRetry
  arping :=
    if kept.top "arping" then c.arping.keeping (kept.inside "arping") base.arping else base.arping
  network :=
    if kept.top "network" then c.network.keeping (kept.inside "network") base.network
    else base.network

theorem keeping_everything {kept : KeptMembers} (h : kept.Everything) (c base : AgentConfig) :
    c.keeping kept base = c := by
  simp [keeping, RetryPolicy.keeping, Net.ArpingPolicy.keeping, NetPaths.keeping, h.1, h.2]

/-- The configuration as an object in which other values stand for its parts. -/
def toJsonWith (c : AgentConfig) (retry arping network : Value) : Value :=
  .ofMembers
    [("settings_path", c.settingsPath.toJson), ("identity_path", c.identityPath.toJson),
     ("partition_retry", retry), ("arping", arping), ("network", network)]

/-- The object holds exactly the kept members of a configuration, at both levels, among any members
    of other names. -/
def NamedBy (c : AgentConfig) (kept : KeptMembers) (v : Value) : Prop :=
  ∃ retry arping network,
    retry.HoldsKept (kept.inside "partition_retry") c.partitionRetry.toJson
    ∧ arping.HoldsKept (kept.inside "arping") c.arping.toJson
    ∧ network.HoldsKept (kept.inside "network") c.network.toJson
    ∧ v.HoldsKept kept.top (c.toJsonWith retry arping network)

theorem ofJson?_kept {c : AgentConfig} {kept : KeptMembers} {v : Value} (h : c.NamedBy kept v) :
    AgentConfig.ofJson? v = some (c.keeping kept {}) := by
  obtain ⟨retry, arping, network, hretry, harping, hnetwork, h⟩ := h
  obtain ⟨ms, hms, hfind⟩ := h.members ["settings_path", "identity_path", "partition_retry",
    "arping", "network"] rfl (by decide)
  obtain ⟨hsettings, hidentity, hr, ha, hn, -⟩ := by simpa only [List.forall_mem_cons] using hfind
  have hpath := Path.restores.restored
  rw [AgentConfig.ofJson?, hms]
  refine Eq.trans (optional_kept hsettings (hpath c.settingsPath)) ?_
  refine Eq.trans (optional_kept hidentity (hpath c.identityPath)) ?_
  refine Eq.trans (optional_kept hr (RetryPolicy.ofJson?_kept hretry)) ?_
  refine Eq.trans (optional_kept ha (Net.ArpingPolicy.ofJson?_kept harping)) ?_
  exact optional_kept hn (NetPaths.ofJson?_kept hnetwork)

/-- What a configuration is written as names all of it. -/
theorem namedBy_toJson {kept : KeptMembers} (h : kept.Everything) (c : AgentConfig) :
    c.NamedBy kept c.toJson :=
  ⟨_, _, _, holdsKept_all (h.2 _) _, holdsKept_all (h.2 _) _, holdsKept_all (h.2 _) _,
    holdsKept_all h.1 _⟩

/-- **A configuration that is written is read back.** -/
theorem restores : Restores AgentConfig.ofJson? AgentConfig.toJson where
  readable c := by
    have hretry : c.partitionRetry.toJson.Readable := .object (by simp [Readable.natural])
    have harping : c.arping.toJson.Readable := .object (by simp [Readable.natural])
    have hpath := Path.restores.readable
    have hnetwork : c.network.toJson.Readable := .object (by simp [hpath])
    exact .object (by simp [hpath, hretry, harping, hnetwork])
  restored c := by
    rw [ofJson?_kept (namedBy_toJson everything_true c), keeping_everything everything_true]

/-- **A file overrides what it names, and nothing else.** Whatever members of a configuration a file
    holds, in whatever order and spelling and among whatever other members, it is read as the
    configuration with these members and the default of every other one; and when it holds them all,
    as the configuration itself. -/
theorem load_keeping {H : Type} [Files H] {h : H} {path : Path} {c : AgentConfig}
    {kept : KeptMembers} {v : Value} {t : List Char} (hnamed : c.NamedBy kept v)
    (hspells : Spells v t) (hfile : Files.contents h path = .ok (Utf8.encode (String.ofList t))) :
    AgentConfig.load h (some path) = .ok (c.keeping kept {})
      ∧ (kept.Everything → AgentConfig.load h (some path) = .ok c) := by
  have hload : AgentConfig.load h (some path) = .ok (c.keeping kept {}) := by
    rw [AgentConfig.load, hfile]
    simp only [AgentConfig.parse?, hspells.readBytes, Option.bind_some, ofJson?_kept hnamed]
  exact ⟨hload, fun hall => by rw [hload, keeping_everything hall]⟩

/-- A configuration of which a file names a part. -/
def ownConfig : AgentConfig :=
  { settingsPath := ⟨"/srv/settings.json"⟩, identityPath := ⟨"/srv/id.json"⟩,
    partitionRetry := ⟨5, 500⟩ }

/-- The identity path, and one member of the retry policy. -/
def someMembers : KeptMembers where
  top name := name = "identity_path" ∨ name = "partition_retry"
  inside part name := part = "partition_retry" ∧ name = "delay_ms"

/-- A policy in a file, with a member that nobody knows. -/
def partialRetry : Value := .ofMembers [("delay_ms", .ofNat 500), ("arping", .bool true)]

/-- A file with these members, and with one that nobody knows. -/
def partialFile : Value :=
  .ofMembers
    [("later", .array [.null, .ofText "x"]), ("partition_retry", partialRetry),
     ("identity_path", .ofText "/srv/id.json")]

/-- The text of the file, on lines of its own. -/
def partialText : List Char := ['\n'] ++ (partialFile.print ++ ['\n'])

/-- A host with nothing but a configuration file. -/
def configHost (bs : Bytes) : Scripted := ({} : Scripted).putFile ⟨"/etc/agent.json"⟩ bs

theorem contents_configHost (bs : Bytes) :
    Files.contents (configHost bs) ⟨"/etc/agent.json"⟩ = .ok bs := by
  have hfile : (configHost bs).fileAt? ⟨"/etc/agent.json"⟩ = some bs :=
    (Assoc.get?_set _ _ bs []).trans (if_pos rfl)
  show Scripted.contents _ _ = _
  rw [Scripted.contents, hfile]

/-- The defaults stand for the settings path and for the number of attempts; but all of it is read
    from a file that names it all. -/
theorem load_keeping_partial :
    ownConfig.NamedBy someMembers partialFile ∧ Spells partialFile partialText
      ∧ AgentConfig.load (configHost (Utf8.encode (String.ofList partialText)))
          (some ⟨"/etc/agent.json"⟩)
        = .ok { identityPath := ⟨"/srv/id.json"⟩, partitionRetry := { delayMs := 500 } }
      ∧ AgentConfig.load (configHost (Utf8.encode ownConfig.toJson.compact))
          (some ⟨"/etc/agent.json"⟩) = .ok ownConfig := by
  have hnamed : ownConfig.NamedBy someMembers partialFile := by
    refine ⟨partialRetry, _, _, ?_, holdsKept_filter _ _, holdsKept_filter _ _, ?_⟩
    · refine ⟨_, _, [("arping", .bool true)], rfl, rfl, ?_, by decide⟩
      simp [someMembers, ownConfig]
    · refine ⟨_, _, [("later", .array [.null, .ofText "x"])], rfl, rfl, ?_, by decide⟩
      have horder := List.reverse_perm [("identity_path", .ofText "/srv/id.json"),
        ("partition_retry", partialRetry), ("later", .array [.null, .ofText "x"])]
      simpa [someMembers, ownConfig, Path.toJson] using horder
  have hspells : Spells partialFile partialText := by
    have hblank : Blanks ['\n'] := by simp [Blanks, isSpace]
    have hlater : (Value.array [.null, .ofText "x"]).Readable :=
      .array (by simp [Readable.null, Readable.text])
    have hretry : partialRetry.Readable := .object (by simp [Readable.natural, Readable.bool])
    have hfile : partialFile.Readable := .object (by simp [hlater, hretry, Readable.text])
    exact .padded hblank hfile.spells hblank
  have hwhole := load_keeping (namedBy_toJson everything_true ownConfig)
    (restores.readable ownConfig).spells (contents_configHost _)
  exact ⟨hnamed, hspells, (load_keeping hnamed hspells (contents_configHost _)).1,
    hwhole.2 everything_true⟩

end AgentConfig

end HostAgent
