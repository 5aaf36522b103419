import HostAgent.Agent.Reconcile
import HostAgent.Proofs.Disk.Kept
import HostAgent.Proofs.Net.Announcements
import HostAgent.Proofs.Net.Order

/-!
# One pass over a host

The network comes first, then the disk, and last the announcement. A failure of the network ends the
pass before the disk is touched. The announcement comes too late to matter, and what it asks is
asked by nobody else: whatever its commands are answered, the pass ends alike and has done the same
until then.

* `NetworkPass.commands`, `partitionDisk_commands` -- the tools of the network, and those of the disk;
* `network_log`, `apply_log` -- the log of a whole pass is put together from those of its parts;
* `Applies` -- the three parts of a pass, each with its log;
* `apply_applies` -- every pass falls into them, and nobody waits for the last one.
-/

namespace HostAgent

/-! ## 1. Commands of the foreground -/

namespace Net

/-- **The commands of the network** are those of its tools; the one that asks for addresses asks for
    all of them. -/
theorem NetworkPass.commands {paths : NetPaths} {networks : Networks} {a : Agent Scripted}
    {log : List Event} {r : Except Error (Option (List InterfaceAddress))} {phase : Phase}
    (h : NetworkPass paths networks a log r phase) {c : CommandLine} (hc : c ∈ commandsIn log) :
    c = listAddresses ∨ c.name ∈ netTools := by
  obtain ⟨resolver, kernel, bounce, check, rfl, hparts⟩ := h.parts
  simp only [commandsIn_append, List.mem_append] at hc
  rcases hc with ((hc | hc) | hc) | hc
  · rw [hparts.onResolver.command hc]
    exact Or.inr (by decide)
  · obtain ⟨_, hran, hall⟩ := hparts.onKernel.ran
    rw [hran.commandsIn_eq] at hc
    obtain ⟨switch, rfl⟩ := hall c hc
    exact Or.inr (by simp [setSwitchLine, netTools])
  · rcases hparts.restart with rfl | ⟨_, found, config, -, -, -, -, hbounce⟩
    · cases hc
    · rw [hbounce.commands] at hc
      rcases List.mem_append.mp hc with hc | hc
      · rcases List.mem_cons.mp hc with rfl | hc
        · exact Or.inr (by decide)
        · obtain ⟨interface, -, rfl⟩ := List.mem_map.mp hc
          exact Or.inr (by simp [dropLease, netTools])
      · simp only [List.mem_cons, List.not_mem_nil, or_false] at hc
        rcases hc with rfl | rfl
        · exact Or.inr (by simp [takeDown, netTools])
        · exact Or.inr (by simp [bringUp, netTools])
  · obtain ⟨_, hran, hall⟩ := hparts.checked.ran
    rw [hran.commandsIn_eq] at hc
    exact Or.inl (hall c hc)

end Net

namespace Disk

/-- **The commands of the disk** are those of its tools. -/
theorem partitionDisk_commands {H : Type} [Host H] (policy : DiskPolicy) (identityPath : Path)
    (device : String) (desired : List Partition) (a : Agent H) :
    (partitionDisk policy identityPath device desired).EndsOn Agent.host a fun log _ _ =>
      ∀ c ∈ commandsIn log, c.name ∈ diskTools := by
  refine (partitionDisk_goes policy identityPath device desired a).onHost ?_
  intro log r b h _ _ c hc
  have hstep : ∀ step : DiskStep, (step.command device).name ∈ diskTools := by
    intro step
    cases step <;> simp [DiskStep.command, diskTools]
  cases hid : agentId a identityPath with
  | error e =>
    rw [hid] at h
    rw [h.2] at hc
    cases hc
  | ok owner =>
    rw [hid] at h
    obtain ⟨facts, -, hgoes⟩ := h
    obtain ⟨step, -, rfl⟩ := hgoes.commands hc
    exact hstep step

end Disk

namespace Reconcile

/-! ## 2. The parts of a pass -/

section

variable {H K : Type} [Host H] [Host K] {R : H → K → Prop}

omit [Host H] [Host K] in
theorem step_blind {α : Type} {p : Pass (Agent H) α} {q : Pass (Agent K) α}
    (hp : Blind (Agent.Like R) p q) (name : String) :
    Blind (Agent.Like R) (step name p) (step name q) := by
  intro a b hab
  obtain ⟨hresult, hafter⟩ := hp hab
  refine ⟨?_, hafter⟩
  unfold step
  rw [hresult]

/-- The network cannot see what the background is answered. -/
theorem converge_blind (h : Likeness InFront R) (config : AgentConfig) (settings : Settings) :
    Blind (Agent.Like R) (converge config settings) (converge config settings) :=
  step_blind (Net.setupNetworking_blind h _ _) _

theorem rememberOwner_blind (h : Likeness InFront R) (identityPath : Path) :
    Blind (Agent.Like R) (rememberOwner identityPath) (rememberOwner identityPath) := by
  intro a b hab
  have hid : Disk.agentId b.host identityPath = Disk.agentId a.host identityPath := by
    rw [Disk.agentId, Disk.agentId, h.contents hab.host]
  unfold rememberOwner Pass.change
  dsimp only
  rw [hid]
  cases Disk.agentId a.host identityPath with
  | ok owner => exact ⟨rfl, hab.host, hab.phase, rfl⟩
  | error e => exact ⟨rfl, hab⟩

/-- Nor can the disk. -/
theorem partition_blind (h : Likeness InFront R) (config : AgentConfig) (settings : Settings) :
    Blind (Agent.Like R) (partition config settings) (partition config settings) := by
  unfold partition
  cases settings.ephemeralDisk with
  | none => exact fun _ _ hab => ⟨rfl, hab⟩
  | some disk =>
    exact step_blind (.bind (rememberOwner_blind h _) fun _ =>
      Disk.partitionDisk_blind h.agent _ _ _ _) _

theorem background_blind (h : Likeness (fun _ => True) R) (config : AgentConfig)
    (addresses : Option (List Net.InterfaceAddress)) :
    Blind (Agent.Like R) (background config addresses) (background config addresses) := by
  cases addresses with
  | none => exact .done ()
  | some l => exact (Net.announceAll_blind h.agent _ _ l).ignored

end

section

variable {H : Type} [Host H] {config : AgentConfig} {settings : Settings} {a b : Agent H}

/-- The network, on a host with a log. -/
theorem converge_logged {r : Except Failure (Option (List Net.InterfaceAddress))}
    (hconverge : converge config settings a = (r, b)) :
    ∃ b', converge config settings a.logged = (r, b') ∧ b'.plain = b
      ∧ b'.host.log = logBy (converge config settings) a := by
  have hplain := (converge_blind (Logged.inFront (H := H)) config settings).plain a.logged
  refine ⟨(converge config settings a.logged).2, ?_, ?_, rfl⟩
  · refine Prod.ext ?_ rfl
    exact (congrArg Prod.fst hplain).symm.trans (congrArg Prod.fst hconverge)
  · exact (congrArg Prod.snd hplain).symm.trans (congrArg Prod.snd hconverge)

/-- **A pass over the network alone** asks what the network takes, and then hands its addresses
    over. -/
theorem network_log {addresses : Option (List Net.InterfaceAddress)}
    (hconverge : converge config settings a = (.ok addresses, b)) :
    logBy (network config settings) a
      = logBy (converge config settings) a ++ logBy (background config addresses) b := by
  obtain ⟨b', hlogged, rfl, hlog⟩ := converge_logged hconverge
  have hair := (background_blind (Logged.likeness_since b'.host.log) config addresses).log_append
  rw [← hlog, ← hair]
  unfold logBy network
  rw [hlogged]

/-- **A whole pass** does so once it has been over the disk. -/
theorem apply_log {addresses : Option (List Net.InterfaceAddress)}
    (hconverge : converge config settings a = (.ok addresses, b)) :
    logBy (apply config settings) a
      = logBy (converge config settings) a ++ logBy (partition config settings) b
        ++ logBy (background config addresses) (partition config settings b).2 := by
  obtain ⟨b', hlogged, rfl, hlog⟩ := converge_logged hconverge
  have hplain := (partition_blind (Logged.inFront (H := H)) config settings).plain b'
  have hdisk := (partition_blind ((Logged.likeness_since b'.host.log).mono fun _ _ => trivial)
    config settings).log_append
  have hair := (background_blind (Logged.likeness_since (partition config settings b').2.host.log)
    config addresses).log_append
  rw [hplain, ← hlog, ← hdisk, ← hair]
  unfold logBy apply
  rw [hlogged]

/-- A network that fails is all there is. -/
theorem failed_log {f : Failure} (hconverge : converge config settings a = (.error f, b)) :
    logBy (network config settings) a = logBy (converge config settings) a
      ∧ logBy (apply config settings) a = logBy (converge config settings) a := by
  obtain ⟨b', hlogged, -, hlog⟩ := converge_logged hconverge
  rw [← hlog]
  unfold logBy network apply
  rw [hlogged]
  exact ⟨rfl, rfl⟩

end

/-! ## 3. The logs of the parts -/

section

variable (config : AgentConfig) (settings : Settings)

/-- **The network runs none of the tools for disks**, and asks nothing that the background does. -/
theorem converge_log (a : Agent Scripted) :
    let net := logBy (converge config settings) a
    Leads net a.host (converge config settings a).2.host
      ∧ (∀ line ∈ linesIn net, ∀ tool ∈ diskTools, Text.hasStart tool line = false)
      ∧ ∀ line ∈ linesIn net, isBackground line = false := by
  have hapart : ∀ name ∈ "ip" :: netTools, ∀ tool ∈ diskTools,
      ¬ tool.toList <+: name.toList ∧ ¬ name.toList <+: tool.toList := by decide
  obtain ⟨hleads, hgoes⟩ := Net.NetworkPass.of_eq
    (Prod.eta (Net.setupNetworking config.network settings.networks a)).symm
  refine ⟨hleads, fun line hline tool htool => ?_, fun line hline => ?_⟩
  · obtain ⟨c, hc, rfl⟩ := List.mem_map.mp hline
    refine not_hasStart c.text_starts (hapart c.name ?_ tool htool)
    rcases hgoes.commands hc with rfl | hname
    · exact List.mem_cons_self
    · exact List.mem_cons_of_mem _ hname
  · obtain ⟨c, hc, rfl⟩ := List.mem_map.mp hline
    rcases hgoes.commands hc with rfl | hname
    · decide
    · exact foreground_of_tool (List.mem_append_left _ hname)

/-- The disk asks nothing that the background does either. -/
theorem partition_log (a : Agent Scripted) :
    let disk := logBy (partition config settings) a
    Leads disk a.host (partition config settings a).2.host
      ∧ ∀ line ∈ linesIn disk, isBackground line = false := by
  unfold partition
  cases settings.ephemeralDisk with
  | none => exact ⟨.nil _, nofun⟩
  | some disk =>
    have hdevice : (partitionDevice (diskPolicy config) config.identityPath disk.path
        disk.partitions).EndsOn Agent.host a.logged fun log _ _ =>
          ∀ c ∈ commandsIn log, c.name ∈ diskTools := by
      refine Pass.EndsOn.before (a := ()) (P := fun log _ => log = []) ?_ fun log b hlog => ?_
      · refine .unseen rfl ?_ ⟨rfl, rfl⟩
        dsimp only
        split
        · rfl
        · rfl
      · subst hlog
        exact Disk.partitionDisk_commands _ _ _ _ b
    have hblind : Blind (Agent.Like Logged.Shows)
        (partitionDevice (H := Logged Scripted) (diskPolicy config) config.identityPath disk.path
          disk.partitions)
        (partitionDevice (diskPolicy config) config.identityPath disk.path disk.partitions) :=
      .bind (rememberOwner_blind Logged.inFront _) fun _ =>
        Disk.partitionDisk_blind Logged.inFront.agent _ _ _ _
    obtain ⟨hleads, hcommands⟩ := logBy_ends hblind
      (Q := fun log _ _ => ∀ c ∈ commandsIn log, c.name ∈ diskTools) hdevice
    refine ⟨hleads, fun line hline => ?_⟩
    obtain ⟨c, hc, rfl⟩ := List.mem_map.mp hline
    exact foreground_of_tool (List.mem_append_right _ (hcommands c hc))

/-- The announcement is of the background. -/
theorem background_log (addresses : Option (List Net.InterfaceAddress)) (a : Agent Scripted) :
    let announcement := logBy (background config addresses) a
    Leads announcement a.host (background config addresses a).2.host
      ∧ ∀ line ∈ linesIn announcement, isBackground line = true := by
  cases addresses with
  | none => exact ⟨.nil _, nofun⟩
  | some l =>
    obtain ⟨turns, hturns, hlog⟩ :=
      Net.announceAll_log config.arping config.network.sysClassNet l a
    have hair : logBy (background config (some l)) a = turns.flatMap Net.Turn.log := hlog
    dsimp only
    rw [hair]
    refine ⟨(leads_host hturns.leads).1, fun line hline => ?_⟩
    obtain ⟨c, hc, rfl⟩ := List.mem_map.mp hline
    obtain ⟨e, he, hran⟩ := List.mem_filterMap.mp hc
    have honAir := hturns.onAir e he
    cases e with
    | ran c' answer =>
      cases hran
      exact honAir
    | _ => cases hran

end

/-! ## 4. The whole pass -/

/-- The course of a whole pass: the logs of its parts, its result, the agent when the announcement
    starts, and the agent in the end. -/
inductive Applies (config : AgentConfig) (settings : Settings) (a : Agent Scripted) :
    (net disk announcement : List Event) → Except Failure Unit → (before after : Agent Scripted) →
      Prop where
  /-- the network fails, and that is the result -/
  | refused {f : Failure} {b : Agent Scripted}
      (fails : converge config settings a = (.error f, b)) :
      Applies config settings a (logBy (converge config settings) a) [] [] (.error f) b b
  /-- the result is that of the disk, whatever becomes of the announcement -/
  | done {addresses : Option (List Net.InterfaceAddress)} {r : Except Failure Unit}
      {b c d : Agent Scripted} (converges : converge config settings a = (.ok addresses, b))
      (partitions : partition config settings b = (r, c))
      (announces : (background config addresses c).2 = d) :
      Applies config settings a (logBy (converge config settings) a)
        (logBy (partition config settings) b) (logBy (background config addresses) c) r c d

section

variable {config : AgentConfig} {settings : Settings} {a b : Agent Scripted}
  {net disk announcement : List Event} {r : Except Failure Unit} {before after : Agent Scripted}

/-- A course is what `apply` does. -/
theorem Applies.apply_eq
    (h : Applies config settings a net disk announcement r before after) :
    apply config settings a = (r, after) := by
  unfold apply
  cases h with
  | refused fails => rw [fails]
  | done converges partitions announces =>
    rw [converges]
    dsimp only
    rw [partitions]
    exact congrArg (Prod.mk _) announces

/-- **The log of a pass is that of its parts.** -/
theorem Applies.log_eq (h : Applies config settings a net disk announcement r before after) :
    logBy (apply config settings) a = net ++ disk ++ announcement := by
  cases h with
  | refused fails => rw [(failed_log fails).2, List.append_nil, List.append_nil]
  | done converges partitions announces => rw [apply_log converges, partitions]

theorem Applies.leads (h : Applies config settings a net disk announcement r before after) :
    Leads (net ++ disk ++ announcement) a.host after.host := by
  obtain ⟨hnet, -, -⟩ := converge_log config settings a
  cases h with
  | refused fails =>
    rw [fails] at hnet
    rw [List.append_nil, List.append_nil]
    exact hnet
  | @done addresses _ b _ _ converges partitions announces =>
    obtain ⟨hdisk, -⟩ := partition_log config settings b
    obtain ⟨hair, -⟩ := background_log config addresses before
    rw [converges] at hnet
    rw [partitions] at hdisk
    rw [announces] at hair
    exact (hnet.append hdisk).append hair

/-- What is asked in front is of the foreground, and by the network nothing about disks; what is asked
    behind is of the background. -/
theorem Applies.lines (h : Applies config settings a net disk announcement r before after) :
    (∀ line ∈ linesIn net, ∀ tool ∈ diskTools, Text.hasStart tool line = false)
      ∧ (∀ line ∈ linesIn net ++ linesIn disk, isBackground line = false)
      ∧ ∀ line ∈ linesIn announcement, isBackground line = true := by
  obtain ⟨-, htools, hnet⟩ := converge_log config settings a
  cases h with
  | refused fails => exact ⟨htools, List.forall_mem_append.mpr ⟨hnet, nofun⟩, nofun⟩
  | @done addresses _ b _ _ converges partitions announces =>
    exact ⟨htools, List.forall_mem_append.mpr ⟨hnet, (partition_log config settings b).2⟩,
      (background_log config addresses before).2⟩

/-- **Agents that are alike go the same course up to the announcement**, and end alike. -/
theorem Applies.alike (h : Applies config settings a net disk announcement r before after)
    (hab : a.Alike b) : ∃ announcement' before' after',
      Applies config settings b net disk announcement' r before' after'
        ∧ before.Alike before' := by
  have hlikeness := Logged.likeness_along Scripted.likeness []
  obtain ⟨hresult, hafter⟩ := converge_blind Scripted.likeness config settings hab
  have hnet : logBy (converge config settings) b = logBy (converge config settings) a :=
    (converge_blind hlikeness config settings).logBy_eq hab
  rcases hconverge : converge config settings b with ⟨converged, b'⟩
  rw [hconverge] at hresult hafter
  cases h with
  | refused fails =>
    rw [fails] at hresult hafter
    obtain rfl : converged = _ := hresult
    have happlies := Applies.refused hconverge
    rw [hnet] at happlies
    exact ⟨[], b', b', happlies, hafter⟩
  | @done addresses r c d _ converges partitions announces =>
    rw [converges] at hresult hafter
    obtain rfl : converged = _ := hresult
    obtain ⟨hresult', hafter'⟩ := partition_blind Scripted.likeness config settings hafter
    have hdisk : logBy (partition config settings) b' = logBy (partition config settings) c :=
      (partition_blind hlikeness config settings).logBy_eq hafter
    rcases hpartition : partition config settings b' with ⟨r', c'⟩
    rw [hpartition, partitions] at hresult' hafter'
    obtain rfl : r' = _ := hresult'
    have happlies := Applies.done hconverge hpartition rfl
    rw [hnet, hdisk] at happlies
    exact ⟨_, c', _, happlies, hafter'⟩

end

/-- **A pass is the network, then the disk, then the announcement, which cannot hurt.** A failure of
    the network is the result, and no tool for disks is run. Otherwise the disk follows, its result
    counts, and its requests come right after those of the network; those of the announcement come
    last. On any agent that is alike but for what commands of the background are answered, the
    result is the same, and so is every request up to the announcement. -/
theorem apply_applies (config : AgentConfig) (settings : Settings) (a : Agent Scripted) :
    ∃ net disk announcement before,
      Applies config settings a net disk announcement (apply config settings a).1 before
          (apply config settings a).2
        ∧ logBy (apply config settings) a = net ++ disk ++ announcement
        ∧ Leads (net ++ disk ++ announcement) a.host (apply config settings a).2.host
        ∧ (apply config settings a).2.host.commands
          = a.host.commands ++ linesIn net ++ linesIn disk ++ linesIn announcement
        ∧ (∀ line ∈ linesIn net, ∀ tool ∈ diskTools, Text.hasStart tool line = false)
        ∧ (∀ line ∈ linesIn net ++ linesIn disk, isBackground line = false)
        ∧ (∀ line ∈ linesIn announcement, isBackground line = true)
        ∧ ∀ b : Agent Scripted, a.Alike b →
          (apply config settings b).1 = (apply config settings a).1
            ∧ ∃ announcement' before',
              Applies config settings b net disk announcement' (apply config settings b).1 before'
                  (apply config settings b).2
                ∧ before.Alike before' := by
  have hcourse : ∃ net disk announcement r before after,
      Applies config settings a net disk announcement r before after := by
    rcases hconverge : converge config settings a with ⟨converged, b⟩
    cases converged with
    | error f => exact ⟨_, _, _, _, _, _, .refused hconverge⟩
    | ok addresses => exact ⟨_, _, _, _, _, _, .done hconverge rfl rfl⟩
  obtain ⟨net, disk, announcement, r, before, after, happlies⟩ := hcourse
  obtain ⟨htools, hfront, hback⟩ := happlies.lines
  have hleads := happlies.leads
  rw [happlies.apply_eq]
  refine ⟨net, disk, announcement, before, happlies, happlies.log_eq, hleads, ?_, htools, hfront,
    hback, fun b hab => ?_⟩
  · rw [hleads.recorded.1, linesIn_append, linesIn_append, List.append_assoc, List.append_assoc,
      List.append_assoc]
  · obtain ⟨announcement', before', after', happlies', hbefore⟩ := happlies.alike hab
    rw [happlies'.apply_eq]
    exact ⟨rfl, announcement', before', happlies', hbefore⟩

/-- A host with an interface and a device without a label. -/
def plainHost : Agent Scripted :=
  { host := Disk.bareDevice.addNetworkDevice ⟨"/sys/class/net"⟩ "eth0" "00:15:5d:00:00:01" }

/-- The same host, with an interface that has an address. -/
def addressedHost : Agent Scripted :=
  { host := plainHost.host.stand "ip -j addr show dev eth0" (.success
      ("[\x7b\"ifname\":\"eth0\",\"addr_info\":[\x7b\"family\":\"inet\",\"local\":\"10.0.0.5\","
        ++ "\"scope\":\"global\"\x7d]\x7d]")) }

/-- A leased address, and a disk without partitions. -/
def plainSettings : Settings :=
  { agentId := "agent-1", networks := Net.leasedNetwork, ephemeralDisk := some ⟨"/dev/sdb", []⟩ }

/-- One announcement per address. -/
def plainConfig : AgentConfig := { identityPath := ⟨"/id.json"⟩, arping := { iterations := 1 } }

/-- The address is announced only where it is known, and the result and all commands before are the
    same. -/
theorem apply_applies_plainHost :
    plainHost.Alike addressedHost
      ∧ (apply plainConfig plainSettings addressedHost).1
        = (apply plainConfig plainSettings plainHost).1
      ∧ (apply plainConfig plainSettings plainHost).2.host.commands
        = ["pkill dhclient", "resolvconf -d eth0.dhclient", "ifdown --force eth0",
          "ifup --force eth0", "parted -m /dev/sdb unit B print",
          "lsblk --nodeps -nb -o SIZE /dev/sdb", "ip -j addr show dev eth0"]
      ∧ (apply plainConfig plainSettings addressedHost).2.host.commands
        = (apply plainConfig plainSettings plainHost).2.host.commands
          ++ ["arping -c 1 -U -I eth0 10.0.0.5"] := by
  have hcommands : (apply plainConfig plainSettings plainHost).2.host.commands
      = ["pkill dhclient", "resolvconf -d eth0.dhclient", "ifdown --force eth0",
        "ifup --force eth0", "parted -m /dev/sdb unit B print",
        "lsblk --nodeps -nb -o SIZE /dev/sdb", "ip -j addr show dev eth0"] := by decide +kernel
  have halike : plainHost.Alike addressedHost :=
    ⟨Scripted.Alike.stand (by decide) _ _, rfl, rfl⟩
  obtain ⟨_, _, _, _, -, -, -, -, -, -, -, hother⟩ :=
    apply_applies plainConfig plainSettings plainHost
  refine ⟨halike, (hother addressedHost halike).1, hcommands, ?_⟩
  rw [hcommands]
  decide +kernel

end Reconcile

end HostAgent
