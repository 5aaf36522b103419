import HostAgent.Agent.Config
import HostAgent.Proofs.Disk.Impossible
import HostAgent.Proofs.Disk.Kept
import HostAgent.Proofs.Files
import HostAgent.Proofs.Settings

/-!
# One file for settings and identity

The settings document and the identity of the agent may be one file. The reader of the identity
knows one member of the document and skips the others, so it accepts every object that is a settings
document, and finds the same agent in it.

* `identity_of_settings` -- the identity in a settings document;
* `Goes.split` -- where in its steps a pass has ended;
* `Goes.makes_planned`, `Goes.makes_named` -- what a pass makes is planned, under its owner's name;
* `Follows.makes_all` -- all of it is made when the pass ends well;
* `settings_name_partitions` -- so they bear the name that the settings document gives.
-/

namespace HostAgent.Disk

/-! ## 1. The identity in a settings document -/

/-- **An object that is a settings document holds the identity that the settings have.** -/
theorem identity_of_settings {ms : List (Option String × Json.Value)} {s : Settings}
    (h : Settings.ofJson? (.object ms) = some s) :
    agentIdOfJson? (.object ms) = some s.agentId := by
  obtain ⟨l, hmembers, h⟩ := Option.bind_eq_some_iff.mp h
  obtain ⟨id, hid, h⟩ := Option.bind_eq_some_iff.mp h
  obtain ⟨networks, -, h⟩ := Option.bind_eq_some_iff.mp h
  obtain ⟨ephemeralDisk, -, h⟩ := Option.bind_eq_some_iff.mp h
  have hfewer : ∀ name ∈ ["agent_id"], name ∈ ["agent_id", "networks", "ephemeral_disk"] := by decide
  obtain ⟨l', hmembers', hlookup⟩ := Json.Value.members_of_subset hfewer hmembers
  have hsame : l'.lookup "agent_id" = l.lookup "agent_id" := hlookup _ List.mem_cons_self
  cases h
  refine Option.bind_eq_some_iff.mpr ⟨l', hmembers', ?_⟩
  rw [Json.Value.optional, hsame]
  exact hid

/-! ## 2. Names of partitions -/

namespace DiskTask

variable {task : DiskTask} {facts : DiskFacts} {a b steps : List DiskStep} {log : List Event}
  {α : Type} {r : Except Error α}

/-- A pass over steps in two parts ends in the first one, or goes on to the second one. -/
theorem Goes.split (h : task.Goes facts (a ++ b) log r) :
    task.CutShort facts a log
      ∨ ∃ l m, log = l ++ m ∧ task.Follows facts a l ∧ task.Goes facts b m r := by
  induction a generalizing log with
  | nil => exact Or.inr ⟨[], log, rfl, .nil, h⟩
  | cons step a ih =>
    have hlater : ∀ {first rest : List Event} {answer : Except Error Output},
        task.Taken step first answer → task.Accepts facts step answer →
          task.Goes facts (a ++ b) rest r →
          task.CutShort facts (step :: a) (first ++ rest)
            ∨ ∃ l m, first ++ rest = l ++ m ∧ task.Follows facts (step :: a) l
              ∧ task.Goes facts b m r := by
      intro first rest answer taken accepted hrest
      rcases ih hrest with hcut | ⟨l, m, rfl, hl, hm⟩
      · exact Or.inl (.later taken accepted hcut)
      · exact Or.inr ⟨first ++ l, m, (List.append_assoc _ _ _).symm, .cons taken accepted hl, hm⟩
    rcases h with ⟨hr, h⟩ | ⟨hr, h⟩
    · cases h with
      | cons taken accepted h => exact hlater taken accepted (Or.inl ⟨hr, h⟩)
    · cases h with
      | here taken refused => exact Or.inl (.here taken refused)
      | later taken accepted h => exact hlater taken accepted (Or.inr ⟨hr, h⟩)

/-- Looking at the device, and removing what is there, makes no partition. -/
theorem removal_not_make (facts : DiskFacts) :
    ∀ step ∈ looking facts.unlabeled ++ removal facts, step.isMake = false := by
  intro step hstep
  rcases List.mem_append.mp hstep with hstep | hstep
  · simp only [looking, List.mem_cons, List.mem_ite_nil_right, List.not_mem_nil, or_false] at hstep
    rcases hstep with rfl | ⟨-, rfl⟩ <;> rfl
  · unfold removal at hstep
    split at hstep
    · cases hstep
    · simp only [List.mem_cons, List.mem_append, List.mem_map] at hstep
      rcases hstep with rfl | ⟨path, -, rfl⟩ | ⟨p, -, rfl⟩ <;> rfl

/-- A pass that makes a table asks for the size of the device and makes a label before it makes
    anything else. -/
theorem steps_split (hleave : task.leavesAlone facts.table = false)
    (hdesired : task.desired.isEmpty = false) :
    task.steps facts = (looking facts.unlabeled ++ removal facts ++ [.size])
      ++ .label :: ((task.named facts.planned).map .make ++ [.probe]) := by
  rw [DiskTask.steps, hleave, if_neg Bool.false_ne_true, creation, hdesired,
    if_neg Bool.false_ne_true]
  simp only [List.append_assoc, List.singleton_append]

/-- Any other pass makes nothing. -/
theorem steps_not_make (h : task.leavesAlone facts.table = true ∨ task.desired.isEmpty = true) :
    ∀ step ∈ task.steps facts, step.isMake = false := by
  intro step hstep
  refine removal_not_make facts step ?_
  rw [DiskTask.steps] at hstep
  split at hstep
  · rw [List.append_nil] at hstep
    exact List.mem_append_left _ hstep
  · rename_i hleave
    have hnone : task.creation facts = [] := if_pos (h.resolve_left hleave)
    rw [hnone, List.append_nil] at hstep
    exact hstep

/-- Steps that make no partition run no command that makes one. -/
theorem not_makes_of_commands (hsteps : ∀ step ∈ steps, step.isMake = false) {c : CommandLine}
    (hc : ∃ step ∈ steps, c = step.command task.device) : makes c = false := by
  obtain ⟨step, hmem, rfl⟩ := hc
  rw [DiskStep.makes_command, hsteps step hmem]

/-- **A pass makes nothing but what it has planned**, for a size that it was told. -/
theorem Goes.makes_planned (h : task.Goes facts (task.steps facts) log r) {c : CommandLine}
    (hc : c ∈ commandsIn log) (hmakes : makes c = true) :
    ∃ size planned, plan task.owner task.device task.desired size = .ok planned
      ∧ ∃ p ∈ task.named planned, c = (DiskStep.make p).command task.device := by
  have hnone : ∀ steps : List DiskStep, (∀ step ∈ steps, step.isMake = false) →
      ¬∃ step ∈ steps, c = step.command task.device := fun steps hsteps hfrom => by
    rw [not_makes_of_commands hsteps hfrom] at hmakes
    cases hmakes
  by_cases hother : task.leavesAlone facts.table = true ∨ task.desired.isEmpty = true
  · exact absurd (h.commands hc) (hnone _ (steps_not_make hother))
  · rw [not_or, Bool.not_eq_true, Bool.not_eq_true] at hother
    have hbefore : ∀ step ∈ looking facts.unlabeled ++ removal facts ++ [.size],
        step.isMake = false := by
      intro step hstep
      rcases List.mem_append.mp hstep with hstep | hstep
      · exact removal_not_make facts step hstep
      · rw [List.mem_singleton.mp hstep]
        rfl
    rw [steps_split hother.1 hother.2] at h
    rcases h.split with hcut | ⟨l, m, rfl, hl, hm⟩
    · exact absurd (hcut.commands hc) (hnone _ hbefore)
    · rw [commandsIn_append] at hc
      rcases List.mem_append.mp hc with hc | hc
      · exact absurd (hl.commands hc) (hnone _ hbefore)
      · -- the size that was asked for has been used for a plan
        obtain ⟨-, asked, -, -, hasked⟩ := hl.split
        have hplan : ∃ size, plan task.owner task.device task.desired size = .ok facts.planned := by
          cases hasked with
          | cons _ accepted _ =>
            obtain ⟨_, size, -, -, hplan⟩ := accepted
            exact ⟨_, hplan⟩
        obtain ⟨size, hplan⟩ := hplan
        obtain ⟨step, hstep, rfl⟩ := hm.commands hc
        refine ⟨size, facts.planned, hplan, ?_⟩
        rw [DiskStep.makes_command] at hmakes
        simp only [List.mem_cons, List.mem_append, List.mem_map, List.not_mem_nil, or_false] at hstep
        rcases hstep with rfl | ⟨p, hp, rfl⟩ | rfl
        · cases hmakes
        · exact ⟨p, hp, rfl⟩
        · cases hmakes

/-- A plan gives its partitions the owner's numbered names. -/
theorem plan_numberedNames (howner : task.owner.isEmpty = false) {deviceSize : Nat}
    {planned : List PlannedPartition}
    (h : plan task.owner task.device task.desired deviceSize = .ok planned) :
    (task.named planned).map PlannedPartition.name
      = numberedNames task.owner task.desired.length := by
  rw [named_of_plan task howner h, plan_names h, numberedNames]
  exact List.map_congr_left fun i _ => partitionName_of_owner howner i

/-- **The partitions that a pass makes bear its owner's name**, each with a number. -/
theorem Goes.makes_named (h : task.Goes facts (task.steps facts) log r)
    (howner : task.owner.isEmpty = false) {c : CommandLine} (hc : c ∈ commandsIn log)
    (hmakes : makes c = true) :
    ∃ name ∈ numberedNames task.owner task.desired.length, c.args[5]? = some name := by
  obtain ⟨size, planned, hplan, p, hp, rfl⟩ := h.makes_planned hc hmakes
  refine ⟨p.name, ?_, rfl⟩
  rw [← plan_numberedNames howner hplan]
  exact List.mem_map_of_mem hp

/-- **A pass that ends well has made one partition for each desired one**, under these names and in
    their order, unless it has left the table alone. -/
theorem Follows.makes_all (h : task.Follows facts (task.steps facts) log)
    (howner : task.owner.isEmpty = false) (hdesired : task.desired.isEmpty = false) :
    task.LeftAlone log
      ∨ ((successesIn log).filter makes).map (fun c => c.args[5]?)
        = (numberedNames task.owner task.desired.length).map some := by
  cases hleave : task.leavesAlone facts.table with
  | true => exact Or.inl (h.alone hleave)
  | false =>
    obtain ⟨-, -, -, size, -, -, -, hplan⟩ := h.planned hleave hdesired
    have hdone := h.successes_filter makes fun step hfail => by
      rw [DiskStep.makes_command]
      exact (DiskStep.not_relayout_of_mayFail hfail).2
    have hkind : makes ∘ DiskStep.command task.device = DiskStep.isMake :=
      funext (DiskStep.makes_command task.device)
    have hname : ((fun c : CommandLine => c.args[5]?) ∘ DiskStep.command task.device)
        ∘ DiskStep.make = some ∘ PlannedPartition.name := rfl
    rw [List.filter_map, hkind, steps_makes hleave hdesired] at hdone
    rw [hdone, ← plan_numberedNames howner hplan, List.map_map, List.map_map, List.map_map, hname]
    exact Or.inr rfl

end DiskTask

/-! ## 3. Both readers of one file -/

/-- **Both readers of a settings file see the same agent.** By default one file holds the settings
    and the identity. Where it holds an object that is a settings document, the identity that is read
    in it is the agent's of the settings. So a pass over a disk names every partition that it makes
    after this agent, and has made all of them when it ends well and does not leave the table alone;
    or, when the agent is blank, it says so before it has run anything. -/
theorem settings_name_partitions (policy : DiskPolicy) (identityPath : Path) (device : String)
    (desired : List Partition) {h h' : Scripted} {r : Except Error Unit} {bs : Bytes}
    {ms : List (Option String × Json.Value)} {s : Settings}
    (hobject : Json.readBytes bs = some (.object ms)) (hsettings : Settings.parse? bs = some s)
    (hcontents : h.contents identityPath = .ok bs)
    (hpass : partitionDisk policy identityPath device desired h = (r, h')) :
    ({} : AgentConfig).identityPath = ({} : AgentConfig).settingsPath
      ∧ (Json.readBytes bs).bind agentIdOfJson? = some s.agentId
      ∧ (Text.allBlank s.agentId = true →
        r = .error (.context "Getting agent ID"
            (.identity identityPath.text "agent_id is empty"))
          ∧ h' = h)
      ∧ (Text.allBlank s.agentId = false →
        let log := logOn (partitionDisk policy identityPath device desired) h
        agentId h identityPath = .ok s.agentId ∧ Leads log h h'
          ∧ h'.commands = h.commands ++ linesIn log
          ∧ (∀ c ∈ commandsIn log, makes c = true →
            ∃ name ∈ numberedNames s.agentId desired.length, c.args[5]? = some name)
          ∧ (r = .ok () → desired ≠ [] →
            DiskTask.LeftAlone ⟨policy, s.agentId, device, desired⟩ log
              ∨ ((successesIn log).filter makes).map (fun c => c.args[5]?)
                = (numberedNames s.agentId desired.length).map some)) := by
  have hid : (Json.readBytes bs).bind agentIdOfJson? = some s.agentId := by
    rw [Settings.parse?, hobject, Option.bind_some] at hsettings
    rw [hobject, Option.bind_some, identity_of_settings hsettings]
  have howner : agentId h identityPath = if Text.allBlank s.agentId then
      .error (.identity identityPath.text "agent_id is empty") else .ok s.agentId := by
    show identityOf identityPath (h.contents identityPath) = _
    rw [hcontents, identityOf, hid]
  refine ⟨rfl, hid, fun hblank => ?_, fun hgiven => ?_⟩
  · rw [if_pos hblank] at howner
    have hrefused : ((getAgentId identityPath).within "Getting agent ID") h
        = (.error (.context "Getting agent ID"
            (.identity identityPath.text "agent_id is empty")), h) := by
      rw [Pass.within_apply, getAgentId, howner]
      rfl
    rw [partitionDisk, Pass.bind_error hrefused] at hpass
    cases hpass
    exact ⟨rfl, rfl⟩
  · rw [hgiven, if_neg Bool.false_ne_true] at howner
    have hends := partitionDisk_log policy identityPath device desired h
    rw [howner, hpass] at hends
    obtain ⟨hlog, facts, -, hgoes⟩ := hends
    have hempty : s.agentId.isEmpty = false := agentId_not_empty howner
    refine ⟨howner, hlog, hlog.recorded.1, fun c hc hmakes => ?_, fun hr hne => ?_⟩
    · exact hgoes.makes_named hempty hc hmakes
    · have hdesired : desired.isEmpty = false := by
        rw [← Bool.not_eq_true, List.isEmpty_iff]
        exact hne
      rw [hr] at hgoes
      exact hgoes.follows.makes_all hempty hdesired

/-- A document of `agent-1` with a network of the older kind, a disk, and a member that no reader
    knows, whose string is no Unicode text. -/
def sharedDocument : String :=
  "\x7b\"later\":[\"\\ud800\",-0.5],\"networks\":\x7b\"lan\":\x7b\"type\":\"manual\"\x7d\x7d,"
    ++ "\"ephemeral_disk\":\x7b\"path\":\"/dev/sdb\"\x7d,\"agent_id\":\"agent-1\"\x7d"

/-- A host without a label on its device, where the document is. -/
def sharedHost : Scripted := bareDevice.putFile ⟨"/settings.json"⟩ (Utf8.encode sharedDocument)

/-- The device is laid out, and its partitions bear the name that the document gives. -/
theorem settings_name_partitions_sharedHost :
    (∃ ms, Json.readBytes (Utf8.encode sharedDocument) = some (.object ms))
      ∧ (Settings.parse? (Utf8.encode sharedDocument)).map Settings.agentId = some "agent-1"
      ∧ sharedHost.contents ⟨"/settings.json"⟩ = .ok (Utf8.encode sharedDocument)
      ∧ agentId sharedHost ⟨"/settings.json"⟩ = .ok "agent-1"
      ∧ (partitionDisk samplePolicy ⟨"/settings.json"⟩ "/dev/sdb" sampleLayout sharedHost).1
        = .ok ()
      ∧ (partitionDisk samplePolicy ⟨"/settings.json"⟩ "/dev/sdb" sampleLayout sharedHost).2.commands
        = bareCommands
      ∧ ((successesIn (logOn (partitionDisk samplePolicy ⟨"/settings.json"⟩ "/dev/sdb" sampleLayout)
          sharedHost)).filter makes).map (fun c => c.args[5]?)
        = [some "agent-1-1", some "agent-1-2"] := by
  have hobject : ∃ ms, Json.readBytes (Utf8.encode sharedDocument) = some (.object ms) := by
    -- only an object is read as a map
    have hmap : ((Json.readBytes (Utf8.encode sharedDocument)).bind
        (Json.Value.asMap fun _ => some ())).isSome = true := by decide +kernel
    obtain ⟨m, hm⟩ := Option.isSome_iff_exists.mp hmap
    obtain ⟨v, hread, hv⟩ := Option.bind_eq_some_iff.mp hm
    cases v with
    | object ms => exact ⟨ms, hread⟩
    | _ => cases hv
  have hsettings : ∃ s : Settings, Settings.parse? (Utf8.encode sharedDocument) = some s
      ∧ s.agentId = "agent-1" := by
    have hagent : (Settings.parse? (Utf8.encode sharedDocument)).map Settings.agentId
        = some "agent-1" := by decide +kernel
    exact Option.map_eq_some_iff.mp hagent
  have hcontents : sharedHost.contents ⟨"/settings.json"⟩ = .ok (Utf8.encode sharedDocument) := by
    have hfile : sharedHost.fileAt? ⟨"/settings.json"⟩ = some (Utf8.encode sharedDocument) := by
      rw [Scripted.fileAt?_of_plain rfl]
      exact (Assoc.get?_set _ _ _ _).trans (if_pos rfl)
    rw [Scripted.contents, hfile]
  obtain ⟨hdone, hcommands⟩ :
      (partitionDisk samplePolicy ⟨"/settings.json"⟩ "/dev/sdb" sampleLayout sharedHost).1 = .ok ()
        ∧ (partitionDisk samplePolicy ⟨"/settings.json"⟩ "/dev/sdb" sampleLayout
          sharedHost).2.commands = bareCommands := by decide +kernel
  obtain ⟨ms, hms⟩ := hobject
  obtain ⟨s, hs, hid⟩ := hsettings
  have hgiven : Text.allBlank s.agentId = false := by rw [hid]; decide
  obtain ⟨-, -, -, hnamed⟩ := settings_name_partitions samplePolicy ⟨"/settings.json"⟩ "/dev/sdb"
    sampleLayout hms hs hcontents (Prod.eta _).symm
  obtain ⟨howner, -, hrecorded, -, hmade⟩ := hnamed hgiven
  rw [hid] at howner hmade
  refine ⟨⟨ms, hms⟩, by rw [hs, Option.map_some, hid], hcontents, howner, hdone, hcommands, ?_⟩
  rcases hmade hdone (by decide) with hprint | hnames
  · -- seven commands were run, not one
    rw [hcommands, linesIn, hprint.commands] at hrecorded
    cases congrArg List.length hrecorded
  · rw [hnames]
    decide

end HostAgent.Disk
