import HostAgent.Proofs.Disk.Foreign

/-!
# Layouts that cannot be made

Whether the desired layout fits on the device is found out when a new table is made, before its
label is written. By then a pass has removed what was there. So a layout that no device of that size
can have costs the partitions that the device had, unless there were none, or they are as desired
already, or the signatures on them cannot be listed.

* `creation_refused` -- nothing is made of such a layout;
* `removal_destroys_iff` -- when removing comes to destroy anything;
* `Costs` -- what a pass costs that cannot make its layout;
* `partitionDisk_costs`, `impossibleLayout_costs` -- every pass does.
-/

namespace HostAgent.Disk

/-! ## 1. Commands that destroy -/

/-- The command erases signatures, or has the partition table changed without asking. -/
def destroys (c : CommandLine) : Bool :=
  c.name == "wipefs" || c.name == "parted" && c.args.head? == some "-s"

/-- Something on the device was destroyed, or may have been. -/
def Destroys (log : List Event) : Prop := ∃ c ∈ commandsIn log, destroys c = true

/-- The answer to a list of signatures can be used: the tool's second exit status says that there
    are none to report. -/
def Listed (answer : Except Error Output) : Prop :=
  (∃ output, answer = .ok output)
    ∨ ∃ command stdout stderr, answer = .error (.commandFailed command 2 stdout stderr)

/-- The signatures on the host were listed. -/
def ListsSignatures (device : String) (log : List Event) : Prop :=
  ∃ answer, .ran (DiskStep.signatures.command device) answer ∈ log ∧ Listed answer

theorem destroys_append {a b : List Event} : Destroys (a ++ b) ↔ Destroys a ∨ Destroys b := by
  unfold Destroys
  simp only [commandsIn_append, List.mem_append, or_and_right, exists_or]

theorem listsSignatures_append {device : String} {a b : List Event} :
    ListsSignatures device (a ++ b) ↔ ListsSignatures device a ∨ ListsSignatures device b := by
  unfold ListsSignatures
  simp only [List.mem_append, or_and_right, exists_or]

theorem ListsSignatures.command {device : String} {log : List Event}
    (h : ListsSignatures device log) : DiskStep.signatures.command device ∈ commandsIn log := by
  obtain ⟨answer, hran, -⟩ := h
  exact List.mem_filterMap.mpr ⟨_, hran, rfl⟩

namespace DiskStep

def destroying : DiskStep → Bool
  | wipe _ | remove _ | label | make _ => true
  | _ => false

theorem destroys_command (device : String) (step : DiskStep) :
    destroys (step.command device) = step.destroying := by
  cases step <;> simp [destroys, command, destroying]

end DiskStep

/-! ## 2. Where a pass was cut short -/

namespace DiskTask

variable {task : DiskTask} {facts : DiskFacts} {a b steps : List DiskStep} {step : DiskStep}
  {log : List Event} {answer : Except Error Output}

theorem Taken.own_command (h : task.Taken step log answer) :
    step.command task.device ∈ commandsIn log := by
  unfold Taken at h
  split at h
  · rw [h]
    exact List.mem_singleton_self _
  · obtain ⟨errors, rfl, -, -⟩ := h
    rw [commandsIn_append]
    exact List.mem_append_right _ (List.mem_singleton_self _)

theorem CutShort.commands (h : task.CutShort facts steps log) {c : CommandLine}
    (hc : c ∈ commandsIn log) : ∃ step ∈ steps, c = step.command task.device := by
  induction h with
  | here taken _ => exact ⟨_, List.mem_cons_self, taken.commands hc⟩
  | later taken _ _ ih =>
    rw [commandsIn_append, List.mem_append] at hc
    rcases hc with hc | hc
    · exact ⟨_, List.mem_cons_self, taken.commands hc⟩
    · obtain ⟨step, hmem, hstep⟩ := ih hc
      exact ⟨step, List.mem_cons_of_mem _ hmem, hstep⟩

variable {α : Type} {r : Except Error α}

/-- Every command is the command of a step. -/
theorem Goes.commands (h : task.Goes facts steps log r) {c : CommandLine}
    (hc : c ∈ commandsIn log) : ∃ step ∈ steps, c = step.command task.device := by
  rcases h with ⟨-, h⟩ | ⟨-, h⟩
  · exact h.commands hc
  · exact h.commands hc

/-- The first step is taken in any case. -/
theorem Goes.first_command (h : task.Goes facts (step :: steps) log r) :
    step.command task.device ∈ commandsIn log := by
  rcases h with ⟨-, h⟩ | ⟨-, h⟩
  · cases h with
    | cons taken _ _ =>
      rw [commandsIn_append]
      exact List.mem_append_left _ taken.own_command
  · cases h with
    | here taken _ => exact taken.own_command
    | later taken _ _ =>
      rw [commandsIn_append]
      exact List.mem_append_left _ taken.own_command

/-- The first step is all there is, or its answer could be used and the pass went on. -/
theorem Goes.first (h : task.Goes facts (step :: steps) log r) :
    ((∃ e, r = .error e) ∧ ∃ answer, task.Taken step log answer
        ∧ ∀ other, ¬ task.Accepts other step answer)
      ∨ ∃ first rest answer, log = first ++ rest ∧ task.Taken step first answer
        ∧ task.Accepts facts step answer ∧ task.Goes facts steps rest r := by
  rcases h with ⟨hr, h⟩ | ⟨hr, h⟩
  · cases h with
    | cons taken accepted h => exact Or.inr ⟨_, _, _, rfl, taken, accepted, Or.inl ⟨hr, h⟩⟩
  · cases h with
    | here taken refused => exact Or.inl ⟨hr, _, taken, refused⟩
    | later taken accepted h => exact Or.inr ⟨_, _, _, rfl, taken, accepted, Or.inr ⟨hr, h⟩⟩

theorem listed_of_accepts (h : task.Accepts facts .signatures answer) : Listed answer := by
  rcases h with ⟨output, h, -⟩ | ⟨command, stdout, stderr, h, -⟩
  · exact Or.inl ⟨output, h⟩
  · exact Or.inr ⟨command, stdout, stderr, h⟩

theorem accepts_of_listed (task : DiskTask) (h : Listed answer) :
    ∃ facts, task.Accepts facts .signatures answer := by
  rcases h with ⟨output, h⟩ | ⟨command, stdout, stderr, h⟩
  · exact ⟨⟨false, ⟨[], 0⟩, _, []⟩, Or.inl ⟨output, h, partitionPaths_lists _ _⟩⟩
  · exact ⟨⟨false, ⟨[], 0⟩, _, []⟩, Or.inr ⟨command, stdout, stderr, h, rfl⟩⟩

/-! ## 3. Removing and making -/

/-- **Nothing is made of a layout that fits no size that the host tells**: the pass asks for the size,
    and ends in an error. -/
theorem creation_refused (hdesired : task.desired.isEmpty = false)
    (hsizes : ∀ output size, .ran (DiskStep.size.command task.device) (.ok output) ∈ log →
      readBytes output.stdout.toList = .ok size →
        ∃ e, plan task.owner task.device task.desired size.toNat = .error e)
    (h : task.Goes facts (task.creation facts) log r) :
    (∃ e, r = .error e) ∧ commandsIn log = [DiskStep.size.command task.device] := by
  rw [creation, hdesired, if_neg Bool.false_ne_true] at h
  rcases h.first with ⟨hr, answer, taken, -⟩ | ⟨first, rest, answer, rfl, taken, accepted, -⟩
  · have hlog : log = [.ran (DiskStep.size.command task.device) answer] := taken
    exact ⟨hr, by rw [hlog]; rfl⟩
  · obtain ⟨output, size, rfl, hread, hplan⟩ := accepted
    have hfirst : first = [.ran (DiskStep.size.command task.device) (.ok output)] := taken
    obtain ⟨e, he⟩ := hsizes output size
      (List.mem_append_left _ (hfirst ▸ List.mem_singleton_self _)) hread
    rw [he] at hplan
    cases hplan

/-- Removing erases signatures and removes partitions of the table, and does no other harm. -/
theorem removal_destroys {c : CommandLine} (h : task.Goes facts (removal facts) log r)
    (hc : c ∈ commandsIn log) (hd : destroys c = true) :
    (∃ path ∈ facts.paths, c = (DiskStep.wipe path).command task.device)
      ∨ ∃ p ∈ facts.table.partitions, c = (DiskStep.remove p.index).command task.device := by
  obtain ⟨step, hstep, rfl⟩ := h.commands hc
  rw [DiskStep.destroys_command] at hd
  unfold removal at hstep
  split at hstep
  · cases hstep
  · rcases List.mem_cons.mp hstep with rfl | hstep
    · cases hd
    · rcases List.mem_append.mp hstep with hstep | hstep
      · obtain ⟨path, hpath, rfl⟩ := List.mem_map.mp hstep
        exact Or.inl ⟨path, hpath, rfl⟩
      · obtain ⟨p, hp, rfl⟩ := List.mem_map.mp hstep
        exact Or.inr ⟨p, hp, rfl⟩

/-- **Removing destroys something exactly when there is something to remove and the signatures can be
    listed.** -/
theorem removal_destroys_iff (h : task.Goes facts (removal facts) log r) :
    Destroys log ↔ facts.table.partitions ≠ [] ∧ ListsSignatures task.device log := by
  constructor
  · intro hd
    obtain ⟨c, hc, hdestroys⟩ := hd
    have hsome : facts.table.partitions ≠ [] := by
      intro hnil
      rw [removal, hnil, List.isEmpty_nil, if_pos rfl] at h
      obtain ⟨_, hstep, -⟩ := h.commands hc
      cases hstep
    refine ⟨hsome, ?_⟩
    rw [removal, if_neg (hsome ∘ List.isEmpty_iff.mp)] at h
    rcases h.first with ⟨-, answer, taken, -⟩ | ⟨first, rest, answer, rfl, taken, accepted, -⟩
    · have hlog : log = [.ran (DiskStep.signatures.command task.device) answer] := taken
      rw [hlog] at hc
      rw [List.mem_singleton.mp hc, DiskStep.destroys_command] at hdestroys
      cases hdestroys
    · have hfirst : first = [.ran (DiskStep.signatures.command task.device) answer] := taken
      exact ⟨answer, List.mem_append_left _ (hfirst ▸ List.mem_singleton_self _),
        listed_of_accepts accepted⟩
  · intro hlist
    obtain ⟨hsome, answer, hran, hlisted⟩ := hlist
    rw [removal, if_neg (hsome ∘ List.isEmpty_iff.mp)] at h
    rcases h.first with ⟨-, answer', taken, refused⟩ | ⟨first, rest, _, rfl, -, -, hrest⟩
    · have hlog : log = [.ran (DiskStep.signatures.command task.device) answer'] := taken
      rw [hlog, List.mem_singleton] at hran
      obtain ⟨other, haccepts⟩ := accepts_of_listed task hlisted
      cases hran
      exact absurd haccepts (refused other)
    · -- what comes next destroys, and there is a next step for the first partition at least
      obtain ⟨p, ps, hps⟩ := List.exists_cons_of_ne_nil hsome
      have hnext : ∃ step more, facts.paths.map DiskStep.wipe
          ++ facts.table.partitions.map (fun p => DiskStep.remove p.index) = step :: more
          ∧ step.destroying = true := by
        rw [hps]
        cases facts.paths with
        | nil => exact ⟨_, _, rfl, rfl⟩
        | cons path paths => exact ⟨_, _, rfl, rfl⟩
      obtain ⟨step, more, hmore, hstep⟩ := hnext
      rw [hmore] at hrest
      refine ⟨step.command task.device, ?_, by rw [DiskStep.destroys_command, hstep]⟩
      rw [commandsIn_append]
      exact List.mem_append_right _ hrest.first_command

/-- Looking at the device does no harm. -/
theorem looking_harmless {unlabeled : Bool} (h : task.Goes facts (looking unlabeled) log r) :
    ¬ Destroys log ∧ ¬ ListsSignatures task.device log ∧ (successesIn log).filter removes = [] := by
  have hcommands : ∀ c ∈ commandsIn log, c = DiskStep.print.command task.device
      ∨ c = DiskStep.bareSize.command task.device := by
    intro c hc
    obtain ⟨step, hstep, rfl⟩ := h.commands hc
    cases unlabeled with
    | false => exact Or.inl (by rw [List.mem_singleton.mp hstep])
    | true =>
      rcases List.mem_cons.mp hstep with rfl | hstep
      · exact Or.inl rfl
      · exact Or.inr (by rw [List.mem_singleton.mp hstep])
  refine ⟨?_, ?_, ?_⟩
  · intro hd
    obtain ⟨c, hc, hdestroys⟩ := hd
    rcases hcommands c hc with rfl | rfl
    · cases (DiskStep.destroys_command task.device .print).symm.trans hdestroys
    · cases (DiskStep.destroys_command task.device .bareSize).symm.trans hdestroys
  · intro hlists
    rcases hcommands _ hlists.command with heq | heq
    · exact absurd (congrArg CommandLine.name heq) (show "blkid" ≠ "parted" by decide)
    · exact absurd (congrArg CommandLine.name heq) (show "blkid" ≠ "lsblk" by decide)
  · refine List.filter_eq_nil_iff.mpr fun c hc hremoves => ?_
    rcases hcommands c (mem_commandsIn_of_success hc) with rfl | rfl
    · cases (DiskStep.removes_command task.device .print).symm.trans hremoves
    · cases (DiskStep.removes_command task.device .bareSize).symm.trans hremoves

/-! ## 4. The pass -/

/-- What a pass costs that cannot make its layout. -/
structure Costs (task : DiskTask) (table : Table) (log : List Event) (r : Except Error Unit) :
    Prop where
  /-- a table that is left alone is as desired -/
  kept : task.leavesAlone table = true → r = .ok ()
  /-- any other table ends the pass in an error -/
  failed : task.leavesAlone table = false → ∃ e, r = .error e
  /-- something is destroyed when there is something and the signatures can be listed -/
  destroys_iff : Destroys log
    ↔ task.leavesAlone table = false ∧ table.partitions ≠ [] ∧ ListsSignatures task.device log
  /-- what is destroyed is a signature or a partition of the table -/
  destroyed : ∀ c ∈ commandsIn log, destroys c = true →
    (∃ path, c = (DiskStep.wipe path).command task.device)
      ∨ ∃ p ∈ table.partitions, c = (DiskStep.remove p.index).command task.device
  /-- when the layout is found impossible, the whole table is gone -/
  gone : ∀ e, r = .error (.context ("Partitioning ephemeral disk `" ++ task.device ++ "'") e) →
    (successesIn log).filter removes
      = table.partitions.map fun p => (DiskStep.remove p.index).command task.device

/-- An error in removing is not one in making. -/
theorem stuck_ne_uncreated (device : String) :
    "Removing existing partitions of `" ++ device ++ "'"
      ≠ "Partitioning ephemeral disk `" ++ device ++ "'" := by
  intro heq
  have hhead := congrArg (fun s => s.toList.head?) heq
  simp [String.toList_append] at hhead

/-- **Once the table is known, a layout that cannot be made costs all that can be removed.** -/
theorem costs_of_settles {r : Except Error Unit} {e : Error}
    (himpossible : plan task.owner task.device task.desired facts.table.deviceSize.toNat = .error e)
    (hsizes : ∀ output, .ran (DiskStep.size.command task.device) (.ok output) ∈ log →
      readBytes output.stdout.toList = .ok facts.table.deviceSize)
    (h : Settles task facts log r) : Costs task facts.table log r := by
  cases h with
  | kept hleave =>
    have hnone : ¬ Destroys [] := fun hd => by obtain ⟨_, hc, -⟩ := hd; cases hc
    refine ⟨fun _ => rfl, fun hnot => ?_, ?_, fun c hc => ?_, fun _ hr => ?_⟩
    · rw [hleave] at hnot
      cases hnot
    · refine ⟨fun hd => absurd hd hnone, fun hd => ?_⟩
      rw [hleave] at hd
      cases hd.1
    · cases hc
    · cases hr
  | @stuck log e' hleave cut =>
    have hremoval : task.Goes facts (removal facts) log (.error e' : Except Error Unit) :=
      Or.inr ⟨⟨e', rfl⟩, cut⟩
    refine ⟨fun hkept => ?_, fun _ => ⟨_, rfl⟩, ?_, fun c hc hd => ?_, fun e₂ hr => ?_⟩
    · rw [hleave] at hkept
      cases hkept
    · rw [removal_destroys_iff hremoval]
      exact ⟨fun h => ⟨hleave, h⟩, fun h => h.2⟩
    · rcases removal_destroys hremoval hc hd with ⟨path, -, heq⟩ | hp
      · exact Or.inl ⟨path, heq⟩
      · exact Or.inr hp
    · exact absurd (Error.context.inj (Except.error.inj hr)).1 (stuck_ne_uncreated task.device)
  | @cleared removed made r hleave removing making =>
    have hremoval : task.Goes facts (removal facts) removed (.ok () : Except Error Unit) :=
      Or.inl ⟨⟨(), rfl⟩, removing⟩
    have hdesired : task.desired.isEmpty = false := by
      rw [← Bool.not_eq_true, List.isEmpty_iff]
      intro hnil
      rw [hnil] at himpossible
      cases himpossible
    obtain ⟨⟨e', rfl⟩, hmade⟩ := creation_refused hdesired (fun output size hran hread => by
      rw [hsizes output (List.mem_append_right _ hran)] at hread
      cases hread
      exact ⟨e, himpossible⟩) making
    have hharmless : ¬ Destroys made := by
      intro hd
      obtain ⟨c, hc, hdestroys⟩ := hd
      rw [hmade, List.mem_singleton] at hc
      rw [hc, DiskStep.destroys_command] at hdestroys
      cases hdestroys
    have hunlisted : ¬ ListsSignatures task.device made := by
      intro hlists
      have hc := hlists.command
      rw [hmade, List.mem_singleton] at hc
      exact absurd (congrArg CommandLine.name hc) (show "blkid" ≠ "lsblk" by decide)
    refine ⟨fun hkept => ?_, fun _ => ⟨_, rfl⟩, ?_, fun c hc hd => ?_, fun _ _ => ?_⟩
    · rw [hleave] at hkept
      cases hkept
    · rw [destroys_append, or_iff_left hharmless, listsSignatures_append, or_iff_left hunlisted,
        removal_destroys_iff hremoval]
      exact ⟨fun h => ⟨hleave, h⟩, fun h => h.2⟩
    · rw [commandsIn_append, List.mem_append] at hc
      rcases hc with hc | hc
      · rcases removal_destroys hremoval hc hd with ⟨path, -, heq⟩ | hp
        · exact Or.inl ⟨path, heq⟩
        · exact Or.inr hp
      · exact absurd ⟨c, hc, hd⟩ hharmless
    · have hremoved := removing.successes_filter removes fun step hfail => by
        rw [DiskStep.removes_command, (DiskStep.not_relayout_of_mayFail hfail).1]
      have hkinds : removes ∘ DiskStep.command task.device = DiskStep.isRemove :=
        funext (DiskStep.removes_command task.device)
      have hnone : (successesIn made).filter removes = [] := by
        refine List.filter_eq_nil_iff.mpr fun c hc hremoves => ?_
        have hc' := mem_commandsIn_of_success hc
        rw [hmade, List.mem_singleton] at hc'
        rw [hc', DiskStep.removes_command] at hremoves
        cases hremoves
      rw [successesIn_append, List.filter_append, hremoved, hnone, List.append_nil, List.filter_map,
        hkinds, removal_filter facts (fun _ => rfl) rfl fun _ => rfl, List.map_map]
      rfl

end DiskTask

/-- Every pass over a device whose table is known costs that much. -/
theorem partitionDisk_costs {H : Type} [Host H] (policy : DiskPolicy) (identityPath : Path)
    (device : String) (desired : List Partition) {s : H} {owner : String} {table : Table} {e : Error}
    (howner : agentId s identityPath = .ok owner) (htable : (getTable device s).1 = .ok table)
    (himpossible : plan owner device desired table.deviceSize.toNat = .error e) :
    (partitionDisk policy identityPath device desired).Ends s fun log r _ =>
      (∀ output, .ran (DiskStep.size.command device) (.ok output) ∈ log →
          readBytes output.stdout.toList = .ok table.deviceSize) →
        DiskTask.Costs ⟨policy, owner, device, desired⟩ table log r := by
  let task : DiskTask := ⟨policy, owner, device, desired⟩
  -- the pass looks at the table, and then goes on from the state that this left behind
  obtain ⟨looked, hlooked, unlabeled, hlooking⟩ := getTable_goes task s
  obtain ⟨rest, hrest, paths, planned, -, hsettles⟩ :=
    settle_settles task (agentId_not_empty howner) table (getTable device s).2
  let facts : DiskFacts := ⟨unlabeled, table, paths, planned⟩
  refine .known (partitionDisk_looked howner (Prod.ext htable rfl)) (hlooked.append hrest) ?_
  intro hsizes
  obtain ⟨hundestroyed, hunlisted, hunremoved⟩ := DiskTask.looking_harmless
    (hlooking facts rfl fun t ht => by rw [htable] at ht; exact Except.ok.inj ht)
  have hcosts : task.Costs table rest _ := DiskTask.costs_of_settles himpossible
    (fun output hran => hsizes output (List.mem_append_right _ hran)) (hsettles facts rfl rfl rfl)
  refine ⟨hcosts.kept, hcosts.failed, ?_, fun c hc hd => ?_, fun e' he => ?_⟩
  · rw [destroys_append, or_iff_right hundestroyed, listsSignatures_append, or_iff_right hunlisted]
    exact hcosts.destroys_iff
  · rw [commandsIn_append, List.mem_append] at hc
    rcases hc with hc | hc
    · exact absurd ⟨c, hc, hd⟩ hundestroyed
    · exact hcosts.destroyed c hc hd
  · rw [successesIn_append, List.filter_append, hunremoved, List.nil_append]
    exact hcosts.gone e' he

/-- **A layout that cannot be made costs the table that is there**, when the size that the host tells
    later is the one that it told first: unless the table is left alone, the pass ends in an error,
    and by then it has erased and removed what it could. -/
theorem impossibleLayout_costs (policy : DiskPolicy) (identityPath : Path) (device : String)
    (desired : List Partition) {h h' : Scripted} {r : Except Error Unit} {owner : String}
    {table : Table} {e : Error} (howner : agentId h identityPath = .ok owner)
    (htable : (getTable device h).1 = .ok table)
    (himpossible : plan owner device desired table.deviceSize.toNat = .error e)
    (hpass : partitionDisk policy identityPath device desired h = (r, h')) :
    let log := logOn (partitionDisk policy identityPath device desired) h
    Leads log h h' ∧ h'.commands = h.commands ++ linesIn log
      ∧ ((∀ output, .ran (DiskStep.size.command device) (.ok output) ∈ log →
          readBytes output.stdout.toList = .ok table.deviceSize) →
        DiskTask.Costs ⟨policy, owner, device, desired⟩ table log r) := by
  have hlogged : (getTable device (⟨h, []⟩ : Logged Scripted)).1 = .ok table := by
    obtain ⟨hresult, -⟩ := getTable_blind Logged.inFront device (show Logged.Shows ⟨h, []⟩ h from rfl)
    rw [← hresult, htable]
  have hcosts := logOn_ends (partitionDisk_blind Logged.inFront policy identityPath device desired)
    (partitionDisk_costs policy identityPath device desired (s := (⟨h, []⟩ : Logged Scripted)) howner
      hlogged himpossible)
  rw [hpass] at hcosts
  exact ⟨hcosts.1, hcosts.1.recorded.1, hcosts.2⟩

/-! ## 5. A layout that is larger than the device -/

/-- Twice as much swap as the device of `crampedDevice` holds, and the rest for data. -/
def vastLayout : List Partition := [⟨214748364800, .swap⟩, ⟨0, .linux⟩]

/-- The partitions of `sampleLayout` as `agent-1` made them. -/
def crampedPartitions : List PrintedPartition :=
  [⟨1048576, 1074790399, "linux-swap(v1)", "agent-1-1", "swap"⟩,
    ⟨1074790400, 107373133823, "ext4", "agent-1-2", ""⟩]

/-- A host of `agent-1` whose device bears that table. -/
def crampedDevice : Scripted :=
  ({} : Scripted).putFile ⟨"/id.json"⟩ (Utf8.encode "\x7b\"agent_id\":\"agent-1\"\x7d")
    |>.stand "parted -m /dev/sdb unit B print"
      (.success (printTable "/dev/sdb" 107374182400 "scsi:512:512:gpt:Msft Virtual Disk:"
        crampedPartitions))
    |>.stand "blkid" (.success "/dev/sdb1: TYPE=\"swap\"\n/dev/sdb2: TYPE=\"ext4\"\n")
    |>.stand "lsblk --nodeps -nb -o SIZE /dev/sdb" (.success "107374182400")

/-- The table that is read there. -/
def crampedTable : Table :=
  ⟨[⟨1, "agent-1-1", 1073741824, .swap⟩, ⟨2, "agent-1-2", 106298343424, .linux⟩], 107374182400⟩

theorem crampedDevice_owner : agentId crampedDevice ⟨"/id.json"⟩ = .ok "agent-1" := by rfl

theorem crampedDevice_prints :
    Commands.run (DiskStep.print.command "/dev/sdb") crampedDevice
      = (.ok ⟨printTable "/dev/sdb" 107374182400 "scsi:512:512:gpt:Msft Virtual Disk:"
          crampedPartitions, ""⟩,
        { crampedDevice with commands := ["parted -m /dev/sdb unit B print"] }) := by
  rfl

theorem crampedDevice_looked :
    getTable "/dev/sdb" crampedDevice
      = (.ok crampedTable,
        { crampedDevice with commands := ["parted -m /dev/sdb unit B print"] }) := by
  have hdevice : PrintableDevice "/dev/sdb" 107374182400 "scsi:512:512:gpt:Msft Virtual Disk:" :=
    ⟨by decide, by decide, by decide⟩
  have hprintable : ∀ p ∈ crampedPartitions, p.Printable := by
    intro p hp
    simp only [crampedPartitions, List.mem_cons, List.not_mem_nil, or_false] at hp
    rcases hp with rfl | rfl
    · exact ⟨by decide, by decide, by decide, by decide⟩
    · exact ⟨by decide, by decide, by decide, by decide⟩
  have hread : readTable (printTable "/dev/sdb" 107374182400 "scsi:512:512:gpt:Msft Virtual Disk:"
      crampedPartitions) = .ok crampedTable := (readTable_printTable hdevice hprintable).1 (by decide)
  rw [getTable_read crampedDevice_prints, hread]

theorem vastLayout_impossible :
    plan "agent-1" "/dev/sdb" vastLayout crampedTable.deviceSize.toNat
      = .error (.insufficientSpace "/dev/sdb" 214750461952 107374182400) := by
  decide +kernel

/-- The layout does not fit, and that is the error of the pass; by then both partitions are gone. -/
theorem impossibleLayout_destroys :
    agentId crampedDevice ⟨"/id.json"⟩ = .ok "agent-1"
      ∧ (getTable "/dev/sdb" crampedDevice).1 = .ok crampedTable
      ∧ plan "agent-1" "/dev/sdb" vastLayout crampedTable.deviceSize.toNat
        = .error (.insufficientSpace "/dev/sdb" 214750461952 107374182400)
      ∧ (partitionDisk samplePolicy ⟨"/id.json"⟩ "/dev/sdb" vastLayout crampedDevice).1
        = .error (.context "Partitioning ephemeral disk `/dev/sdb'"
          (.insufficientSpace "/dev/sdb" 214750461952 107374182400))
      ∧ (partitionDisk samplePolicy ⟨"/id.json"⟩ "/dev/sdb" vastLayout crampedDevice).2.commands
        = ["parted -m /dev/sdb unit B print", "blkid", "wipefs -a /dev/sdb1", "wipefs -a /dev/sdb2",
          "parted -s /dev/sdb rm 1", "parted -s /dev/sdb rm 2",
          "lsblk --nodeps -nb -o SIZE /dev/sdb"] := by
  rw [partitionDisk_looked crampedDevice_owner crampedDevice_looked]
  refine ⟨crampedDevice_owner, ?_, vastLayout_impossible, ?_, ?_⟩
  · rw [crampedDevice_looked]
  · decide +kernel
  · decide +kernel

/-- The same host, as a case of the general statement. -/
theorem impossibleLayout_costs_cramped :
    agentId crampedDevice ⟨"/id.json"⟩ = .ok "agent-1"
      ∧ (getTable "/dev/sdb" crampedDevice).1 = .ok crampedTable
      ∧ plan "agent-1" "/dev/sdb" vastLayout crampedTable.deviceSize.toNat
        = .error (.insufficientSpace "/dev/sdb" 214750461952 107374182400)
      ∧ DiskTask.Costs ⟨samplePolicy, "agent-1", "/dev/sdb", vastLayout⟩ crampedTable
        (logOn (partitionDisk samplePolicy ⟨"/id.json"⟩ "/dev/sdb" vastLayout) crampedDevice)
        (partitionDisk samplePolicy ⟨"/id.json"⟩ "/dev/sdb" vastLayout crampedDevice).1 := by
  have htable : (getTable "/dev/sdb" crampedDevice).1 = .ok crampedTable := by
    rw [crampedDevice_looked]
  obtain ⟨hlog, -, hcosts⟩ := impossibleLayout_costs samplePolicy ⟨"/id.json"⟩ "/dev/sdb"
    vastLayout crampedDevice_owner htable vastLayout_impossible (Prod.eta _).symm
  refine ⟨crampedDevice_owner, htable, vastLayout_impossible, hcosts fun output hran => ?_⟩
  rw [← Except.ok.inj (hlog.answered rfl hran)]
  decide +kernel

end HostAgent.Disk
