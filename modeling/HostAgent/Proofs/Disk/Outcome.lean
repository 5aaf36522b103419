import HostAgent.Proofs.Disk.Steps

/-!
# What a completed pass has done

The steps of a pass tell what it has done to the device once it ends well: the commands that must
succeed have all succeeded, once each and in the order of the steps.

* `Follows.successes_filter` -- the successes of a pass are the commands of its steps;
* `Follows.makes_mem` -- what it makes is what it has planned;
* `LeftAlone` -- the log of a pass that leaves the table alone;
* `partitionDisk_looked` -- the pass goes on by the table that it has found;
* `partitionDisk_alone` -- an owned table that is as desired is printed, and nothing else;
* `partitionDisk_done` -- what a pass that ends well has followed.
-/

namespace HostAgent.Disk

/-! ## 1. Kinds of commands -/

/-- The command removes a partition. -/
def removes (c : CommandLine) : Bool := c.name == "parted" && c.args[2]? == some "rm"

/-- The command makes a partition. -/
def makes (c : CommandLine) : Bool := c.name == "parted" && c.args[4]? == some "mkpart"

namespace DiskStep

/-- A pass may go on after the step failed. -/
def mayFail : DiskStep → Bool
  | print | signatures | probe => true
  | _ => false

def isRemove : DiskStep → Bool
  | remove _ => true
  | _ => false

def isMake : DiskStep → Bool
  | make _ => true
  | _ => false

/-- A step that may fail neither removes nor makes a partition. -/
theorem not_relayout_of_mayFail {step : DiskStep} (h : step.mayFail = true) :
    step.isRemove = false ∧ step.isMake = false := by
  cases step with
  | print => exact ⟨rfl, rfl⟩
  | signatures => exact ⟨rfl, rfl⟩
  | probe => exact ⟨rfl, rfl⟩
  | _ => cases h

theorem removes_command (device : String) (step : DiskStep) :
    removes (step.command device) = step.isRemove := by
  cases step <;> simp [removes, command, isRemove]

theorem makes_command (device : String) (step : DiskStep) :
    makes (step.command device) = step.isMake := by
  cases step <;> simp [makes, command, isMake]

end DiskStep

namespace DiskTask

variable {task : DiskTask} {facts : DiskFacts} {a b steps : List DiskStep} {log : List Event}

/-! ## 2. Successes -/

/-- A step succeeds once, with its last attempt. -/
theorem Taken.successes {step : DiskStep} {answer : Except Error Output}
    (h : task.Taken step log answer) :
    successesIn log = if answer.isOk then [step.command task.device] else [] := by
  have hlast : successesIn [.ran (step.command task.device) answer]
      = if answer.isOk then [step.command task.device] else [] := by
    cases answer <;> rfl
  unfold Taken at h
  split at h
  · rw [h, hlast]
  · obtain ⟨errors, rfl, -, -⟩ := h
    rw [successesIn_append, successesIn_failures, List.nil_append, hlast]

/-- Nothing but the step's own command is run for a step. -/
theorem Taken.commands {step : DiskStep} {answer : Except Error Output}
    (h : task.Taken step log answer) {c : CommandLine} (hc : c ∈ commandsIn log) :
    c = step.command task.device := by
  unfold Taken at h
  split at h
  · subst h
    exact List.mem_singleton.mp hc
  · obtain ⟨errors, rfl, -, -⟩ := h
    rw [commandsIn_append, commandsIn_failures, List.mem_append] at hc
    rcases hc with hc | hc
    · exact (List.mem_replicate.mp hc).2
    · exact List.mem_singleton.mp hc

theorem Accepts.succeeded {step : DiskStep} {answer : Except Error Output}
    (h : task.Accepts facts step answer) (hs : step.mayFail = false) : answer.isOk = true := by
  cases step with
  | print => cases hs
  | signatures => cases hs
  | probe => cases hs
  | bareSize => obtain ⟨output, size, rfl, -⟩ := h; rfl
  | size => obtain ⟨output, size, rfl, -⟩ := h; rfl
  | wipe path => obtain ⟨output, rfl⟩ := h; rfl
  | remove index => obtain ⟨output, rfl⟩ := h; rfl
  | label => obtain ⟨output, rfl⟩ := h; rfl
  | make p => obtain ⟨output, rfl⟩ := h; rfl

/-- **What has succeeded is what the steps say**, among commands of which none may fail. -/
theorem Follows.successes_filter (P : CommandLine → Bool)
    (hP : ∀ step : DiskStep, step.mayFail = true → P (step.command task.device) = false)
    (h : task.Follows facts steps log) :
    (successesIn log).filter P = (steps.map (DiskStep.command task.device)).filter P := by
  induction h with
  | nil => rfl
  | @cons step steps log rest answer taken accepted _ ih =>
    rw [successesIn_append, List.filter_append, ih, taken.successes, List.map_cons]
    cases hfail : step.mayFail with
    | true =>
      have hno := hP step hfail
      rw [List.filter_cons, hno, if_neg Bool.false_ne_true]
      split
      · rw [List.filter_cons, hno, if_neg Bool.false_ne_true]
        rfl
      · rfl
    | false =>
      rw [accepted.succeeded hfail, if_pos rfl, ← List.filter_append, List.singleton_append]

/-- Every command of a pass is the command of one of its steps. -/
theorem Follows.commands (h : task.Follows facts steps log) {c : CommandLine}
    (hc : c ∈ commandsIn log) : ∃ step ∈ steps, c = step.command task.device := by
  induction h with
  | nil => cases hc
  | @cons step steps log rest answer taken accepted _ ih =>
    rw [commandsIn_append, List.mem_append] at hc
    rcases hc with hc | hc
    · exact ⟨step, List.mem_cons_self, taken.commands hc⟩
    · obtain ⟨later, hmem, hlater⟩ := ih hc
      exact ⟨later, List.mem_cons_of_mem _ hmem, hlater⟩

/-- The log of steps in a row is the logs in a row. -/
theorem Follows.split (h : task.Follows facts (a ++ b) log) :
    ∃ l m, log = l ++ m ∧ task.Follows facts a l ∧ task.Follows facts b m := by
  induction a generalizing log with
  | nil => exact ⟨[], log, rfl, .nil, h⟩
  | cons step a ih =>
    cases h with
    | @cons _ _ first rest answer taken accepted h =>
      obtain ⟨l, m, rfl, hl, hm⟩ := ih h
      exact ⟨first ++ l, m, (List.append_assoc _ _ _).symm, .cons taken accepted hl, hm⟩

/-- What a pass that makes a table has planned: the layout of the size that it was told last. -/
theorem Follows.planned (h : task.Follows facts (task.steps facts) log)
    (hleave : task.leavesAlone facts.table = false) (hdesired : task.desired.isEmpty = false) :
    ∃ before after output size,
      log = before ++ .ran (DiskStep.size.command task.device) (.ok output) :: after
        ∧ DiskStep.size.command task.device ∉ commandsIn after
        ∧ readBytes output.stdout.toList = .ok size
        ∧ plan task.owner task.device task.desired size.toNat = .ok facts.planned := by
  have hsteps : task.steps facts = (looking facts.unlabeled ++ removal facts)
      ++ .size :: .label :: ((task.named facts.planned).map .make ++ [.probe]) := by
    rw [steps, hleave, if_neg Bool.false_ne_true, creation, hdesired, if_neg Bool.false_ne_true,
      List.append_assoc]
  rw [hsteps] at h
  obtain ⟨before, rest, rfl, -, hrest⟩ := h.split
  cases hrest with
  | @cons _ _ asked after answer taken accepted hafter =>
    obtain ⟨output, size, rfl, hread, hplan⟩ := accepted
    have hasked : asked = [.ran (DiskStep.size.command task.device) (.ok output)] := taken
    refine ⟨before, after, output, size, by rw [hasked, List.singleton_append], fun hc => ?_,
      hread, hplan⟩
    obtain ⟨step, hmem, hstep⟩ := hafter.commands hc
    have hname : (step.command task.device).name = "lsblk" := by rw [← hstep]; rfl
    simp only [List.mem_cons, List.mem_append, List.mem_map, List.not_mem_nil, or_false] at hmem
    rcases hmem with rfl | ⟨p, -, rfl⟩ | rfl <;> simp [DiskStep.command] at hname

/-- The steps that remove partitions, among those that remove what is there. -/
theorem removal_filter (facts : DiskFacts) {P : DiskStep → Bool}
    (hremove : ∀ index, P (.remove index) = true) (hlist : P .signatures = false)
    (hwipe : ∀ path, P (.wipe path) = false) :
    (removal facts).filter P = facts.table.partitions.map fun p => .remove p.index := by
  unfold removal
  split
  · rename_i hempty
    rw [List.isEmpty_iff.mp hempty]
    rfl
  · simp [List.filter_map, Function.comp_def, hremove, hlist, hwipe]

/-- The partitions that a pass removes and makes, in its order. -/
theorem steps_relayout (h : task.leavesAlone facts.table = false) :
    (task.steps facts).filter (fun step => step.isRemove || step.isMake)
      = (facts.table.partitions.map fun p => .remove p.index)
        ++ if task.desired.isEmpty then [] else (task.named facts.planned).map .make := by
  have hlook : (looking facts.unlabeled).filter (fun step => step.isRemove || step.isMake) = [] := by
    cases facts.unlabeled <;> rfl
  have hremove : (removal facts).filter (fun step => step.isRemove || step.isMake)
      = facts.table.partitions.map fun p => .remove p.index :=
    removal_filter facts (fun _ => rfl) rfl fun _ => rfl
  have hmake : (task.creation facts).filter (fun step => step.isRemove || step.isMake)
      = if task.desired.isEmpty then [] else (task.named facts.planned).map .make := by
    unfold creation
    split
    · rfl
    · simp [List.filter_map, Function.comp_def, DiskStep.isRemove, DiskStep.isMake]
  rw [steps, h, if_neg Bool.false_ne_true, List.filter_append, List.filter_append, hlook, hremove,
    hmake, List.nil_append]

/-- The partitions that a pass makes, in its order. -/
theorem steps_makes (h : task.leavesAlone facts.table = false)
    (hdesired : task.desired.isEmpty = false) :
    (task.steps facts).filter DiskStep.isMake = (task.named facts.planned).map .make := by
  have hkinds : (task.steps facts).filter DiskStep.isMake
      = ((task.steps facts).filter fun step => step.isRemove || step.isMake).filter
        DiskStep.isMake := by
    rw [List.filter_filter]
    refine List.filter_congr fun step _ => ?_
    cases step <;> rfl
  rw [hkinds, steps_relayout h, hdesired, if_neg Bool.false_ne_true]
  simp [List.filter_map, Function.comp_def, DiskStep.isMake]

/-- Whatever a pass makes is one of the partitions that it has planned. -/
theorem Follows.makes_mem (h : task.Follows facts (task.steps facts) log)
    (hleave : task.leavesAlone facts.table = false) (hdesired : task.desired.isEmpty = false)
    {c : CommandLine} (hc : c ∈ commandsIn log) (hmakes : makes c = true) :
    c ∈ (task.named facts.planned).map fun p => (DiskStep.make p).command task.device := by
  obtain ⟨step, hstep, rfl⟩ := h.commands hc
  rw [DiskStep.makes_command] at hmakes
  have hmade : step ∈ (task.steps facts).filter DiskStep.isMake :=
    List.mem_filter.mpr ⟨hstep, hmakes⟩
  rw [steps_makes hleave hdesired] at hmade
  obtain ⟨p, hp, rfl⟩ := List.mem_map.mp hmade
  exact List.mem_map_of_mem hp

/-- The log of a pass that leaves the table alone: it prints the table, which is the owner's own and
    as desired, and runs nothing else. -/
def LeftAlone (task : DiskTask) (log : List Event) : Prop :=
  ∃ output table, log = [.ran (DiskStep.print.command task.device) (.ok output)]
    ∧ readTable output.stdout = .ok table ∧ task.leavesAlone table = true

theorem LeftAlone.commands (h : task.LeftAlone log) :
    commandsIn log = [DiskStep.print.command task.device] := by
  obtain ⟨output, table, rfl, -, -⟩ := h
  rfl

/-- **A pass that leaves the table alone prints it**, and runs nothing else. -/
theorem Follows.alone (h : task.Follows facts (task.steps facts) log)
    (hleave : task.leavesAlone facts.table = true) : task.LeftAlone log := by
  rw [steps, if_pos hleave, List.append_nil, looking] at h
  cases h with
  | @cons _ _ first rest answer taken accepted hrest =>
    have hfirst : first = [.ran (DiskStep.print.command task.device) answer] := taken
    rcases (accepts_print task).mp accepted with ⟨hlabel, -⟩ | ⟨hlabel, output, rfl, hread⟩
    · -- a device without a label has no partitions, and an empty table is nobody's
      rw [hlabel] at hrest
      cases hrest with
      | cons _ accepted _ =>
        obtain ⟨output, size, -, -, htable⟩ := accepted
        rw [htable] at hleave
        cases hleave
    · rw [hlabel] at hrest
      cases hrest
      exact ⟨output, facts.table, by rw [hfirst, List.append_nil], hread, hleave⟩

end DiskTask

/-! ## 3. The print decides -/

section

variable {H : Type} [Host H] {policy : DiskPolicy} {identityPath : Path} {device : String}
  {desired : List Partition} {owner : String} {output : Output} {s t : H}

/-- A device with a label has the table that its print reads as. -/
theorem getTable_read (hprint : Commands.run (DiskStep.print.command device) s = (.ok output, t)) :
    getTable device s = (readTable output.stdout, t) := by
  have htried : (runCommand "parted" ["-m", device, "unit", "B", "print"]).tried s
      = (.ok (.ok output), t) := by
    rw [Pass.tried_apply]
    unfold runCommand
    rw [show Commands.run ⟨"parted", ["-m", device, "unit", "B", "print"]⟩ s = (.ok output, t)
      from hprint]
  unfold getTable
  rw [Pass.bind_ok htried]
  rfl

/-- The pass of an agent with an identity is that of its owner. -/
theorem partitionDisk_owner (howner : agentId s identityPath = .ok owner) :
    partitionDisk policy identityPath device desired s
      = partitionAs policy owner device desired s := by
  have hid : ((getAgentId identityPath).within "Getting agent ID") s = (.ok owner, s) := by
    rw [Pass.within_apply]
    unfold getAgentId
    rw [howner]
    rfl
  unfold partitionDisk
  rw [Pass.bind_ok hid]

/-- The pass goes on by the table that it has found. -/
theorem partitionDisk_looked {table : Table} (howner : agentId s identityPath = .ok owner)
    (hlook : getTable device s = (.ok table, t)) :
    partitionDisk policy identityPath device desired s
      = settle ⟨policy, owner, device, desired⟩ table t := by
  have htable : ((getTable device).within ("Getting existing partitions of `" ++ device ++ "'")) s
      = (.ok table, t) := by
    rw [Pass.within_apply, hlook]
    rfl
  rw [partitionDisk_owner howner, partitionAs_eq ⟨policy, owner, device, desired⟩,
    Pass.bind_ok htable]

/-- **An owned table that is as desired is left alone**: it is printed, and nothing else happens. -/
theorem partitionDisk_alone {table : Table} (howner : agentId s identityPath = .ok owner)
    (hprint : Commands.run (DiskStep.print.command device) s = (.ok output, t))
    (hread : readTable output.stdout = .ok table)
    (hleave : (isOwned owner table.partitions
      && tableMatches table.partitions desired table.deviceSize.toNat) = true) :
    partitionDisk policy identityPath device desired s = (.ok (), t) := by
  have hlook : getTable device s = (.ok table, t) := by rw [getTable_read hprint, hread]
  have hkept : DiskTask.leavesAlone ⟨policy, owner, device, desired⟩ table = true := hleave
  rw [partitionDisk_looked howner hlook, settle, if_pos hkept]
  rfl

/-- A print that cannot be read ends the pass. -/
theorem partitionDisk_unread {e : Error} (howner : agentId s identityPath = .ok owner)
    (hprint : Commands.run (DiskStep.print.command device) s = (.ok output, t))
    (hread : readTable output.stdout = .error e) :
    ∃ e', partitionDisk policy identityPath device desired s = (.error e', t) := by
  have htable : ((getTable device).within ("Getting existing partitions of `" ++ device ++ "'")) s
      = (.error (.context ("Getting existing partitions of `" ++ device ++ "'") e), t) := by
    rw [Pass.within_apply, getTable_read hprint, hread]
    rfl
  rw [partitionDisk_owner howner]
  unfold partitionAs
  rw [Pass.bind_error htable]
  exact ⟨_, rfl⟩

/-! ## 4. The whole pass -/

/-- **A pass that ends well has followed all its steps.** -/
theorem partitionDisk_done (howner : agentId s identityPath = .ok owner)
    (hdone : partitionDisk policy identityPath device desired s = (.ok (), t)) :
    let task : DiskTask := ⟨policy, owner, device, desired⟩
    let log := logOn (partitionDisk policy identityPath device desired) s
    Leads log s t ∧ ∃ facts : DiskFacts, task.Follows facts (task.steps facts) log := by
  have hends := partitionDisk_log policy identityPath device desired s
  rw [howner, hdone] at hends
  obtain ⟨hlog, facts, -, hgoes⟩ := hends
  exact ⟨hlog, facts, hgoes.follows⟩

/-- The facts of a pass over a device whose print can be read: the table is the one that was read. -/
theorem DiskTask.Follows.table_read {task : DiskTask} {facts : DiskFacts} {log : List Event}
    {table : Table} (h : task.Follows facts (task.steps facts) log) (hlog : Leads log s t)
    (hprint : (Commands.run (DiskStep.print.command task.device) s).1 = .ok output)
    (hread : readTable output.stdout = .ok table) : facts.table = table := by
  have hsteps : ∃ more, task.steps facts = .print :: more := ⟨_, rfl⟩
  obtain ⟨more, hmore⟩ := hsteps
  rw [hmore] at h
  cases h with
  | @cons _ _ first rest answer taken accepted _ =>
    -- the first event is the print, so its answer is the one that the host gives
    have hfirst : first = [.ran (DiskStep.print.command task.device) answer] := taken
    rw [hfirst] at hlog
    cases hlog with
    | cons hmoves _ =>
      have hanswer : (Commands.run (DiskStep.print.command task.device) s).1 = answer :=
        congrArg Prod.fst hmoves
      rw [hprint] at hanswer
      subst hanswer
      rcases (accepts_print task).mp accepted with ⟨-, e, he, -⟩ | ⟨-, o, ho, hreads⟩
      · cases he
      · cases ho
        rw [hread] at hreads
        exact (Except.ok.inj hreads).symm

end

end HostAgent.Disk
