import HostAgent.Proofs.Attempts
import HostAgent.Proofs.Disk.Blind
import HostAgent.Proofs.Disk.Layout
import HostAgent.Proofs.Disk.Paths
import HostAgent.Proofs.Logged

/-!
# The steps of the pass over a disk

Which commands a pass runs, and in which order, follows from a few facts that it learns from answers
on its way. This file lists the steps that belong to such facts, and shows that a pass takes them in
order, all of them or up to the first one that fails for good or whose answer cannot be used.

* `DiskTask.steps` -- the list: look, then remove what is there, then make what is desired;
* `Follows`, `CutShort` -- the log of all steps, and the log that ends at a step in vain;
* `partitionDisk_in_order` -- every pass follows the list or is cut short.
-/

namespace HostAgent.Disk

/-! ## 1. Steps -/

/-- A command of the pass. -/
inductive DiskStep where
  /-- print the table -/
  | print
  /-- ask for the size of a device without a label -/
  | bareSize
  /-- list the signatures on the host -/
  | signatures
  | wipe (path : String)
  | remove (index : UInt32)
  /-- ask for the size of the device that is laid out -/
  | size
  | label
  | make (p : PlannedPartition)
  /-- have the kernel look at the new table -/
  | probe

namespace DiskStep

/-- The command line of a step. -/
def command (device : String) : DiskStep → CommandLine
  | print => ⟨"parted", ["-m", device, "unit", "B", "print"]⟩
  | bareSize | size => ⟨"lsblk", ["--nodeps", "-nb", "-o", "SIZE", device]⟩
  | signatures => ⟨"blkid", []⟩
  | wipe path => ⟨"wipefs", ["-a", path]⟩
  | remove index => ⟨"parted", ["-s", device, "rm", Decimal.text index.toNat]⟩
  | label => ⟨"parted", ["-s", device, "mklabel", "gpt"]⟩
  | make p =>
    ⟨"parted", ["-s", device, "unit", "B", "mkpart", p.name, p.fileSystem, Decimal.text p.start,
      Decimal.text p.stop]⟩
  | probe => ⟨"partprobe", [device]⟩

/-- The policy of a step that is retried. -/
def policy? (policy : DiskPolicy) : DiskStep → Option RetryPolicy
  | wipe _ | remove _ => some policy.removal
  | label | make _ => some policy.creation
  | _ => none

end DiskStep

/-- What a pass is to do, and for whom. -/
structure DiskTask where
  policy : DiskPolicy
  owner : String
  device : String
  desired : List Partition

/-- What a pass learns from answers. -/
structure DiskFacts where
  /-- the device has no label -/
  unlabeled : Bool
  table : Table
  /-- the partitions that bear signatures -/
  paths : List String
  planned : List PlannedPartition

namespace DiskTask

/-! ## 2. The list of steps -/

variable (task : DiskTask)

/-- The table is this owner's and is as desired. -/
def leavesAlone (table : Table) : Bool :=
  isOwned task.owner table.partitions
    && tableMatches table.partitions task.desired table.deviceSize.toNat

/-- The steps that look at the device. -/
def looking (unlabeled : Bool) : List DiskStep :=
  .print :: if unlabeled then [.bareSize] else []

/-- The steps that remove what is there: signatures of every path, then every partition. -/
def removal (facts : DiskFacts) : List DiskStep :=
  if facts.table.partitions.isEmpty then []
  else .signatures ::
    (facts.paths.map .wipe ++ facts.table.partitions.map fun p => .remove p.index)

/-- The planned partitions under the owner's name, numbered from one. -/
def named (planned : List PlannedPartition) : List PlannedPartition :=
  (planned.zipIdx 1).map fun p => { p.1 with name := task.owner ++ "-" ++ Decimal.text p.2 }

/-- The steps that make what is desired: a label, then every partition. -/
def creation (facts : DiskFacts) : List DiskStep :=
  if task.desired.isEmpty then []
  else .size :: .label :: ((task.named facts.planned).map .make ++ [.probe])

/-- All steps of a pass that learns the given facts. -/
def steps (facts : DiskFacts) : List DiskStep :=
  looking facts.unlabeled
    ++ if task.leavesAlone facts.table then [] else removal facts ++ task.creation facts

/-! ## 3. Answers -/

/-- The log of one step, with its last answer. -/
def Taken (step : DiskStep) (log : List Event) (answer : Except Error Output) : Prop :=
  match step.policy? task.policy with
  | none => log = [.ran (step.command task.device) answer]
  | some policy => Attempts policy (step.command task.device) log answer

/-- The answer to a step can be used, and says what the facts say. A device without a label is no
    failure of the print, a second exit status none of the list of signatures, and nothing is one
    of the last step. A list of signatures says which partitions of the device bear one. -/
def Accepts (facts : DiskFacts) : DiskStep → Except Error Output → Prop
  | .print, answer =>
    if facts.unlabeled then ∃ e, answer = .error e ∧ isUnlabeled e = true
    else ∃ output, answer = .ok output ∧ readTable output.stdout = .ok facts.table
  | .bareSize, answer =>
    ∃ output size, answer = .ok output ∧ readBytes output.stdout.toList = .ok size
      ∧ facts.table = ⟨[], size⟩
  | .signatures, answer =>
    (∃ output, answer = .ok output
        ∧ ListsPartitions task.device (Text.lines output.stdout.toList) facts.paths)
      ∨ ∃ command stdout stderr, answer = .error (.commandFailed command 2 stdout stderr)
        ∧ facts.paths = []
  | .size, answer =>
    ∃ output size, answer = .ok output ∧ readBytes output.stdout.toList = .ok size
      ∧ plan task.owner task.device task.desired size.toNat = .ok facts.planned
  | .probe, _ => True
  | _, answer => ∃ output, answer = .ok output

/-- The log of steps that are all taken, each with an answer that can be used. -/
inductive Follows (facts : DiskFacts) : List DiskStep → List Event → Prop where
  | nil : Follows facts [] []
  | cons {step : DiskStep} {steps : List DiskStep} {log rest : List Event}
      {answer : Except Error Output} (taken : task.Taken step log answer)
      (accepted : task.Accepts facts step answer) (h : Follows facts steps rest) :
      Follows facts (step :: steps) (log ++ rest)

/-- The log of steps that are taken up to the first one whose answer cannot be used, whatever the
    facts. -/
inductive CutShort (facts : DiskFacts) : List DiskStep → List Event → Prop where
  | here {step : DiskStep} {steps : List DiskStep} {log : List Event}
      {answer : Except Error Output} (taken : task.Taken step log answer)
      (refused : ∀ other, ¬ task.Accepts other step answer) :
      CutShort facts (step :: steps) log
  | later {step : DiskStep} {steps : List DiskStep} {log rest : List Event}
      {answer : Except Error Output} (taken : task.Taken step log answer)
      (accepted : task.Accepts facts step answer) (h : CutShort facts steps rest) :
      CutShort facts (step :: steps) (log ++ rest)

/-- The log of steps, all of them when the result is a value and cut short when it is an error. -/
def Goes {α : Type} (facts : DiskFacts) (steps : List DiskStep) (log : List Event)
    (r : Except Error α) : Prop :=
  (∃ a, r = .ok a) ∧ task.Follows facts steps log
    ∨ (∃ e, r = .error e) ∧ task.CutShort facts steps log

/-! ## 4. Logs in sequence -/

section

variable {task : DiskTask} {facts : DiskFacts} {a b : List DiskStep} {l m : List Event} {α : Type}

theorem Follows.append (h : task.Follows facts a l) (k : task.Follows facts b m) :
    task.Follows facts (a ++ b) (l ++ m) := by
  induction h with
  | nil => exact k
  | cons taken accepted _ ih =>
    rw [List.append_assoc]
    exact .cons taken accepted ih

theorem Follows.append_cut (h : task.Follows facts a l) (k : task.CutShort facts b m) :
    task.CutShort facts (a ++ b) (l ++ m) := by
  induction h with
  | nil => exact k
  | cons taken accepted _ ih =>
    rw [List.append_assoc]
    exact .later taken accepted ih

theorem CutShort.append (h : task.CutShort facts a l) (b : List DiskStep) :
    task.CutShort facts (a ++ b) l := by
  induction h with
  | here taken refused => exact .here taken refused
  | later taken accepted _ ih => exact .later taken accepted ih

theorem Follows.goes {r : Except Error α} (h : task.Follows facts a l)
    (k : task.Goes facts b m r) : task.Goes facts (a ++ b) (l ++ m) r := by
  rcases k with ⟨hr, k⟩ | ⟨hr, k⟩
  · exact Or.inl ⟨hr, h.append k⟩
  · exact Or.inr ⟨hr, h.append_cut k⟩

/-- A list of steps that is cut short is the start of any longer list. -/
theorem Goes.cut {r : Except Error α} (h : task.CutShort facts a l) (hr : ∃ e, r = .error e) :
    task.Goes facts (a ++ b) l r := Or.inr ⟨hr, h.append b⟩

/-- A pass that ends in a value has followed its steps. -/
theorem Goes.follows {x : α} (h : task.Goes facts a l (.ok x)) : task.Follows facts a l := by
  rcases h with ⟨-, h⟩ | ⟨⟨e, he⟩, -⟩
  · exact h
  · cases he

/-- A pass that ends in an error was cut short. -/
theorem Goes.cutShort {e : Error} (h : task.Goes facts a l (.error e : Except Error α)) :
    task.CutShort facts a l := by
  rcases h with ⟨⟨x, hx⟩, -⟩ | ⟨-, h⟩
  · cases hx
  · exact h

theorem Goes.mapError {r : Except Error α} (h : task.Goes facts a l r) (f : Error → Error) :
    task.Goes facts a l (r.mapError f) := by
  cases r with
  | ok x => exact h
  | error e => exact Or.inr ⟨⟨f e, rfl⟩, h.cutShort⟩

theorem Goes.nil (x : α) : task.Goes facts [] [] (.ok x) := Or.inl ⟨⟨x, rfl⟩, .nil⟩

/-- One step whose answer can be used. -/
theorem Goes.taken (step : DiskStep) {answer : Except Error Output}
    (taken : task.Taken step l answer) (accepted : task.Accepts facts step answer) (x : α) :
    task.Goes facts [step] l (.ok x) := by
  have h : task.Follows facts [step] (l ++ []) := .cons taken accepted .nil
  rw [List.append_nil] at h
  exact Or.inl ⟨⟨x, rfl⟩, h⟩

/-- One step whose answer cannot be used. -/
theorem Goes.refused (step : DiskStep) {answer : Except Error Output}
    (taken : task.Taken step l answer) (refused : ∀ other, ¬ task.Accepts other step answer)
    (e : Error) : task.Goes facts [step] l (.error e : Except Error α) :=
  Or.inr ⟨⟨e, rfl⟩, .here taken refused⟩

end

end DiskTask

/-- A planned partition has its owner's name already. -/
theorem named_of_plan (task : DiskTask) (howner : task.owner.isEmpty = false) {deviceSize : Nat}
    {planned : List PlannedPartition}
    (h : plan task.owner task.device task.desired deviceSize = .ok planned) :
    task.named planned = planned := by
  -- renaming by consecutive numbers changes nothing where the names are so already
  have key : ∀ (l : List PlannedPartition) (i n : Nat),
      l.map PlannedPartition.name = (List.range' i n).map (partitionName task.owner) →
        (l.zipIdx i).map (fun p => { p.1 with name := task.owner ++ "-" ++ Decimal.text p.2 }) = l := by
    intro l
    induction l with
    | nil => exact fun _ _ _ => rfl
    | cons p l ih =>
      intro i n hl
      cases n with
      | zero => cases hl
      | succ n =>
        rw [List.range'_succ, List.map_cons, List.map_cons, List.cons.injEq,
          partitionName_of_owner howner] at hl
        rw [List.zipIdx_cons, List.map_cons, ih (i + 1) n hl.2, ← hl.1]
  exact key planned 1 task.desired.length (plan_names h)

/-! ## 5. The parts of the pass -/

section

variable {H : Type} [Host H] (task : DiskTask)

open DiskTask

/-- A size is asked for by one command, and is what its answer reads as. -/
theorem getDeviceSize_ends (device : String) (s : H) :
    (getDeviceSize device).Ends s fun log r _ =>
      ∃ answer, log = [.ran (DiskStep.size.command device) answer]
        ∧ ∀ size, r = .ok size ↔
          ∃ output, answer = .ok output ∧ readBytes output.stdout.toList = .ok size :=
  Pass.ends_reading _ _ _ _ s

/-- What it takes to use the answer to a print. -/
theorem accepts_print {facts : DiskFacts} {answer : Except Error Output} :
    task.Accepts facts .print answer ↔
      facts.unlabeled = true ∧ (∃ e, answer = .error e ∧ isUnlabeled e = true)
        ∨ facts.unlabeled = false
          ∧ ∃ output, answer = .ok output ∧ readTable output.stdout = .ok facts.table := by
  cases hu : facts.unlabeled with
  | true => simp [Accepts, hu]
  | false => simp [Accepts, hu]

/-- Looking at the device: the table is what the print reads as, or is empty and of the size that the
    host reports. -/
theorem getTable_goes (s : H) :
    (getTable task.device).Ends s fun log r _ => ∃ unlabeled, ∀ facts : DiskFacts,
      facts.unlabeled = unlabeled → (∀ table, r = .ok table → facts.table = table) →
        task.Goes facts (looking unlabeled) log r := by
  refine Pass.ends_tried_bind fun answer t => ?_
  have taken : task.Taken .print [.ran (DiskStep.print.command task.device) answer] answer := rfl
  cases answer with
  | ok output =>
    refine .ofResult ⟨false, fun facts hu ht => ?_⟩
    cases hread : readTable output.stdout with
    | ok table =>
      have hfacts : readTable output.stdout = .ok facts.table := by rw [hread, ht table hread]
      exact Goes.taken _ taken ((accepts_print task).mpr (Or.inr ⟨hu, output, rfl, hfacts⟩)) table
    | error e =>
      refine Goes.refused _ taken (fun other haccepts => ?_) e
      rcases (accepts_print task).mp haccepts with ⟨-, _, h, -⟩ | ⟨-, o, h, hread'⟩
      · cases h
      · cases h
        rw [hread] at hread'
        cases hread'
  | error e =>
    cases hlabel : isUnlabeled e with
    | true =>
      have accepted : ∀ facts : DiskFacts, facts.unlabeled = true →
          task.Accepts facts .print (.error e) := fun facts hu =>
        (accepts_print task).mpr (Or.inl ⟨hu, e, rfl, hlabel⟩)
      simp only [hlabel, if_true]
      refine (getDeviceSize_ends task.device t).bind ?_ ?_
      · intro log size t' h
        obtain ⟨answer, rfl, hsize⟩ := h
        obtain ⟨output, rfl, hread⟩ := (hsize size).mp rfl
        refine .done ⟨true, fun facts hu ht => ?_⟩
        have htable : facts.table = ⟨[], size⟩ := ht _ rfl
        rw [List.append_nil]
        refine (Goes.taken _ taken (accepted facts hu) ()).follows.goes ?_
        exact Goes.taken .bareSize rfl ⟨output, size, rfl, hread, htable⟩ _
      · intro log e' t' h
        obtain ⟨answer, rfl, hsize⟩ := h
        refine ⟨true, fun facts hu _ => ?_⟩
        refine (Goes.taken _ taken (accepted facts hu) ()).follows.goes ?_
        refine Goes.refused .bareSize rfl (fun other haccepts => ?_) e'
        obtain ⟨output, size, ho, hread, -⟩ := haccepts
        cases (hsize size).mpr ⟨output, ho, hread⟩
    | false =>
      simp only [hlabel, Bool.false_eq_true, if_false]
      refine .failed ⟨false, fun facts hu _ => ?_⟩
      refine Goes.refused _ taken (fun other haccepts => ?_) _
      rcases (accepts_print task).mp haccepts with ⟨-, _, h, hlabel'⟩ | ⟨-, o, h, -⟩
      · cases h
        rw [hlabel] at hlabel'
        cases hlabel'
      · cases h

/-- A step that is retried: the answer to its last attempt decides. -/
theorem retried_goes (step : DiskStep) {policy : RetryPolicy} {name : String} {args : List String}
    (hpolicy : step.policy? task.policy = some policy)
    (hcommand : step.command task.device = ⟨name, args⟩)
    (haccepts : ∀ facts answer, task.Accepts facts step answer ↔ ∃ output, answer = .ok output)
    (words : String) (s : H) :
    (Pass.within words (do
        let _ ← retryPass policy (runCommand name args)
        return ())).Ends s fun log r _ => ∀ facts, task.Goes facts [step] log r := by
  have htaken : ∀ log answer, Attempts policy ⟨name, args⟩ log answer →
      task.Taken step log answer := by
    intro log answer h
    unfold Taken
    rw [hpolicy, hcommand]
    exact h
  refine Pass.EndsOn.within (P := fun log r _ => ∀ facts, task.Goes facts [step] log r) ?_
    fun log r t h facts => (h facts).mapError _
  refine (retryPass_ends policy name args s).bind ?_ ?_
  · intro log output t h
    obtain ⟨answer, hattempts, hr⟩ := h
    cases answer with
    | error e => cases hr
    | ok output' =>
      refine .done fun facts => ?_
      rw [List.append_nil]
      exact Goes.taken step (htaken _ _ hattempts) ((haccepts facts _).mpr ⟨output', rfl⟩) ()
  · intro log e t h facts
    obtain ⟨answer, hattempts, hr⟩ := h
    cases answer with
    | ok output => cases hr
    | error e' =>
      refine Goes.refused step (htaken _ _ hattempts) (fun other h => ?_) e
      obtain ⟨output, ho⟩ := (haccepts other _).mp h
      cases ho

/-- A step for each member of a list. -/
theorem forEach_goes {α : Type} {f : α → Pass H Unit} {step : α → DiskStep}
    (h : ∀ a s, (f a).Ends s fun log r _ => ∀ facts, task.Goes facts [step a] log r) (l : List α)
    (s : H) :
    (Pass.forEach l f).Ends s fun log r _ => ∀ facts, task.Goes facts (l.map step) log r := by
  induction l generalizing s with
  | nil => exact .done fun _ => Goes.nil _
  | cons a l ih =>
    refine (h a s).bind ?_ ?_
    · intro log _ t hfirst
      exact (ih t).mono fun more r u hrest facts => (hfirst facts).follows.goes (hrest facts)
    · exact fun log e t hfirst facts => Goes.cut (hfirst facts).cutShort ⟨e, rfl⟩

/-- The paths are those that the list of signatures names; a second exit status names none. -/
theorem getPartitionPaths_goes (s : H) :
    (getPartitionPaths task.device).Ends s fun log r _ => ∀ facts : DiskFacts,
      (∀ paths, r = .ok paths → paths.Nodup)
        ∧ ((∀ paths, r = .ok paths → facts.paths = paths) → task.Goes facts [.signatures] log r) := by
  refine Pass.ends_tried_bind fun answer t => ?_
  have taken : task.Taken .signatures [.ran (DiskStep.signatures.command task.device) answer]
    answer := rfl
  split
  · rename_i output
    refine .done fun facts => ⟨fun paths h => ?_, fun h => ?_⟩
    · cases h
      exact partitionPaths_nodup _ _
    · have hlists := partitionPaths_lists task.device output.stdout
      rw [← h _ rfl] at hlists
      exact Goes.taken _ taken (Or.inl ⟨output, rfl, hlists⟩) _
  · rename_i command stdout stderr
    refine .done fun facts => ⟨fun paths h => ?_, fun h => ?_⟩
    · cases h
      exact partitionPaths_nodup _ _
    · exact Goes.taken _ taken (Or.inr ⟨command, stdout, stderr, rfl, h _ rfl⟩) _
  · rename_i e hcode
    refine .failed fun facts => ⟨fun paths h => ?_, fun _ => ?_⟩
    · cases h
    · refine Goes.refused _ taken (fun other h => ?_) _
      rcases h with ⟨output, h, -⟩ | ⟨command, stdout, stderr, h, -⟩
      · cases h
      · cases h
        exact hcode _ _ _ rfl

theorem erasePath_goes (path : String) (s : H) :
    (erasePath task.policy.removal path).Ends s fun log r _ =>
      ∀ facts, task.Goes facts [.wipe path] log r :=
  retried_goes task (.wipe path) rfl rfl (fun _ _ => Iff.rfl) _ s

theorem removePartition_goes (p : ExistingPartition) (s : H) :
    (removePartition task.policy.removal task.device p).Ends s fun log r _ =>
      ∀ facts, task.Goes facts [.remove p.index] log r :=
  retried_goes task (.remove p.index) rfl rfl (fun _ _ => Iff.rfl) _ s

theorem label_goes (s : H) :
    ((runParted task.policy.creation ["-s", task.device, "mklabel", "gpt"]).within
      ("Creating GPT label on `" ++ task.device ++ "'")).Ends s fun log r _ =>
        ∀ facts, task.Goes facts [.label] log r :=
  retried_goes task .label rfl rfl (fun _ _ => Iff.rfl) _ s

theorem makePartition_goes (p : PlannedPartition) (s : H) :
    (makePartition task.policy.creation task.device p).Ends s fun log r _ =>
      ∀ facts, task.Goes facts [.make p] log r :=
  retried_goes task (.make p) rfl rfl (fun _ _ => Iff.rfl) _ s

/-- Removing what is there: signatures first, then the partitions. -/
theorem removePartitions_goes (table : Table) (s : H) :
    (removePartitions task.policy.removal task.device table.partitions).Ends s fun log r _ =>
      ∃ paths : List String, paths.Nodup ∧ ∀ facts : DiskFacts, facts.table = table →
        facts.paths = paths → task.Goes facts (removal facts) log r := by
  unfold removePartitions
  by_cases hempty : table.partitions.isEmpty = true
  · rw [if_pos hempty]
    refine .done ⟨[], List.nodup_nil, fun facts ht _ => ?_⟩
    rw [removal, ht, if_pos hempty]
    exact Goes.nil _
  · rw [if_neg hempty]
    have hremoval : ∀ facts : DiskFacts, facts.table = table → removal facts = [.signatures]
        ++ (facts.paths.map .wipe ++ table.partitions.map fun p => .remove p.index) := by
      intro facts ht
      rw [removal, ht, if_neg hempty]
      rfl
    refine (getPartitionPaths_goes task s).bind ?_ ?_
    · intro log paths t hpaths
      refine (forEach_goes task (erasePath_goes task) paths t).bind ?_ ?_
      · intro wiped _ t' hwiped
        refine (forEach_goes task (removePartition_goes task) table.partitions t').mono ?_
        intro removed r u hremoved
        refine ⟨paths, (hpaths ⟨false, table, paths, []⟩).1 _ rfl, fun facts ht hp => ?_⟩
        have hfirst := (hpaths facts).2 fun _ h => by cases h; exact hp
        rw [hremoval facts ht, hp]
        exact hfirst.follows.goes ((hwiped facts).follows.goes (hremoved facts))
      · intro wiped e t' hwiped
        refine ⟨paths, (hpaths ⟨false, table, paths, []⟩).1 _ rfl, fun facts ht hp => ?_⟩
        have hfirst := (hpaths facts).2 fun _ h => by cases h; exact hp
        rw [hremoval facts ht, hp]
        exact hfirst.follows.goes (Goes.cut (hwiped facts).cutShort ⟨e, rfl⟩)
    · intro log e t hpaths
      refine ⟨[], List.nodup_nil, fun facts ht _ => ?_⟩
      rw [hremoval facts ht]
      exact Goes.cut ((hpaths facts).2 fun _ h => by cases h).cutShort ⟨e, rfl⟩

/-- Making what is desired: a label, then every planned partition under the owner's name. -/
theorem makeTable_goes (howner : task.owner.isEmpty = false) (s : H) :
    (makeTable task.policy.creation task.owner task.device task.desired).Ends s fun log r _ =>
      ∃ planned, ∀ facts : DiskFacts, facts.planned = planned →
        task.Goes facts (task.creation facts) log r := by
  unfold makeTable
  by_cases hempty : task.desired.isEmpty = true
  · rw [if_pos hempty]
    refine .done ⟨[], fun facts _ => ?_⟩
    rw [creation, if_pos hempty]
    exact Goes.nil _
  · rw [if_neg hempty]
    have hcreation : ∀ facts : DiskFacts, task.creation facts =
        [.size] ++ ([.label] ++ ((task.named facts.planned).map .make ++ [.probe])) := by
      intro facts
      rw [creation, if_neg hempty]
      rfl
    refine (getDeviceSize_ends task.device s).bind ?_ ?_
    · intro log size t h
      obtain ⟨answer, rfl, hsize⟩ := h
      obtain ⟨output, rfl, hread⟩ := (hsize size).mp rfl
      have taken : task.Taken .size [.ran (DiskStep.size.command task.device) (.ok output)]
        (.ok output) := rfl
      refine Pass.EndsOn.bind (P := fun log r t' => log = []
        ∧ r = plan task.owner task.device task.desired size.toNat) (.ofResult ⟨rfl, rfl⟩) ?_ ?_
      · intro _ planned t' h
        obtain ⟨rfl, hplan⟩ := h
        have accepted : ∀ facts : DiskFacts, facts.planned = planned →
            task.Accepts facts .size (.ok output) := fun facts hp =>
          ⟨output, size, rfl, hread, by rw [hp, hplan]⟩
        have hnamed : task.named planned = planned := named_of_plan task howner hplan.symm
        refine (label_goes task t').bind ?_ ?_
        · intro labelled _ t₂ hlabelled
          refine (forEach_goes task (makePartition_goes task) planned t₂).bind ?_ ?_
          · intro made _ t₃ hmade
            refine (Pass.ends_runCommand "partprobe" [task.device] t₃).ignored ?_
            intro probed answer t₄ hlog
            subst hlog
            refine ⟨planned, fun facts hp => ?_⟩
            rw [hcreation facts, hp, hnamed]
            refine (Goes.taken .size taken (accepted facts hp) ()).follows.goes ?_
            refine (hlabelled facts).follows.goes ((hmade facts).follows.goes ?_)
            exact Goes.taken .probe rfl trivial _
          · intro made e t₃ hmade
            refine ⟨planned, fun facts hp => ?_⟩
            rw [hcreation facts, hp, hnamed]
            refine (Goes.taken .size taken (accepted facts hp) ()).follows.goes ?_
            exact (hlabelled facts).follows.goes (Goes.cut (hmade facts).cutShort ⟨e, rfl⟩)
        · intro labelled e t₂ hlabelled
          refine ⟨planned, fun facts hp => ?_⟩
          rw [hcreation facts]
          refine (Goes.taken .size taken (accepted facts hp) ()).follows.goes ?_
          exact Goes.cut (hlabelled facts).cutShort ⟨e, rfl⟩
      · intro _ e t' h
        obtain ⟨rfl, hplan⟩ := h
        refine ⟨[], fun facts _ => ?_⟩
        rw [hcreation facts, List.append_nil]
        refine Goes.cut (Goes.refused (α := Unit) .size taken (fun other h => ?_) e).cutShort
          ⟨e, rfl⟩
        obtain ⟨o, size', ho, hread', hplan'⟩ := h
        cases ho
        rw [hread] at hread'
        cases hread'
        rw [hplan'] at hplan
        cases hplan
    · intro log e t h
      obtain ⟨answer, rfl, hsize⟩ := h
      refine ⟨[], fun facts _ => ?_⟩
      rw [hcreation facts]
      refine Goes.cut (Goes.refused (α := Unit) .size rfl (fun other h => ?_) e).cutShort ⟨e, rfl⟩
      obtain ⟨output, size, ho, hread, -⟩ := h
      cases (hsize size).mpr ⟨output, ho, hread⟩

/-- What a pass does once it knows the table. -/
def settle (table : Table) : Pass H Unit := do
  if task.leavesAlone table then
    return ()
  (removePartitions task.policy.removal task.device table.partitions).within
    ("Removing existing partitions of `" ++ task.device ++ "'")
  (makeTable task.policy.creation task.owner task.device task.desired).within
    ("Partitioning ephemeral disk `" ++ task.device ++ "'")

/-- The pass looks at the table, and goes on by what it has found. -/
theorem partitionAs_eq :
    (partitionAs task.policy task.owner task.device task.desired : Pass H Unit)
      = (getTable task.device).within ("Getting existing partitions of `" ++ task.device ++ "'")
        >>= settle task := rfl

/-- How a pass goes on once it knows the table. -/
inductive Settles (facts : DiskFacts) : List Event → Except Error Unit → Prop where
  /-- the table is left alone -/
  | kept (h : task.leavesAlone facts.table = true) : Settles facts [] (.ok ())
  /-- something that is there cannot be removed -/
  | stuck {log : List Event} {e : Error} (h : task.leavesAlone facts.table = false)
      (cut : task.CutShort facts (removal facts) log) :
      Settles facts log
        (.error (.context ("Removing existing partitions of `" ++ task.device ++ "'") e))
  /-- everything that was there is removed, and a new table is made as far as it goes -/
  | cleared {removed made : List Event} {r : Except Error Unit}
      (h : task.leavesAlone facts.table = false)
      (removing : task.Follows facts (removal facts) removed)
      (making : task.Goes facts (task.creation facts) made r) :
      Settles facts (removed ++ made)
        (r.mapError (.context ("Partitioning ephemeral disk `" ++ task.device ++ "'")))

/-- The steps that belong to it. -/
theorem Settles.goes {facts : DiskFacts} {log : List Event} {r : Except Error Unit}
    (h : Settles task facts log r) :
    task.Goes facts (if task.leavesAlone facts.table then [] else removal facts ++ task.creation facts)
      log r := by
  cases h with
  | kept hleave =>
    rw [if_pos hleave]
    exact Goes.nil ()
  | stuck hleave cut =>
    rw [hleave, if_neg Bool.false_ne_true]
    exact Goes.cut cut ⟨_, rfl⟩
  | cleared hleave removing making =>
    rw [hleave, if_neg Bool.false_ne_true]
    exact removing.goes (making.mapError _)

/-- Once the table is known, it is left alone, or it is removed before a new one is made. -/
theorem settle_settles (howner : task.owner.isEmpty = false) (table : Table) (s : H) :
    (settle task table).Ends s fun log r _ => ∃ paths planned, paths.Nodup
      ∧ ∀ facts : DiskFacts, facts.table = table → facts.paths = paths →
        facts.planned = planned → Settles task facts log r := by
  unfold settle
  cases hleave : task.leavesAlone table with
  | true =>
    refine .done ⟨[], [], List.nodup_nil, fun facts ht _ _ => ?_⟩
    exact .kept (by rw [ht, hleave])
  | false =>
    rw [if_neg Bool.false_ne_true]
    have hremove : ((removePartitions task.policy.removal task.device table.partitions).within
        ("Removing existing partitions of `" ++ task.device ++ "'")).Ends s fun log r _ =>
          ∃ paths : List String, paths.Nodup ∧ ∀ facts : DiskFacts, facts.table = table →
            facts.paths = paths →
              r = .ok () ∧ task.Follows facts (removal facts) log
              ∨ (∃ e, r = .error (.context
                  ("Removing existing partitions of `" ++ task.device ++ "'") e))
                ∧ task.CutShort facts (removal facts) log := by
      refine (removePartitions_goes task table s).within ?_
      intro log r _ h'
      obtain ⟨paths, hn, h⟩ := h'
      refine ⟨paths, hn, fun facts ht hp => ?_⟩
      cases r with
      | ok u => exact Or.inl ⟨rfl, (h facts ht hp).follows⟩
      | error e => exact Or.inr ⟨⟨e, rfl⟩, (h facts ht hp).cutShort⟩
    refine hremove.bind ?_ ?_
    · intro removed _ t h
      obtain ⟨paths, hnodup, hremoved⟩ := h
      refine (makeTable_goes task howner t).within ?_
      intro made r _ h
      obtain ⟨planned, hmade⟩ := h
      refine ⟨paths, planned, hnodup, fun facts ht hp hpl => ?_⟩
      rcases hremoved facts ht hp with ⟨-, hfollows⟩ | ⟨⟨e, he⟩, -⟩
      · exact .cleared (by rw [ht, hleave]) hfollows (hmade facts hpl)
      · cases he
    · intro removed e t h
      obtain ⟨paths, hnodup, hremoved⟩ := h
      refine ⟨paths, [], hnodup, fun facts ht hp _ => ?_⟩
      rcases hremoved facts ht hp with ⟨he, -⟩ | ⟨⟨e', he⟩, hcut⟩
      · cases he
      · rw [Except.error.inj he]
        exact .stuck (by rw [ht, hleave]) hcut

/-- **The pass of a named owner takes its steps in order**, all of them or up to the first in vain. -/
theorem partitionAs_goes (howner : task.owner.isEmpty = false) (s : H) :
    (partitionAs task.policy task.owner task.device task.desired).Ends s fun log r _ =>
      ∃ facts : DiskFacts, facts.paths.Nodup ∧ task.Goes facts (task.steps facts) log r := by
  have hlook : ((getTable task.device).within
      ("Getting existing partitions of `" ++ task.device ++ "'")).Ends s fun log r _ =>
        ∃ unlabeled, ∀ facts : DiskFacts, facts.unlabeled = unlabeled →
          (∀ table, r = .ok table → facts.table = table) →
            task.Goes facts (looking unlabeled) log r := by
    refine (getTable_goes task s).within ?_
    intro log r _ h'
    obtain ⟨u, h⟩ := h'
    refine ⟨u, fun facts hu ht => ?_⟩
    cases r with
    | ok table => exact h facts hu ht
    | error e => exact (h facts hu fun _ hr => by cases hr).mapError _
  rw [partitionAs_eq]
  refine hlook.bind ?_ ?_
  · intro looked table t h
    obtain ⟨u, hu⟩ := h
    refine (settle_settles task howner table t).mono ?_
    intro log r _ h
    obtain ⟨paths, planned, hnodup, hsettles⟩ := h
    refine ⟨⟨u, table, paths, planned⟩, hnodup, ?_⟩
    have hfirst : task.Goes ⟨u, table, paths, planned⟩ (looking u) looked (.ok table) :=
      hu _ rfl fun _ hr => by cases hr; rfl
    exact hfirst.follows.goes (hsettles _ rfl rfl rfl).goes
  · intro looked e t h
    obtain ⟨u, hu⟩ := h
    refine ⟨⟨u, ⟨[], 0⟩, [], []⟩, List.nodup_nil, ?_⟩
    exact Goes.cut (hu _ rfl fun _ hr => by cases hr).cutShort ⟨e, rfl⟩

/-! ## 6. The whole pass -/

/-- An identity is never empty. -/
theorem agentId_not_empty {path : Path} {s : H} {owner : String}
    (h : agentId s path = .ok owner) : owner.isEmpty = false := by
  unfold agentId identityOf at h
  split at h
  · cases h
  · split at h
    · cases h
    · split at h
      · cases h
      · rename_i id hblank
        cases h
        rw [← Bool.not_eq_true, String.isEmpty_iff]
        intro heq
        subst heq
        exact hblank rfl

/-- What the pass asks of its host: nothing without an identity, else the steps of its owner. -/
theorem partitionDisk_goes (policy : DiskPolicy) (identityPath : Path) (device : String)
    (desired : List Partition) (s : H) :
    (partitionDisk policy identityPath device desired).Ends s fun log r _ =>
      match agentId s identityPath with
      | .error e => r = .error (.context "Getting agent ID" e) ∧ log = []
      | .ok owner =>
        let task : DiskTask := ⟨policy, owner, device, desired⟩
        ∃ facts : DiskFacts, facts.paths.Nodup ∧ task.Goes facts (task.steps facts) log r := by
  have hid : ((getAgentId identityPath).within "Getting agent ID").Ends s fun log r t =>
      log = [] ∧ t = s ∧ r = (agentId s identityPath).mapError (.context "Getting agent ID") :=
    Pass.EndsOn.within (P := fun log r t => log = [] ∧ t = s ∧ r = agentId s identityPath)
      (.still rfl ⟨rfl, rfl, rfl⟩) fun log r t ⟨hl, ht, hr⟩ => ⟨hl, ht, by rw [hr]⟩
  unfold partitionDisk
  refine hid.bind ?_ ?_
  · intro _ owner t h
    obtain ⟨rfl, rfl, hr⟩ := h
    cases howner : agentId t identityPath with
    | error e => rw [howner] at hr; cases hr
    | ok owner' =>
      rw [howner] at hr
      cases hr
      exact partitionAs_goes ⟨policy, owner, device, desired⟩ (agentId_not_empty howner) t
  · intro _ e t h
    obtain ⟨rfl, rfl, hr⟩ := h
    cases howner : agentId t identityPath with
    | error e' =>
      rw [howner] at hr
      cases hr
      exact ⟨rfl, rfl⟩
    | ok owner' => rw [howner] at hr; cases hr

/-- The log of a pass, without an identity or by the steps of its owner. -/
theorem partitionDisk_log (policy : DiskPolicy) (identityPath : Path) (device : String)
    (desired : List Partition) (s : H) :
    let pass := partitionDisk policy identityPath device desired s
    let log := logOn (partitionDisk policy identityPath device desired) s
    Leads log s pass.2
      ∧ match agentId s identityPath with
        | .error e => pass.1 = .error (.context "Getting agent ID" e) ∧ log = []
        | .ok owner =>
          let task : DiskTask := ⟨policy, owner, device, desired⟩
          ∃ facts : DiskFacts, facts.paths.Nodup ∧ task.Goes facts (task.steps facts) log pass.1 := by
  have hends := logOn_ends (partitionDisk_blind Logged.inFront policy identityPath device desired)
    (partitionDisk_goes policy identityPath device desired (⟨s, []⟩ : Logged H))
  exact hends

end

/-- **A pass over a disk runs its commands in a safe order**, and records no others: it looks at the
    device; unless the table is the owner's own and as desired, it erases every signature once, then
    removes every partition, and only then makes the new table. Each step is taken after all steps
    before it had an answer that can be used, and the pass ends in an error at the first step without
    one. Without an identity it runs nothing. -/
theorem partitionDisk_in_order (policy : DiskPolicy) (identityPath : Path) (device : String)
    (desired : List Partition) (h : Scripted) :
    let pass := partitionDisk policy identityPath device desired h
    let log := logOn (partitionDisk policy identityPath device desired) h
    Leads log h pass.2
      ∧ pass.2.commands = h.commands ++ linesIn log
      ∧ pass.2.sleeps = h.sleeps ++ pausesIn log
      ∧ match agentId h identityPath with
        | .error e => pass.1 = .error (.context "Getting agent ID" e) ∧ log = []
        | .ok owner =>
          let task : DiskTask := ⟨policy, owner, device, desired⟩
          ∃ facts : DiskFacts, facts.paths.Nodup
            ∧ (pass.1 = .ok () ∧ task.Follows facts (task.steps facts) log
              ∨ (∃ e, pass.1 = .error e) ∧ task.CutShort facts (task.steps facts) log) := by
  obtain ⟨hlog, hends⟩ := partitionDisk_log policy identityPath device desired h
  refine ⟨hlog, hlog.recorded.1, hlog.recorded.2, ?_⟩
  cases howner : agentId h identityPath with
  | error e =>
    rw [howner] at hends
    exact hends
  | ok owner =>
    rw [howner] at hends
    obtain ⟨facts, hnodup, ⟨⟨⟨⟩, hr⟩, hfollows⟩ | hcut⟩ := hends
    · exact ⟨facts, hnodup, Or.inl ⟨hr, hfollows⟩⟩
    · exact ⟨facts, hnodup, Or.inr hcut⟩

end HostAgent.Disk
