import HostAgent.Proofs.Disk.Outcome
import HostAgent.Proofs.Disk.Print

/-!
# Tables of other agents

A name is an owner and a number with a dash between them, and an owner is recognised by how a name
starts. So an owner whose name goes on in another one's, as `agent-1` does in `agent-12`, takes the
other one's table for its own.

* `isOwned_iff` -- an owner recognises the names that start like its own;
* `foreignTable_kept_or_replaced` -- what a pass does with a table that another owner made.
-/

namespace HostAgent.Disk

/-! ## 1. Names -/

/-- The names that an owner gives to so many partitions. -/
def numberedNames (owner : String) (count : Nat) : List String :=
  (List.range' 1 count).map fun i => owner ++ "-" ++ Decimal.text i

/-- An owner recognises the names that start like its own. -/
theorem isOwned_iff (owner : String) (existing : List ExistingPartition) :
    isOwned owner existing = true
      ↔ ∃ name ∈ existing.map ExistingPartition.name, owner.toList <+: name.toList := by
  unfold isOwned
  rw [List.any_eq_true]
  constructor
  · intro h
    obtain ⟨p, hp, hstart⟩ := h
    exact ⟨p.name, List.mem_map_of_mem hp, Text.startsWith_iff.mp hstart⟩
  · intro h
    obtain ⟨name, hname, hstart⟩ := h
    obtain ⟨p, hp, rfl⟩ := List.mem_map.mp hname
    exact ⟨p, hp, Text.startsWith_iff.mpr hstart⟩

/-! ## 2. A pass over a table of another owner -/

/-- **A table of another owner is taken for one's own when a name in it starts like one's own** and
    the layout is as desired: then it is printed, and nothing else happens. In every other case the
    pass ends in an error, or it has removed each partition of the table and has made the planned
    ones under its own names. -/
theorem foreignTable_kept_or_replaced (policy : DiskPolicy) (identityPath : Path) (device : String)
    (desired : List Partition) {h h' : Scripted} {r : Except Error Unit} {owner other : String}
    {output : Output} {table : Table} (howner : agentId h identityPath = .ok owner)
    (hprint : (Commands.run (DiskStep.print.command device) h).1 = .ok output)
    (hread : readTable output.stdout = .ok table)
    (hnames : table.partitions.map ExistingPartition.name
      = numberedNames other table.partitions.length)
    (hpass : partitionDisk policy identityPath device desired h = (r, h')) :
    let mistaken := (∃ name ∈ numberedNames other table.partitions.length,
        owner.toList <+: name.toList)
      ∧ tableMatches table.partitions desired table.deviceSize.toNat = true
    let log := logOn (partitionDisk policy identityPath device desired) h
    (mistaken → r = .ok ()
        ∧ h'.commands = h.commands ++ [(DiskStep.print.command device).text])
      ∧ (¬ mistaken → (∃ e, r = .error e) ∨ r = .ok ()
        ∧ ∃ planned, Leads log h h'
          ∧ planned.map PlannedPartition.name = numberedNames owner desired.length
          ∧ (desired ≠ [] → ∃ size, plan owner device desired size = .ok planned)
          ∧ (successesIn log).filter (fun c => removes c || makes c)
            = (table.partitions.map fun p => (DiskStep.remove p.index).command device)
              ++ planned.map fun p => (DiskStep.make p).command device) := by
  have hempty : owner.isEmpty = false := agentId_not_empty howner
  have hmistaken : ((∃ name ∈ numberedNames other table.partitions.length,
      owner.toList <+: name.toList)
        ∧ tableMatches table.partitions desired table.deviceSize.toNat = true)
      ↔ (isOwned owner table.partitions
        && tableMatches table.partitions desired table.deviceSize.toNat) = true := by
    rw [Bool.and_eq_true, isOwned_iff, hnames]
  refine ⟨fun hkept => ?_, fun hkept => ?_⟩
  · obtain ⟨queued, hrun⟩ := Scripted.run_answered hprint
    rw [partitionDisk_alone howner hrun hread (hmistaken.mp hkept)] at hpass
    cases hpass
    exact ⟨rfl, rfl⟩
  · cases r with
    | error e => exact Or.inl ⟨e, rfl⟩
    | ok u =>
      obtain ⟨hlog, facts, hfollows⟩ := partitionDisk_done howner hpass
      have htable : facts.table = table := hfollows.table_read hlog hprint hread
      have hleave : DiskTask.leavesAlone ⟨policy, owner, device, desired⟩ facts.table = false := by
        rw [htable, ← Bool.not_eq_true]
        exact fun hleave => hkept (hmistaken.mpr hleave)
      have hdone := hfollows.successes_filter (fun c => removes c || makes c) fun step hfail => by
        obtain ⟨hremove, hmake⟩ := DiskStep.not_relayout_of_mayFail hfail
        rw [DiskStep.removes_command, DiskStep.makes_command, hremove, hmake]
        rfl
      rw [List.filter_map] at hdone
      have hkinds : ((fun c => removes c || makes c) ∘ DiskStep.command device)
          = fun step => step.isRemove || step.isMake := by
        funext step
        rw [Function.comp_apply, DiskStep.removes_command, DiskStep.makes_command]
      rw [hkinds, DiskTask.steps_relayout hleave, htable] at hdone
      refine Or.inr ⟨rfl, ?_⟩
      cases desired with
      | nil =>
        refine ⟨[], hlog, rfl, fun hne => absurd rfl hne, ?_⟩
        rw [hdone]
        simp [List.map_map, Function.comp_def]
      | cons p ps =>
        obtain ⟨-, -, -, size, -, -, -, hplan⟩ := hfollows.planned hleave rfl
        refine ⟨facts.planned, hlog, ?_, fun _ => ⟨_, hplan⟩, ?_⟩
        · rw [plan_names hplan]
          unfold numberedNames
          exact List.map_congr_left fun i _ => partitionName_of_owner hempty i
        · rw [hdone, named_of_plan ⟨policy, owner, device, p :: ps⟩ hempty hplan]
          simp [List.map_map, Function.comp_def]

/-! ## 3. One owner's name in another one's -/

def samplePolicy : DiskPolicy := ⟨⟨3, 1000⟩, ⟨3, 1000⟩⟩

/-- Swap, and the rest for data. -/
def sampleLayout : List Partition := [⟨1073741824, .swap⟩, ⟨0, .linux⟩]

/-- The partitions of `sampleLayout` as `agent-12` made them. -/
def otherPartitions : List PrintedPartition :=
  [⟨1048576, 1074790399, "linux-swap(v1)", "agent-12-1", "swap"⟩,
    ⟨1074790400, 107373133823, "ext4", "agent-12-2", ""⟩]

/-- A host of `agent-1` whose device bears the table of `agent-12`. -/
def otherDevice : Scripted :=
  ({} : Scripted).putFile ⟨"/id.json"⟩ (Utf8.encode "\x7b\"agent_id\":\"agent-1\"\x7d")
    |>.stand "parted -m /dev/sdb unit B print"
      (.success (printTable "/dev/sdb" 107374182400 "scsi:512:512:gpt:Msft Virtual Disk:"
        otherPartitions))

/-- The table that is read there. -/
def otherTable : Table :=
  ⟨[⟨1, "agent-12-1", 1073741824, .swap⟩, ⟨2, "agent-12-2", 106298343424, .linux⟩], 107374182400⟩

theorem otherDevice_prints :
    (Commands.run (DiskStep.print.command "/dev/sdb") otherDevice).1
      = .ok ⟨printTable "/dev/sdb" 107374182400 "scsi:512:512:gpt:Msft Virtual Disk:"
          otherPartitions, ""⟩ := by
  rfl

theorem otherDevice_reads :
    readTable (printTable "/dev/sdb" 107374182400 "scsi:512:512:gpt:Msft Virtual Disk:"
      otherPartitions) = .ok otherTable := by
  have hdevice : PrintableDevice "/dev/sdb" 107374182400 "scsi:512:512:gpt:Msft Virtual Disk:" :=
    ⟨by decide, by decide, by decide⟩
  have hprintable : ∀ p ∈ otherPartitions, p.Printable := by
    intro p hp
    simp only [otherPartitions, List.mem_cons, List.not_mem_nil, or_false] at hp
    rcases hp with rfl | rfl
    · exact ⟨by decide, by decide, by decide, by decide⟩
    · exact ⟨by decide, by decide, by decide, by decide⟩
  exact (readTable_printTable hdevice hprintable).1 (by decide)

/-- `agent-1` leaves the table of `agent-12` as it is, and reports that all is well. -/
theorem foreignTable_kept :
    agentId otherDevice ⟨"/id.json"⟩ = .ok "agent-1"
      ∧ "agent-1" ≠ "agent-12" ∧ Text.allBlank "agent-12" = false
      ∧ (Commands.run (DiskStep.print.command "/dev/sdb") otherDevice).1
        = .ok ⟨printTable "/dev/sdb" 107374182400 "scsi:512:512:gpt:Msft Virtual Disk:"
            otherPartitions, ""⟩
      ∧ readTable (printTable "/dev/sdb" 107374182400 "scsi:512:512:gpt:Msft Virtual Disk:"
        otherPartitions) = .ok otherTable
      ∧ otherTable.partitions.map ExistingPartition.name = numberedNames "agent-12" 2
      ∧ (partitionDisk samplePolicy ⟨"/id.json"⟩ "/dev/sdb" sampleLayout otherDevice).1 = .ok ()
      ∧ (partitionDisk samplePolicy ⟨"/id.json"⟩ "/dev/sdb" sampleLayout otherDevice).2.commands
        = ["parted -m /dev/sdb unit B print"] := by
  have howner : agentId otherDevice ⟨"/id.json"⟩ = .ok "agent-1" := by rfl
  obtain ⟨queued, hrun⟩ := Scripted.run_answered otherDevice_prints
  have hpass : partitionDisk samplePolicy ⟨"/id.json"⟩ "/dev/sdb" sampleLayout otherDevice
      = (.ok (), { otherDevice with commands := ["parted -m /dev/sdb unit B print"], queued }) :=
    partitionDisk_alone howner hrun otherDevice_reads (by decide +kernel)
  refine ⟨howner, by decide, by decide, otherDevice_prints, otherDevice_reads, by decide, ?_, ?_⟩
  · rw [hpass]
  · rw [hpass]

/-- The same host, as a case of the general statement. -/
theorem foreignTable_kept_or_replaced_other :
    agentId otherDevice ⟨"/id.json"⟩ = .ok "agent-1"
      ∧ otherTable.partitions.map ExistingPartition.name = numberedNames "agent-12" 2
      ∧ (∃ name ∈ numberedNames "agent-12" 2, "agent-1".toList <+: name.toList)
      ∧ (partitionDisk samplePolicy ⟨"/id.json"⟩ "/dev/sdb" sampleLayout otherDevice).1 = .ok () := by
  have howner : agentId otherDevice ⟨"/id.json"⟩ = .ok "agent-1" := by rfl
  have hnames : otherTable.partitions.map ExistingPartition.name = numberedNames "agent-12" 2 := by
    decide
  have hstart : ∃ name ∈ numberedNames "agent-12" 2, "agent-1".toList <+: name.toList := by decide
  refine ⟨howner, hnames, hstart, ?_⟩
  rcases hpass : partitionDisk samplePolicy ⟨"/id.json"⟩ "/dev/sdb" sampleLayout otherDevice
    with ⟨r, h'⟩
  have hmatches :
      tableMatches otherTable.partitions sampleLayout otherTable.deviceSize.toNat = true := by
    decide +kernel
  exact ((foreignTable_kept_or_replaced samplePolicy ⟨"/id.json"⟩ "/dev/sdb" sampleLayout howner
    otherDevice_prints otherDevice_reads hnames hpass).1 ⟨hstart, hmatches⟩).1

end HostAgent.Disk
