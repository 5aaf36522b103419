import HostAgent.Proofs.Disk.Impossible
import HostAgent.Proofs.Disk.Print

/-!
# A table that was made stays

A pass makes partitions by one computation of sizes and, when it comes again, compares the table
that it finds with another one. Both agree on every layout that was made, whatever the sizes and
wherever the device ends, and the names that were given are recognised. So what a pass has made the
next one leaves alone.

* `allClose_printed` -- the sizes that were made are those that are expected;
* `createdTable_stays` -- the pass after the one that made a table prints it, and does nothing else.
-/

namespace HostAgent.Disk

/-! ## 1. The table that was made, as it is printed -/

/-- The print shows a partition that was made for a desired one: from where to where and under which
    name it was made, and no file system or the one of the desired type. -/
structure Shows (made : Partition × PlannedPartition) (p : PrintedPartition) : Prop where
  start : p.start = made.2.start
  stop : p.stop = made.2.stop
  name : p.name = made.2.name
  fileSystem : p.fileSystem = ""
    ∨ made.1.type = .swap ∧ "linux-swap".toList <+: p.fileSystem.toList ∧ IsField p.fileSystem
    ∨ made.1.type = .linux ∧ p.fileSystem = "ext4"
  flags : '\n' ∉ p.flags.toList

section

variable {made : Partition × PlannedPartition} {p : PrintedPartition}

theorem Shows.fileSystem_isField (h : Shows made p) : IsField p.fileSystem := by
  rcases h.fileSystem with hfs | ⟨-, -, hfs⟩ | ⟨-, hfs⟩
  · rw [hfs]
    decide
  · exact hfs
  · rw [hfs]
    decide

/-- What is printed of a file system stands for no type or for the desired one. -/
theorem Shows.type (h : Shows made p) :
    typeOfFileSystem p.fileSystem = made.1.type ∨ typeOfFileSystem p.fileSystem = .empty := by
  rcases h.fileSystem with hfs | ⟨htype, hstart, -⟩ | ⟨htype, hfs⟩
  · right
    rw [hfs]
    rfl
  · left
    have hne : p.fileSystem.isEmpty = false := by
      rw [← Bool.not_eq_true, String.isEmpty_iff]
      intro hempty
      rw [hempty] at hstart
      exact absurd hstart (by decide)
    have hswap : Text.hasStart "linux-swap" p.fileSystem = true := Text.startsWith_iff.mpr hstart
    rw [typeOfFileSystem, hne, if_neg Bool.false_ne_true, if_pos hswap, htype]
  · left
    rw [hfs, htype]
    decide

/-- The size that is printed is the one that the partition was made for. -/
theorem Shows.size {deviceSize size : Nat} (h : Shows made p)
    (hfills : Fills deviceSize (made.1, size) made.2) : p.size = size := by
  have hlength := hfills.length
  have hpositive := hfills.positive
  simp only at hlength hpositive
  rw [PrintedPartition.size, h.start, h.stop]
  omega

theorem Shows.printable {deviceSize size : Nat} (h : Shows made p)
    (hfills : Fills deviceSize (made.1, size) made.2) (hdevice : deviceSize ≤ Decimal.max64)
    (hname : IsField made.2.name) : p.Printable := by
  refine ⟨h.fileSystem_isField, h.name ▸ hname, h.flags, ?_⟩
  have hlength := hfills.length
  have hinside := hfills.inside
  unfold usableEnd at hinside
  simp only at hlength
  rw [h.size hfills]
  omega

end

/-! ## 2. The comparison -/

/-- A partition that was made for a size is close to that size. -/
theorem isClose_shown {deviceSize number size : Nat} {d : Partition} {m : PlannedPartition}
    {p : PrintedPartition} (h : Shows (d, m) p) (hfills : Fills deviceSize (d, size) m)
    (hsize : p.size ≤ Decimal.max64) : isClose (p.existing number) d size = true := by
  have htype : (p.existing number).type = d.type ∨ (p.existing number).type = .empty := h.type
  have hword : (p.existing number).size.toNat = size := by
    have hlt : p.size < UInt64.size := Nat.lt_of_le_of_lt hsize (by decide)
    rw [← h.size hfills]
    exact UInt64.toNat_ofNat_of_lt hlt
  unfold isClose
  rw [hword, Nat.max_self, Nat.min_self, Nat.sub_self, Bool.and_eq_true, Bool.or_eq_true,
    decide_eq_true_eq, decide_eq_true_eq]
  exact ⟨htype, decide_eq_true (Nat.zero_le _)⟩

/-- **A printed table is close to the sizes that it was made for**, and it can be printed. -/
theorem allClose_printed (number : Nat) {deviceSize : Nat} {desired : List Partition}
    {sizes : List Nat} {made : List PlannedPartition} {printed : List PrintedPartition}
    (hfills : List.Forall₂ (Fills deviceSize) (desired.zip sizes) made)
    (hshows : List.Forall₂ Shows (desired.zip made) printed) (hdevice : deviceSize ≤ Decimal.max64)
    (hnames : ∀ m ∈ made, IsField m.name) :
    allClose ((printed.zipIdx number).map fun p => p.1.existing p.2) desired sizes = true
      ∧ ∀ p ∈ printed, p.Printable := by
  induction desired generalizing number sizes made printed with
  | nil =>
    cases hshows
    exact ⟨rfl, fun p hp => by cases hp⟩
  | cons d ds ih =>
    cases sizes with
    | nil =>
      cases hfills
      cases hshows
      exact ⟨rfl, fun p hp => by cases hp⟩
    | cons size sizes =>
      cases hfills with
      | @cons _ m _ made hm hfills =>
        cases hshows with
        | @cons _ p _ printed hp hshows =>
          have hprintable : p.Printable := hp.printable hm hdevice (hnames m List.mem_cons_self)
          obtain ⟨hrest, hlater⟩ := ih (number + 1) hfills hshows fun m' hm' =>
            hnames m' (List.mem_cons_of_mem _ hm')
          constructor
          · rw [List.zipIdx_cons, List.map_cons, allClose, hrest, Bool.and_true]
            exact isClose_shown hp hm hprintable.size
          · intro q hq
            rcases List.mem_cons.mp hq with rfl | hq
            · exact hprintable
            · exact hlater q hq

/-! ## 3. The next pass -/

section

variable {owner device : String} {desired : List Partition} {size : UInt64}
  {made : List PlannedPartition} {printed : List PrintedPartition}

/-- The names that an owner gives can be printed, and the owner recognises them. -/
theorem plannedName {deviceSize : Nat} (howner : owner.isEmpty = false) (hfield : IsField owner)
    (hplan : plan owner device desired deviceSize = .ok made) {m : PlannedPartition}
    (hm : m ∈ made) : IsField m.name ∧ owner.toList <+: m.name.toList := by
  have hmem : m.name ∈ made.map PlannedPartition.name := List.mem_map_of_mem hm
  rw [plan_names hplan] at hmem
  obtain ⟨number, -, hname⟩ := List.mem_map.mp hmem
  have hchars : m.name.toList = owner.toList ++ '-' :: Decimal.write number := by
    rw [← hname, partitionName_of_owner howner, Decimal.text]
    simp
  refine ⟨⟨?_, ?_⟩, hchars ▸ List.prefix_append _ _⟩
  · rw [hchars, List.mem_append, List.mem_cons]
    intro h'
    rcases h' with h | h | h
    · exact hfield.1 h
    · exact absurd h (by decide)
    · exact Decimal.not_mem_write (by decide) _ h
  · rw [hchars, List.mem_append, List.mem_cons]
    intro h'
    rcases h' with h | h | h
    · exact hfield.2 h
    · exact absurd h (by decide)
    · exact Decimal.not_mem_write (by decide) _ h

/-- A made table, as it is printed, is the owner's and as desired. -/
theorem printed_leavesAlone (howner : owner.isEmpty = false) (hfield : IsField owner)
    (hdesired : desired ≠ []) (hplan : plan owner device desired size.toNat = .ok made)
    (hshows : List.Forall₂ Shows (desired.zip made) printed) :
    let existing := (printed.zipIdx 1).map fun p => p.1.existing p.2
    (isOwned owner existing && tableMatches existing desired size.toNat) = true
      ∧ (∀ p ∈ printed, p.Printable) ∧ printed.length = desired.length := by
  obtain ⟨sizes, hsizes, hplace⟩ := plan_eq_ok hplan
  have hnames := fun m (hm : m ∈ made) => (plannedName howner hfield hplan hm).1
  have hdevice : size.toNat ≤ Decimal.max64 := Nat.le_sub_one_of_lt size.toNat_lt
  have hlength : printed.length = desired.length := by
    rw [← hshows.length_eq, List.length_zip, plan_length hplan, Nat.min_self]
  obtain ⟨hclose, hprintable⟩ :=
    allClose_printed 1 (placeFrom?_fills hplace) hshows hdevice hnames
  refine ⟨?_, hprintable, hlength⟩
  rw [Bool.and_eq_true]
  constructor
  · -- the first partition bears the owner's name
    have hpos : 0 < printed.length := by
      rw [hlength]
      exact List.length_pos_of_ne_nil hdesired
    obtain ⟨p, rest, rfl⟩ := List.exists_cons_of_length_pos hpos
    obtain ⟨dm, _, hp, -, hzip⟩ := List.forall₂_cons_right_iff.mp hshows
    have hmem : dm ∈ desired.zip made := hzip ▸ List.mem_cons_self
    refine (isOwned_iff owner _).mpr ⟨p.name, List.mem_cons_self, ?_⟩
    rw [hp.name]
    exact (plannedName howner hfield hplan (List.of_mem_zip hmem).2).2
  · unfold tableMatches
    rw [List.length_map, List.length_zipIdx, hlength, if_neg (fun h => h rfl), hsizes]
    exact hclose

end

/-- A made table stays: on every host of the same owner on which the device is printed with its size
    and the partitions that were made, a pass prints the table and does nothing else. It ends well
    exactly when the partitions can be numbered in 32 bits, as a label numbers them. -/
def Stays (identityPath : Path) (device : String) (desired : List Partition) (owner : String)
    (deviceSize : Nat) (made : List PlannedPartition) : Prop :=
  ∀ (policy : DiskPolicy) (again again' : Scripted) (r : Except Error Unit)
    (remarks stderr : String) (printed : List PrintedPartition),
    agentId again identityPath = .ok owner →
    '\n' ∉ remarks.toList →
    List.Forall₂ Shows (desired.zip made) printed →
    (Commands.run (DiskStep.print.command device) again).1
      = .ok ⟨printTable device deviceSize remarks printed, stderr⟩ →
    partitionDisk policy identityPath device desired again = (r, again') →
    (r = .ok () ↔ desired.length ≤ Decimal.max32)
      ∧ again'.commands = again.commands ++ [(DiskStep.print.command device).text]
      ∧ again'.sleeps = again.sleeps

theorem stays_of_plan {identityPath : Path} {device owner : String} {desired : List Partition}
    {size : UInt64} {made : List PlannedPartition} (hfield : IsField owner)
    (hdevice : IsField device) (hdesired : desired ≠ [])
    (hplan : plan owner device desired size.toNat = .ok made) :
    Stays identityPath device desired owner size.toNat made := by
  intro policy again again' r remarks stderr printed howner hremarks hshows hprint hpass
  obtain ⟨hleave, hprintable, hlength⟩ :=
    printed_leavesAlone (agentId_not_empty howner) hfield hdesired hplan hshows
  have hword : size.toNat ≤ Decimal.max64 := Nat.le_sub_one_of_lt size.toNat_lt
  obtain ⟨hreads, hfails⟩ := readTable_printTable ⟨hdevice, hremarks, hword⟩ hprintable
  rw [hlength, UInt64.ofNat_toNat] at hreads
  rw [hlength] at hfails
  obtain ⟨queued, hrun⟩ := Scripted.run_answered hprint
  by_cases hfits : desired.length ≤ Decimal.max32
  · rw [partitionDisk_alone howner hrun (hreads hfits) hleave] at hpass
    cases hpass
    exact ⟨⟨fun _ => hfits, fun _ => rfl⟩, rfl, rfl⟩
  · obtain ⟨e, he⟩ := hfails (Nat.not_le.mp hfits)
    obtain ⟨e', he'⟩ := partitionDisk_unread howner hrun he
    rw [he'] at hpass
    cases hpass
    refine ⟨⟨fun h => ?_, fun h => absurd h hfits⟩, rfl, rfl⟩
    cases h

/-! ## 4. Two passes -/

/-- **What a pass has made, the next one leaves alone.** A pass that ends well has left the table
    alone, or it has made one partition for each desired one, as planned for the size that the host
    has told it last, and no others; then the table stays, in whatever way it is printed. -/
theorem createdTable_stays (policy : DiskPolicy) (identityPath : Path) {device owner : String}
    {desired : List Partition} {h h' : Scripted} (howner : agentId h identityPath = .ok owner)
    (hfield : IsField owner) (hdevice : IsField device) (hdesired : desired ≠ [])
    (hdone : partitionDisk policy identityPath device desired h = (.ok (), h')) :
    let task : DiskTask := ⟨policy, owner, device, desired⟩
    let log := logOn (partitionDisk policy identityPath device desired) h
    Leads log h h' ∧ h'.commands = h.commands ++ linesIn log
      ∧ (task.LeftAlone log
        ∨ ∃ before after output size made,
          log = before ++ .ran (DiskStep.size.command device) (.ok output) :: after
            ∧ DiskStep.size.command device ∉ commandsIn after
            ∧ readBytes output.stdout.toList = .ok size
            ∧ plan owner device desired size.toNat = .ok made ∧ made.length = desired.length
            ∧ (successesIn log).filter makes = made.map (fun p => (DiskStep.make p).command device)
            ∧ (∀ c ∈ commandsIn log, makes c = true →
              c ∈ made.map fun p => (DiskStep.make p).command device)
            ∧ Stays identityPath device desired owner size.toNat made) := by
  have hempty : owner.isEmpty = false := agentId_not_empty howner
  obtain ⟨hlog, facts, hfollows⟩ := partitionDisk_done howner hdone
  refine ⟨hlog, hlog.recorded.1, ?_⟩
  cases hleave : DiskTask.leavesAlone ⟨policy, owner, device, desired⟩ facts.table with
  | true => exact Or.inl (hfollows.alone hleave)
  | false =>
    right
    have hsome : desired.isEmpty = false := by
      rw [← Bool.not_eq_true, List.isEmpty_iff]
      exact hdesired
    obtain ⟨before, after, output, size, hsplit, hlast, hread, hplan⟩ :=
      hfollows.planned hleave hsome
    have hnamed : DiskTask.named ⟨policy, owner, device, desired⟩ facts.planned = facts.planned :=
      named_of_plan ⟨policy, owner, device, desired⟩ hempty hplan
    have hmakes := hfollows.successes_filter makes fun step hfail => by
      rw [DiskStep.makes_command]
      exact (DiskStep.not_relayout_of_mayFail hfail).2
    have hkind : makes ∘ DiskStep.command device = DiskStep.isMake :=
      funext (DiskStep.makes_command device)
    rw [List.filter_map, hkind, DiskTask.steps_makes hleave hsome, hnamed, List.map_map] at hmakes
    refine ⟨before, after, output, size, facts.planned, hsplit, hlast, hread, hplan,
      plan_length hplan, hmakes, fun c hc hmake => ?_,
      stays_of_plan hfield hdevice hdesired hplan⟩
    have hmem := hfollows.makes_mem hleave hsome hc hmake
    rw [hnamed] at hmem
    exact hmem

/-- A host of an agent whose device has no label yet. -/
def bareDevice : Scripted :=
  (({} : Scripted).putFile ⟨"/id.json"⟩ (Utf8.encode "\x7b\"agent_id\":\"agent-1\"\x7d")
    |>.stand "parted -m /dev/sdb unit B print" (.failure 1 "Error: unrecognised disk label"))
    |>.stand "lsblk --nodeps -nb -o SIZE /dev/sdb" (.success "107374182400")

/-- The partitions that are planned for it. -/
def barePlan : List PlannedPartition :=
  [⟨"agent-1-1", "linux-swap", 1048576, 1074790399⟩,
    ⟨"agent-1-2", "ext4", 1074790400, 107373133823⟩]

/-- The commands that lay it out. -/
def bareCommands : List String :=
  ["parted -m /dev/sdb unit B print", "lsblk --nodeps -nb -o SIZE /dev/sdb",
    "lsblk --nodeps -nb -o SIZE /dev/sdb", "parted -s /dev/sdb mklabel gpt",
    "parted -s /dev/sdb unit B mkpart agent-1-1 linux-swap 1048576 1074790399",
    "parted -s /dev/sdb unit B mkpart agent-1-2 ext4 1074790400 107373133823",
    "partprobe /dev/sdb"]

/-- A device without a label is laid out with swap and data; when it is printed so, the next pass
    prints it and does nothing else. -/
theorem bareDevice_stays :
    agentId bareDevice ⟨"/id.json"⟩ = .ok "agent-1" ∧ IsField "agent-1" ∧ IsField "/dev/sdb"
      ∧ (partitionDisk samplePolicy ⟨"/id.json"⟩ "/dev/sdb" sampleLayout bareDevice).1 = .ok ()
      ∧ (partitionDisk samplePolicy ⟨"/id.json"⟩ "/dev/sdb" sampleLayout bareDevice).2.commands
        = bareCommands
      ∧ (∀ c ∈ commandsIn (logOn
            (partitionDisk samplePolicy ⟨"/id.json"⟩ "/dev/sdb" sampleLayout) bareDevice),
          makes c = true → c ∈ barePlan.map fun p => (DiskStep.make p).command "/dev/sdb")
      ∧ List.Forall₂ Shows (sampleLayout.zip barePlan) crampedPartitions
      ∧ (partitionDisk samplePolicy ⟨"/id.json"⟩ "/dev/sdb" sampleLayout crampedDevice).1 = .ok ()
      ∧ (partitionDisk samplePolicy ⟨"/id.json"⟩ "/dev/sdb" sampleLayout crampedDevice).2.commands
        = ["parted -m /dev/sdb unit B print"]
      ∧ (partitionDisk samplePolicy ⟨"/id.json"⟩ "/dev/sdb" sampleLayout crampedDevice).2.sleeps
        = [] := by
  have howner : agentId bareDevice ⟨"/id.json"⟩ = .ok "agent-1" := by rfl
  have hfield : IsField "agent-1" := by decide
  have hdevice : IsField "/dev/sdb" := by decide
  obtain ⟨hdone, hcommands⟩ :
      (partitionDisk samplePolicy ⟨"/id.json"⟩ "/dev/sdb" sampleLayout bareDevice).1 = .ok ()
        ∧ (partitionDisk samplePolicy ⟨"/id.json"⟩ "/dev/sdb" sampleLayout bareDevice).2.commands
          = bareCommands := by decide +kernel
  have hshows : List.Forall₂ Shows (sampleLayout.zip barePlan) crampedPartitions := by
    have hswap : Shows (⟨1073741824, .swap⟩, ⟨"agent-1-1", "linux-swap", 1048576, 1074790399⟩)
        ⟨1048576, 1074790399, "linux-swap(v1)", "agent-1-1", "swap"⟩ :=
      ⟨rfl, rfl, rfl, Or.inr (Or.inl ⟨rfl, by decide, by decide⟩), by decide⟩
    have hlinux : Shows (⟨0, .linux⟩, ⟨"agent-1-2", "ext4", 1074790400, 107373133823⟩)
        ⟨1074790400, 107373133823, "ext4", "agent-1-2", ""⟩ :=
      ⟨rfl, rfl, rfl, Or.inr (Or.inr ⟨rfl, rfl⟩), by decide⟩
    exact .cons hswap (.cons hlinux .nil)
  have hpass : partitionDisk samplePolicy ⟨"/id.json"⟩ "/dev/sdb" sampleLayout bareDevice = (.ok (),
      (partitionDisk samplePolicy ⟨"/id.json"⟩ "/dev/sdb" sampleLayout bareDevice).2) := by
    rw [← hdone]
  obtain ⟨hlog, hrecorded, hmade⟩ :=
    createdTable_stays samplePolicy ⟨"/id.json"⟩ howner hfield hdevice (by decide) hpass
  rcases hmade with hprint | ⟨_, _, output, size, made, hsplit, -, hread, hplan, -, -, hmakes, hstays⟩
  · -- seven commands were run, not one
    rw [hcommands, linesIn, hprint.commands] at hrecorded
    cases congrArg List.length hrecorded
  · -- the size is the one that the host tells, so the plan is that of the device
    have hran : Event.ran (DiskStep.size.command "/dev/sdb") (.ok output) ∈ logOn (partitionDisk
        samplePolicy ⟨"/id.json"⟩ "/dev/sdb" sampleLayout) bareDevice := by
      rw [hsplit]
      exact List.mem_append_right _ List.mem_cons_self
    have houtput : (⟨"107374182400", ""⟩ : Output) = output :=
      Except.ok.inj (hlog.answered rfl hran)
    have hsize : readBytes "107374182400".toList = .ok 107374182400 := by decide +kernel
    rw [← houtput, hsize] at hread
    obtain rfl : 107374182400 = size := Except.ok.inj hread
    have hbare : plan "agent-1" "/dev/sdb" sampleLayout (107374182400 : UInt64).toNat
        = .ok barePlan := by decide +kernel
    rw [hbare] at hplan
    obtain rfl : barePlan = made := Except.ok.inj hplan
    obtain ⟨hagain, hlines, hsleeps⟩ := hstays samplePolicy crampedDevice _ _
      "scsi:512:512:gpt:Msft Virtual Disk:" "" crampedPartitions crampedDevice_owner (by decide)
      hshows (congrArg Prod.fst crampedDevice_prints) (Prod.eta _).symm
    exact ⟨howner, hfield, hdevice, hdone, hcommands, hmakes, hshows, hagain.mpr (by decide),
      hlines.trans (by decide +kernel), hsleeps.trans rfl⟩

end HostAgent.Disk
