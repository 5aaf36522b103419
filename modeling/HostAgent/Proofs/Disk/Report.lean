import HostAgent.Proofs.Disk.Foreign
import HostAgent.Proofs.LastRun

/-!
# What a failed pass over a disk reports

Several commands may fail on the way of a pass without being the reason why it fails: the print of a
device without a label, a list of signatures with nothing in it, all attempts but the last one, the
last request to the kernel. What is reported is always about the last command that was run.

* `getTable_closes`, `removePartitions_tells`, `makeTable_reports` -- the parts of the pass;
* `partitionDisk_blames_last` -- the error says what the last command wrote when that one failed,
  and says nothing otherwise.
-/

namespace HostAgent.Disk

/-! ## 1. Errors that are about no command -/

theorem readBytes_wordless (field : List Char) : Wordless (readBytes field) := by
  unfold readBytes
  split
  · exact .ok _
  · exact .error rfl

theorem readDeviceLine_wordless (line : List Char) : Wordless (readDeviceLine line) := by
  unfold readDeviceLine
  split
  · exact readBytes_wordless _
  · exact .error rfl

theorem readPartitionLine_wordless (line : List Char) : Wordless (readPartitionLine line) := by
  unfold readPartitionLine
  split
  · split
    · exact .error rfl
    · exact (readBytes_wordless _).bind fun _ => .ok _
  · exact .error rfl

theorem readTable_wordless (stdout : String) : Wordless (readTable stdout) := by
  unfold readTable
  split
  · exact .error rfl
  · refine (readDeviceLine_wordless _).bind fun size => ?_
    exact (Errors.mapM readPartitionLine_wordless _).bind fun _ => .ok _

theorem plan_wordless (owner device : String) (desired : List Partition) (size : Nat) :
    Wordless (plan owner device desired size) := by
  unfold plan
  split
  · exact .error rfl
  · split
    · exact .ok _
    · exact .error rfl

theorem identityOf_wordless (path : Path) (contents : Except Fault Bytes) :
    Wordless (identityOf path contents) := by
  unfold identityOf
  split
  · exact .error rfl
  · split
    · exact .error rfl
    · split
      · exact .error rfl
      · exact .ok _

/-! ## 2. The parts of the pass -/

section

variable {H : Type} [Host H]

open Pass

theorem getDeviceSize_closes (device : String) :
    (getDeviceSize device : Pass H UInt64).Always Closes :=
  ((closes_runCommand _ _).closes_within _).closes_bind fun _ =>
    tells_ofResult (readBytes_wordless _)

/-- Of a device without a label the print fails in vain, but its size is asked for next. -/
theorem getTable_closes (device : String) : (getTable device : Pass H Table).Always Closes := by
  refine fun s => ends_tried_bind fun answer t => ?_
  cases answer with
  | ok output => exact .ofResult ⟨Option.some_ne_none _, (readTable_wordless _).words⟩
  | error e =>
    by_cases hlabel : isUnlabeled e = true
    · simp only [hlabel, if_true]
      have hsize : (getDeviceSize device >>= fun size => pure ⟨[], size⟩ : Pass H Table).Always
          Closes := (getDeviceSize_closes device).closes_bind fun _ => tells_done _
      exact (hsize t).mono fun _ _ _ h => h.after
    · simp only [hlabel]
      exact .failed ⟨Option.some_ne_none _, rfl⟩

theorem runParted_closes (policy : RetryPolicy) (args : List String) :
    (runParted policy args : Pass H Unit).Always Closes :=
  (closes_retry policy "parted" args).closes_bind fun _ => tells_done ()

theorem erasePath_closes (policy : RetryPolicy) (path : String) :
    (erasePath policy path : Pass H Unit).Always Closes :=
  ((closes_retry policy "wipefs" ["-a", path]).closes_bind fun _ => tells_done ()).closes_within _

/-- A list of signatures may fail because there are none: then there is a value. -/
theorem getPartitionPaths_reports (device : String) :
    (getPartitionPaths device : Pass H (List String)).Always Reports := by
  refine fun s => ends_tried_bind fun answer t => ?_
  split
  · exact .done fun e he => by cases he
  · exact .done fun e he => by cases he
  · refine .failed fun e he => ?_
    cases he
    rfl

/-- There is always a partition to remove after the list of signatures, so a failure of the list in
    vain is never the last one. -/
theorem removePartitions_tells (policy : RetryPolicy) (device : String)
    (existing : List ExistingPartition) :
    (removePartitions policy device existing : Pass H Unit).Always Tells := by
  unfold removePartitions
  split
  · exact tells_done ()
  · rename_i hexisting
    have hne : existing ≠ [] := fun h => hexisting (List.isEmpty_iff.mpr h)
    have hremove : (Pass.forEach existing (removePartition policy device) : Pass H Unit).Always
        Closes := Always.closes_forEach (fun _ => (runParted_closes _ _).closes_within _) hne
    refine (getPartitionPaths_reports device).reports_closes fun paths => ?_
    by_cases hpaths : paths = []
    · subst hpaths
      exact hremove
    · have herase := Always.closes_forEach (erasePath_closes (H := H) policy) hpaths
      exact herase.closes_bind fun _ => hremove.tells

/-- The last request to the kernel may fail in vain. -/
theorem makeTable_reports (policy : RetryPolicy) (owner device : String)
    (desired : List Partition) :
    (makeTable policy owner device desired : Pass H Unit).Always Reports := by
  unfold makeTable
  split
  · exact (tells_done ()).reports
  · refine (getDeviceSize_closes device).tells.reports_bind fun size => ?_
    refine (tells_ofResult (plan_wordless _ _ _ _)).reports_bind fun planned => ?_
    refine ((runParted_closes _ _).closes_within _).tells.reports_bind fun _ => ?_
    have hmake := Always.tells_forEach (H := H)
      (fun p => (runParted_closes policy _).closes_within _ :
        ∀ p, (makePartition policy device p).Always Closes) planned
    refine hmake.reports_bind fun _ s => ?_
    exact (ends_runCommand "partprobe" [device] s).ignored fun _ _ _ _ e he => by cases he

/-- **The error of a pass has the words of the last command**, on every host. -/
theorem partitionDisk_words (policy : DiskPolicy) (identityPath : Path) (device : String)
    (desired : List Partition) :
    (partitionDisk policy identityPath device desired : Pass H Unit).Always Reports := by
  have howner : (getAgentId identityPath : Pass H String).Always Tells := fun _ =>
    .still rfl (identityOf_wordless _ _).words
  refine (howner.tells_within _).reports_bind fun owner => ?_
  refine ((getTable_closes device).tells.tells_within _).reports_bind fun table => ?_
  split
  · exact (tells_done ()).reports
  · refine ((removePartitions_tells _ _ _).tells_within _).reports_bind fun _ => ?_
    exact (makeTable_reports _ _ _ _).reports_within _

end

/-! ## 3. The whole pass -/

/-- **A failed pass blames the last command that it ran**, and no other one: the error carries what
    that command wrote to its standard error exactly when the command ran and exited with another
    status than zero, and carries nothing exactly when no command was run, or the last one could not
    be started or succeeded. -/
theorem partitionDisk_blames_last (policy : DiskPolicy) (identityPath : Path) (device : String)
    (desired : List Partition) (h : Scripted) :
    let pass := partitionDisk policy identityPath device desired h
    let log := logOn (partitionDisk policy identityPath device desired) h
    Leads log h pass.2
      ∧ pass.2.commands = h.commands ++ linesIn log
      ∧ ∀ e, pass.1 = .error e →
        (∀ words, e.stderr = some words ↔ ∃ c reply, LastReply h log c reply
            ∧ reply.spawnError = false ∧ reply.exitCode ≠ 0 ∧ reply.stderr = words)
          ∧ (e.stderr = none ↔ commandsIn log = []
            ∨ ∃ c reply, LastReply h log c reply
              ∧ (reply.spawnError = true ∨ reply.exitCode = 0)) := by
  obtain ⟨hlog, hreports⟩ := logOn_ends
    (partitionDisk_blind Logged.inFront policy identityPath device desired)
    (partitionDisk_words policy identityPath device desired (⟨h, []⟩ : Logged Scripted))
  refine ⟨hlog, hlog.recorded.1, fun e he => ?_⟩
  rw [hreports e he]
  exact ⟨fun _ => hlog.lastWords_eq_some_iff, hlog.lastWords_eq_none_iff⟩

/-- A device with one partition that stays in use, on a host without signatures: the attempts to
    remove it fail, each with words of its own. -/
def busyDevice : Scripted :=
  ({} : Scripted).putFile ⟨"/id.json"⟩ (Utf8.encode "\x7b\"agent_id\":\"agent-1\"\x7d")
    |>.stand "parted -m /dev/sdb unit B print"
      (.success "BYT;\n/dev/sdb:9B:;\n1:1B:8B:8B:::;\n")
    |>.stand "blkid" (.failure 2 "none found")
    |>.queue "parted -s /dev/sdb rm 1" (.failure 1 "in use")
    |>.queue "parted -s /dev/sdb rm 1" (.failure 1 "still in use")
    |>.stand "parted -s /dev/sdb rm 1" (.failure 1 "in use for good")

/-- The error of a pass over it that wants nothing there. -/
def busyError : Error :=
  .context "Removing existing partitions of `/dev/sdb'" <|
    .context "Removing partition 1 from `/dev/sdb'" <|
      .retriesExhausted 3 (.commandFailed "parted -s /dev/sdb rm 1" 1 "" "in use for good")

theorem busyDevice_fails :
    (partitionDisk samplePolicy ⟨"/id.json"⟩ "/dev/sdb" [] busyDevice).1 = .error busyError := by
  decide +kernel

/-- The words are those of the last attempt: neither those of the list of signatures nor those of
    the attempts before it. -/
theorem partitionDisk_blames_last_attempt :
    let log := logOn (partitionDisk samplePolicy ⟨"/id.json"⟩ "/dev/sdb" []) busyDevice
    (partitionDisk samplePolicy ⟨"/id.json"⟩ "/dev/sdb" [] busyDevice).1 = .error busyError
      ∧ (partitionDisk samplePolicy ⟨"/id.json"⟩ "/dev/sdb" [] busyDevice).2.commands = linesIn log
      ∧ ∃ c reply, LastReply busyDevice log c reply
        ∧ reply.spawnError = false ∧ reply.exitCode ≠ 0 ∧ reply.stderr = "in use for good" := by
  have hpass := busyDevice_fails
  obtain ⟨-, hcommands, hblames⟩ :=
    partitionDisk_blames_last samplePolicy ⟨"/id.json"⟩ "/dev/sdb" [] busyDevice
  have hfresh : busyDevice.commands = [] := rfl
  rw [hfresh, List.nil_append] at hcommands
  exact ⟨hpass, hcommands, ((hblames busyError hpass).1 "in use for good").mp rfl⟩

end HostAgent.Disk
