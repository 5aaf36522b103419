import HostAgent.Disk.Ephemeral
import HostAgent.Proofs.Blind

/-!
# What a pass over a disk cannot see

A pass over a disk goes by the identity of its owner and by the answers to its commands, which are
those of the tools for disks and run in front. Whatever else two hosts differ in, it ends alike on
both.

* `partitionDisk_blind` -- the pass over a disk, from its parts.
-/

namespace HostAgent.Disk

variable {S T : Type} [Host S] [Host T] {R : S → T → Prop}

/-! ## 1. Looking at a device -/

theorem getDeviceSize_blind (h : Likeness InFront R) (device : String) :
    Blind R (getDeviceSize device) (getDeviceSize device) :=
  .bind ((h.tool _ (by decide)).within _) fun _ => .ofResult _

theorem getTable_blind (h : Likeness InFront R) (device : String) :
    Blind R (getTable device) (getTable device) := by
  refine .bind (h.tool _ (by decide)).tried fun outcome => ?_
  cases outcome with
  | ok output => exact .ofResult _
  | error e =>
    dsimp only
    split
    · exact .bind (getDeviceSize_blind h device) fun _ => .done _
    · exact .fail _

theorem getPartitionPaths_blind (h : Likeness InFront R) (device : String) :
    Blind R (getPartitionPaths device) (getPartitionPaths device) := by
  refine .bind (h.tool _ (by decide)).tried fun outcome => ?_
  split
  · exact .done _
  · exact .done _
  · exact .fail _

/-! ## 2. Removing and making partitions -/

theorem runParted_blind (h : Likeness InFront R) (policy : RetryPolicy) (args : List String) :
    Blind R (runParted policy args) (runParted policy args) :=
  .bind (h.retryPass (h.tool _ (by decide)) policy) fun _ => .done ()

theorem removePartitions_blind (h : Likeness InFront R) (policy : RetryPolicy) (device : String)
    (existing : List ExistingPartition) :
    Blind R (removePartitions policy device existing) (removePartitions policy device existing) := by
  have herase : ∀ path, Blind R (erasePath policy path) (erasePath policy path) := fun path =>
    .within (.bind (h.retryPass (h.tool _ (by decide)) policy) fun _ => .done ()) _
  unfold removePartitions
  split
  · exact .done ()
  · refine .bind (getPartitionPaths_blind h device) fun paths => ?_
    refine .bind (.forEach fun path _ => herase path) fun _ => ?_
    exact .forEach fun p _ => (runParted_blind h policy _).within _

theorem makeTable_blind (h : Likeness InFront R) (policy : RetryPolicy) (owner device : String)
    (desired : List Partition) :
    Blind R (makeTable policy owner device desired) (makeTable policy owner device desired) := by
  unfold makeTable
  split
  · exact .done ()
  · refine .bind (getDeviceSize_blind h device) fun size => .bind (.ofResult _) fun planned => ?_
    refine .bind ((runParted_blind h policy _).within _) fun _ => ?_
    refine .bind (.forEach fun p _ => (runParted_blind h policy _).within _) fun _ => ?_
    exact (h.tool _ (by decide)).ignored

/-! ## 3. The pass -/

/-- The identity of the owner is in a file. -/
theorem getAgentId_blind (h : Likeness InFront R) (identityPath : Path) :
    Blind R (getAgentId identityPath) (getAgentId identityPath) :=
  .reading fun _ _ hst => by rw [agentId, agentId, h.contents hst]

/-- **The pass over a disk** ends alike on hosts that are alike in front, and asks the same of
    them. -/
theorem partitionDisk_blind (h : Likeness InFront R) (policy : DiskPolicy) (identityPath : Path)
    (device : String) (desired : List Partition) :
    Blind R (partitionDisk policy identityPath device desired)
      (partitionDisk policy identityPath device desired) := by
  refine .bind ((getAgentId_blind h identityPath).within _) fun owner => ?_
  refine .bind ((getTable_blind h device).within _) fun table => ?_
  split
  · exact .done ()
  · exact .bind ((removePartitions_blind h _ _ _).within _) fun _ =>
      (makeTable_blind h _ _ _ _).within _

end HostAgent.Disk
