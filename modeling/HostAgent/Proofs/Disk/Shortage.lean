import HostAgent.Proofs.Disk.Room

/-!
# How much space is missing

When a layout does not fit, the error has two figures: the bytes that the partitions need and the
bytes that the device has. The first one is a sum of its own: every size is rounded up, the last one
too, a size that is not given counts for nothing, and no sum goes past the largest word.

* `sizesTogether`, `requiredBytes_eq` -- the sum without a cap, and the figure;
* `NothingLeft` -- the last partition is to have what is left, and nothing is;
* `le_sizesTogether_of_not_fits` -- a layout that does not fit needs all of the device;
* `plan_shortage` -- what the two figures tell.
-/

namespace HostAgent.Disk

/-! ## 1. The figure -/

/-- What partitions need, each of them rounded up, with a unit at either end of the device. -/
def sizesTogether (desired : List Partition) : Nat :=
  2 * alignment + (desired.map fun p => alignUp p.size.toNat).sum

/-- A size whose multiple is past the largest word brings any sum to it. -/
theorem min_add_alignUp? (n offset : Nat) :
    min Decimal.max64 (n + (alignUp? offset).getD Decimal.max64)
      = min Decimal.max64 (n + alignUp offset) := by
  have hword : alignUp? offset = word? (alignUp offset) := rfl
  rw [hword, word?]
  split
  · rw [Option.getD_some]
  · rw [Option.getD_none]
    omega

/-- **The figure is the sum, as far as the largest word goes.** -/
theorem requiredBytes_eq (desired : List Partition) :
    requiredBytes desired = min Decimal.max64 (sizesTogether desired) := by
  have hsum : ∀ n ≤ Decimal.max64, desired.foldl (fun n p =>
        min Decimal.max64 (n + (alignUp? p.size.toNat).getD Decimal.max64)) n
      = min Decimal.max64 (n + (desired.map fun p => alignUp p.size.toNat).sum) := by
    induction desired with
    | nil =>
      intro n hn
      exact (Nat.min_eq_right hn).symm
    | cons p ps ih =>
      intro n _
      rw [List.foldl_cons, ih _ (Nat.min_le_left _ _), min_add_alignUp?, List.map_cons,
        List.sum_cons]
      omega
  exact hsum (2 * alignment) (by decide)

/-! ## 2. What does not fit -/

/-- The last partition is to have what the others leave of the device, and they leave nothing. -/
def NothingLeft (desired : List Partition) (deviceSize : Nat) : Prop :=
  ∃ last ∈ desired.getLast?, last.size = 0 ∧ sizesTogether desired.dropLast = deviceSize

/-- The last partition adds its size to the sum, rounded up. -/
theorem sizesTogether_concat (others : List Partition) (last : Partition) :
    sizesTogether (others ++ [last]) = sizesTogether others + alignUp last.size.toNat := by
  unfold sizesTogether
  rw [List.map_append, List.map_singleton, List.sum_append, List.sum_singleton, Nat.add_assoc]

/-- **A layout that does not fit needs more than the device has**, or nothing is left for the last
    partition. -/
theorem lt_sizesTogether_of_not_fits {desired : List Partition} {deviceSize : Nat}
    (h : ¬Fits desired deviceSize) (hleft : ¬NothingLeft desired deviceSize) :
    deviceSize < sizesTogether desired := by
  rw [Fits] at h
  push Not at h
  obtain ⟨last, hlast, hroom⟩ := h
  obtain ⟨others, rfl⟩ := List.getLast?_eq_some_iff.mp hlast
  rw [List.dropLast_concat] at hroom
  have htaken : 2 * alignment + bytesTaken others last
      = sizesTogether others + max last.size.toNat 1 := (Nat.add_assoc _ _ _).symm
  have hup : last.size.toNat ≤ alignUp last.size.toNat := le_alignUp _
  rw [sizesTogether_concat]
  by_cases hgiven : last.size = 0
  · -- the one byte that it takes is not in the sum
    have hsum : sizesTogether others ≠ deviceSize := fun heq =>
      hleft ⟨last, hlast, hgiven, by rw [List.dropLast_concat]; exact heq⟩
    omega
  · have hpositive : last.size.toNat ≠ 0 := fun hzero => hgiven (UInt64.toNat_inj.mp hzero)
    omega

/-! ## 3. The two figures -/

/-- A plan finds too little space for a layout that does not fit, and its figures are the capped sum
    and the size of the device. -/
theorem plan_eq_insufficientSpace {owner device device' : String} {desired : List Partition}
    {deviceSize : UInt64} {required available : Nat}
    (h : plan owner device desired deviceSize.toNat
      = .error (.insufficientSpace device' required available)) :
    ¬Fits desired deviceSize.toNat ∧ required = requiredBytes desired
      ∧ available = deviceSize.toNat := by
  rw [plan_eq] at h
  split at h
  · cases h
  · rename_i hunsized
    split at h
    · cases h
    · rename_i hlay
      cases h
      refine ⟨fun hfits => ?_, rfl, rfl⟩
      have hroom := layFrom?_isSome_iff_fits owner (Decimal.toNat_le_max64 deviceSize)
        (unsizedNumber?_eq_none_iff.mp hunsized)
      rw [hlay] at hroom
      cases hroom.mpr hfits

/-- **The figures of a shortage.** The device has the bytes that it is said to have, and more than
    those are needed. Only on a device as large as the largest word are the two figures the same, as
    none goes past it. What they are when nothing is left for a last partition is not said here. -/
theorem plan_shortage {owner device device' : String} {desired : List Partition}
    {deviceSize : UInt64} {required available : Nat}
    (h : plan owner device desired deviceSize.toNat
      = .error (.insufficientSpace device' required available))
    (hleft : ¬NothingLeft desired deviceSize.toNat) :
    available = deviceSize.toNat
      ∧ (available < Decimal.max64 → available < required)
      ∧ (available = Decimal.max64 → required = available) := by
  obtain ⟨hfits, rfl, rfl⟩ := plan_eq_insufficientSpace h
  have hlt := lt_sizesTogether_of_not_fits hfits hleft
  rw [requiredBytes_eq]
  exact ⟨rfl, by omega, by omega⟩

/-- Swap, and data in what is left, on a device that ends one byte before the data would begin. -/
theorem plan_shortage_oneByte :
    plan "agent-1" "/dev/sdb" [⟨1048577, .swap⟩, ⟨0, .linux⟩] (4194303 : UInt64).toNat
        = .error (.insufficientSpace "/dev/sdb" 4194304 4194303)
      ∧ ¬NothingLeft [⟨1048577, .swap⟩, ⟨0, .linux⟩] (4194303 : UInt64).toNat
      ∧ 4194303 < Decimal.max64 ∧ 4194303 < 4194304 := by
  have hplan : plan "agent-1" "/dev/sdb" [⟨1048577, .swap⟩, ⟨0, .linux⟩] (4194303 : UInt64).toNat
      = .error (.insufficientSpace "/dev/sdb" 4194304 4194303) := by
    decide +kernel
  have hleft : ¬NothingLeft [⟨1048577, .swap⟩, ⟨0, .linux⟩] (4194303 : UInt64).toNat := by
    rintro ⟨_, -, -, hsum⟩
    exact absurd hsum (by decide)
  have hsmall : 4194303 < Decimal.max64 := by decide
  exact ⟨hplan, hleft, hsmall, (plan_shortage hplan hleft).2.1 hsmall⟩

/-- A device and a partition, both as large as the largest word: the bytes that are needed are said
    to be as many as there are, and so the first figure is not always above the second one. -/
theorem plan_shortage_capped :
    plan "agent-1" "/dev/sdb" [⟨18446744073709551615, .linux⟩]
        (18446744073709551615 : UInt64).toNat
        = .error (.insufficientSpace "/dev/sdb" 18446744073709551615 18446744073709551615)
      ∧ ¬∀ (owner device device' : String) (desired : List Partition) (deviceSize : UInt64)
          (required available : Nat), plan owner device desired deviceSize.toNat
            = .error (.insufficientSpace device' required available) → available < required := by
  have hplan : plan "agent-1" "/dev/sdb" [⟨18446744073709551615, .linux⟩]
      (18446744073709551615 : UInt64).toNat
        = .error (.insufficientSpace "/dev/sdb" 18446744073709551615 18446744073709551615) := by
    decide +kernel
  exact ⟨hplan, fun habove => Nat.lt_irrefl _ (habove _ _ _ _ _ _ _ hplan)⟩

end HostAgent.Disk
