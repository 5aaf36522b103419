import HostAgent.Proofs.Disk.Print
import HostAgent.Proofs.Errors

/-!
# Nothing of a print is lost

The numbers and sizes of partitions are read as they stand on their lines, whatever blanks stand
between the lines. And whatever a text is, each of its lines is read or the whole of it is refused: a
partition that was skipped would be missed when the table is removed.

* `PartitionRow` -- a partition as any print may show it;
* `readTable_eq_ok` -- a text that is read has one partition to a line;
* `readTable_exact` -- prints are read back, and no line is skipped.
-/

namespace HostAgent.Disk

/-! ## 1. Rows -/

/-- A partition with whatever number, place and size a print gives it. -/
structure PartitionRow where
  index : UInt32
  start : UInt64
  stop : UInt64
  size : UInt64
  fileSystem : String
  name : String
  flags : String

namespace PartitionRow

/-- The line of the partition. -/
def line (r : PartitionRow) : List Char :=
  rowLine r.index.toNat r.start.toNat r.stop.toNat r.size.toNat r.fileSystem r.name r.flags

/-- The partition that the line stands for. -/
def existing (r : PartitionRow) : ExistingPartition :=
  ⟨r.index, r.name, r.size, typeOfFileSystem r.fileSystem⟩

/-- The texts of the partition fit their places on a line. -/
structure Printable (r : PartitionRow) : Prop where
  fileSystem : IsField r.fileSystem
  name : IsField r.name
  flags : '\n' ∉ r.flags.toList

theorem line_isRow {r : PartitionRow} (h : r.Printable) : IsRow r.line :=
  rowLine_isRow h.fileSystem.2 h.name.2 h.flags

theorem readPartitionLine_line {r : PartitionRow} (h : r.Printable) :
    readPartitionLine r.line = .ok r.existing := by
  have hindex : r.index.toNat ≤ Decimal.max32 := Nat.le_sub_one_of_lt r.index.toNat_lt
  have hread : readPartitionLine r.line = .ok ⟨UInt32.ofNat r.index.toNat, r.name,
      UInt64.ofNat r.size.toNat, typeOfFileSystem r.fileSystem⟩ :=
    (readPartitionLine_rowLine h.fileSystem.1 h.name.1 (Decimal.toNat_le_max64 r.size)).1 hindex
  rw [UInt32.ofNat_toNat, UInt64.ofNat_toNat] at hread
  exact hread

end PartitionRow

/-! ## 2. Lines with contents -/

/-- The lines of a text that are not blank, without the headings that they start with. -/
def contentLines (stdout : String) : List (List Char) :=
  ((Text.lines stdout.toList).filter fun l => l.any fun c => !Text.isBlank c).dropWhile
    fun l => Text.trim l == heading

theorem map_trim_contentLines (stdout : String) :
    (contentLines stdout).map Text.trim = tableLines stdout := by
  have hfilled : ((fun l => !l.isEmpty) ∘ Text.trim) = fun l => l.any fun c => !Text.isBlank c := by
    funext l
    rw [Bool.eq_iff_iff, Function.comp_apply, Bool.not_eq_true', ← Bool.not_eq_true,
      List.isEmpty_iff, Text.trim_nil_iff]
    simp
  rw [tableLines, List.filter_map, List.dropWhile_map, hfilled]
  rfl

/-- **A text that is read has one partition to a line**, after the line about the device. -/
theorem readTable_eq_ok {stdout : String} {table : Table} (h : readTable stdout = .ok table) :
    ∃ first rest, contentLines stdout = first :: rest
      ∧ readDeviceLine (Text.trim first) = .ok table.deviceSize
      ∧ List.Forall₂ (fun line p => readPartitionLine (Text.trim line) = .ok p) rest
        table.partitions := by
  rw [readTable, ← map_trim_contentLines] at h
  cases hlines : contentLines stdout with
  | nil => rw [hlines] at h; cases h
  | cons first rest =>
    rw [hlines, List.map_cons] at h
    dsimp only at h
    cases hsize : readDeviceLine (Text.trim first) with
    | error e => rw [hsize] at h; cases h
    | ok size =>
      cases hpartitions : (rest.map Text.trim).mapM readPartitionLine with
      | error e => rw [hsize, hpartitions] at h; cases h
      | ok partitions =>
        rw [hsize, hpartitions] at h
        cases h
        refine ⟨first, rest, rfl, hsize, ?_⟩
        exact List.forall₂_map_left_iff.mp (mapM_eq_ok_iff.mp hpartitions)

/-! ## 3. Reading -/

/-- **A print is read back, whatever blanks stand between its lines, and no line of any text is
    skipped**: where a text is read at all, every line with contents but the first is read as one of
    the partitions, and there are no more of them. -/
theorem readTable_exact :
    (∀ (device remarks : String) (size : UInt64) (rows : List PartitionRow) (t : List Char),
        IsField device → '\n' ∉ remarks.toList → (∀ r ∈ rows, r.Printable) →
        Text.Spread (heading :: deviceLine device size.toNat remarks :: rows.map PartitionRow.line) t →
          readTable (String.ofList t) = .ok ⟨rows.map PartitionRow.existing, size⟩)
      ∧ ∀ (stdout : String) (table : Table), readTable stdout = .ok table →
        table.partitions.length + 1 = (contentLines stdout).length
          ∧ ∀ line ∈ (contentLines stdout).tail,
            ∃ p ∈ table.partitions, readPartitionLine (Text.trim line) = .ok p := by
  constructor
  · intro device remarks size rows t hdevice hremarks hrows ht
    have hlines : ∀ l ∈ rows.map PartitionRow.line, IsRow l := by
      intro l hl
      obtain ⟨r, hr, rfl⟩ := List.mem_map.mp hl
      exact PartitionRow.line_isRow (hrows r hr)
    have hread : (rows.map PartitionRow.line).mapM readPartitionLine
        = .ok (rows.map PartitionRow.existing) := by
      rw [mapM_eq_ok_iff, List.forall₂_map_left_iff, List.forall₂_map_right_iff, List.forall₂_same]
      exact fun r hr => PartitionRow.readPartitionLine_line (hrows r hr)
    rw [readTable_spread ⟨hdevice, hremarks, Decimal.toNat_le_max64 size⟩ hlines ht, hread,
      UInt64.ofNat_toNat]
    rfl
  · intro stdout table h
    obtain ⟨first, rest, hlines, -, hrest⟩ := readTable_eq_ok h
    rw [hlines, List.length_cons, List.tail_cons, hrest.length_eq]
    refine ⟨rfl, fun line hline => ?_⟩
    exact exists_of_forall₂ (List.Forall₂.flip hrest) hline

/-- Partitions with the largest number and no size, and with a name that has a semicolon. -/
def oddRows : List PartitionRow :=
  [⟨4294967295, 5, 3, 0, "xfs", "a name;", "boot, esp;;"⟩,
    ⟨7, 0, 0, 18446744073709551615, "", "", ""⟩]

/-- A print of them with blanks about. -/
def looseText : String :=
  "\n  BYT;\r\n\n/dev/sdb:4096B:scsi:512;\n\t4294967295:5B:3B:0B:xfs:a name;:boot, esp;;; \n \n"
    ++ "7:0B:0B:18446744073709551615B:::;"

theorem looseText_spread :
    Text.Spread (heading :: deviceLine "/dev/sdb" (4096 : UInt64).toNat "scsi:512"
      :: oddRows.map PartitionRow.line) looseText.toList := by
  have htext : looseText.toList = "\n  ".toList ++ heading ++ ['\r'] ++ '\n' ::
      (['\n'] ++ deviceLine "/dev/sdb" (4096 : UInt64).toNat "scsi:512" ++ [] ++ '\n' ::
      (['\t'] ++ PartitionRow.line ⟨4294967295, 5, 3, 0, "xfs", "a name;", "boot, esp;;"⟩
        ++ " \n ".toList ++ '\n' ::
      ([] ++ PartitionRow.line ⟨7, 0, 0, 18446744073709551615, "", "", ""⟩ ++ []))) := by
    decide +kernel
  rw [htext]
  exact .line (by decide) (by decide) (.line (by decide) (by decide)
    (.line (by decide) (by decide) (.last (by decide) (by decide))))

theorem readTable_exact_loose :
    IsField "/dev/sdb" ∧ '\n' ∉ "scsi:512".toList ∧ (∀ r ∈ oddRows, r.Printable)
      ∧ Text.Spread (heading :: deviceLine "/dev/sdb" (4096 : UInt64).toNat "scsi:512"
        :: oddRows.map PartitionRow.line) looseText.toList
      ∧ readTable looseText = .ok ⟨oddRows.map PartitionRow.existing, 4096⟩
      ∧ (oddRows.map PartitionRow.existing).length + 1 = (contentLines looseText).length := by
  have hdevice : IsField "/dev/sdb" := by decide
  have hremarks : '\n' ∉ "scsi:512".toList := by decide
  have hrows : ∀ r ∈ oddRows, r.Printable := by
    intro r hr
    simp only [oddRows, List.mem_cons, List.not_mem_nil, or_false] at hr
    rcases hr with rfl | rfl
    · exact ⟨by decide, by decide, by decide⟩
    · exact ⟨by decide, by decide, by decide⟩
  have hread : readTable looseText = .ok ⟨oddRows.map PartitionRow.existing, 4096⟩ := by
    have h := readTable_exact.1 _ _ _ _ _ hdevice hremarks hrows looseText_spread
    rwa [String.ofList_toList] at h
  exact ⟨hdevice, hremarks, hrows, looseText_spread, hread, (readTable_exact.2 _ _ hread).1⟩

end HostAgent.Disk
