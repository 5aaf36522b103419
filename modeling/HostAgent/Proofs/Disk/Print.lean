import HostAgent.Disk.Table
import HostAgent.Proofs.Text
import Mathlib.Data.List.TakeWhile

/-!
# Printed tables

The print of a partition table, as the tool that prints it puts it together, and what is read from
it. Fields stand between colons, so the names of partitions and file systems must have none; what
stands after the last field that is read may be anything on the line.

* `printTable` -- the print of a device and its partitions, numbered from one;
* `readPartitionLine_rowLine` -- the line of a partition is read when its number fits 32 bits;
* `readTable_spread` -- blanks between the lines of a print do not matter;
* `readTable_printTable` -- the whole table is read, or there is an error.
-/

namespace HostAgent.Disk

/-! ## 1. The printer -/

/-- The text can stand between colons on a line. -/
def IsField (s : String) : Prop := ':' ∉ s.toList ∧ '\n' ∉ s.toList

instance (s : String) : Decidable (IsField s) := inferInstanceAs (Decidable (_ ∧ _))

/-- A partition as it is printed. -/
structure PrintedPartition where
  start : Nat
  /-- its last byte -/
  stop : Nat
  fileSystem : String
  name : String
  flags : String

namespace PrintedPartition

/-- The size that is printed. -/
def size (p : PrintedPartition) : Nat := p.stop - p.start + 1

/-- The partition can be printed: its texts fit their places, and its size fits a word. -/
structure Printable (p : PrintedPartition) : Prop where
  fileSystem : IsField p.fileSystem
  name : IsField p.name
  flags : '\n' ∉ p.flags.toList
  size : p.size ≤ Decimal.max64

end PrintedPartition

/-- A number of bytes as it is printed. -/
def bytesText (n : Nat) : List Char := Decimal.write n ++ ['B']

/-- The line about a device; its remarks follow the size. -/
def deviceLine (device : String) (size : Nat) (remarks : String) : List Char :=
  device.toList ++ ':' :: bytesText size ++ ':' :: remarks.toList ++ [';']

/-- The line about a partition. -/
def PrintedPartition.line (number : Nat) (p : PrintedPartition) : List Char :=
  Decimal.write number ++ ':' :: bytesText p.start ++ ':' :: bytesText p.stop
    ++ ':' :: bytesText p.size ++ ':' :: p.fileSystem.toList ++ ':' :: p.name.toList
    ++ ':' :: p.flags.toList ++ [';']

/-- The lines about partitions, numbered from a given number on. -/
def partitionLines (number : Nat) (partitions : List PrintedPartition) : List (List Char) :=
  (partitions.zipIdx number).map fun p => p.1.line p.2

/-- The print of a table. -/
def printTable (device : String) (size : Nat) (remarks : String)
    (partitions : List PrintedPartition) : String :=
  String.ofList ((heading :: deviceLine device size remarks :: partitionLines 1 partitions).flatMap
    (· ++ ['\n']))

/-- The partition that a line stands for. -/
def PrintedPartition.existing (number : Nat) (p : PrintedPartition) : ExistingPartition :=
  ⟨UInt32.ofNat number, p.name, UInt64.ofNat p.size, typeOfFileSystem p.fileSystem⟩

/-! ## 2. Numbers of bytes -/

theorem dropTrailing_append {c d : Char} (a b : List Char) (h : d ≠ c) :
    dropTrailing c (a ++ d :: b) = a ++ d :: dropTrailing c b := by
  have hstop : (fun x => x == c) d = false := beq_false_of_ne h
  unfold dropTrailing
  rw [List.reverse_append, List.reverse_cons, List.append_assoc, List.singleton_append,
    Text.dropWhile_append_stop (p := fun x => x == c) _ _ hstop, List.reverse_append, List.reverse_cons,
    List.reverse_reverse, List.append_assoc, List.singleton_append]

/-- A character that the text does not have is dropped from behind it. -/
theorem dropTrailing_concat {c : Char} {t : List Char} (h : c ∉ t) :
    dropTrailing c (t ++ [c]) = t := by
  have hrest : t.reverse.dropWhile (· == c) = t.reverse := by
    rw [List.dropWhile_eq_self_iff]
    intro hlen hlast
    have hmem : t.reverse[0] ∈ t.reverse := List.getElem_mem _
    rw [eq_of_beq hlast, List.mem_reverse] at hmem
    exact h hmem
  have hstart : (fun x => x == c) c = true := beq_self_eq_true c
  rw [dropTrailing, List.reverse_append, List.reverse_singleton, List.singleton_append,
    List.dropWhile_cons_of_pos (p := fun x => x == c) hstart, hrest, List.reverse_reverse]

theorem not_mem_bytesText {c : Char} (hdigit : c.isDigit = false) (hunit : c ≠ 'B') (n : Nat) :
    c ∉ bytesText n := by
  unfold bytesText
  rw [List.mem_append, List.mem_singleton]
  exact fun h => h.elim (Decimal.not_mem_write hdigit n) hunit

/-- **A number of bytes that is printed is read**, when it fits a word. -/
theorem readBytes_bytesText {n : Nat} (h : n ≤ Decimal.max64) :
    readBytes (bytesText n) = .ok (UInt64.ofNat n) := by
  obtain ⟨c, t, hw, hc⟩ := Decimal.write_cons n
  have htrim : Text.trim (bytesText n) = bytesText n := by
    unfold bytesText
    rw [hw]
    exact Text.trim_between [] t (Text.isBlank_digit hc) (by decide)
  have hnumber : dropTrailing 'B' (bytesText n) = Decimal.write n :=
    dropTrailing_concat (Decimal.not_mem_write (by decide) n)
  rw [readBytes, htrim, hnumber, Decimal.read?_write, if_pos h]

/-! ## 3. Lines -/

/-- The line about a partition, with its number, its place and its texts. -/
def rowLine (number start stop size : Nat) (fileSystem name flags : String) : List Char :=
  Decimal.write number ++ ':' :: (bytesText start ++ ':' :: (bytesText stop ++ ':' :: (bytesText size
    ++ ':' :: (fileSystem.toList ++ ':' :: (name.toList ++ ':' :: (flags.toList ++ [';']))))))

/-- The line can stand among others: it is not broken, and neither starts nor ends in blanks. -/
structure IsRow (line : List Char) : Prop where
  unbroken : '\n' ∉ line
  trimmed : Text.trim line = line
  filled : line ≠ []

section

variable {number start stop size : Nat} {fileSystem name flags : String}

theorem rowLine_isRow (hfileSystem : '\n' ∉ fileSystem.toList) (hname : '\n' ∉ name.toList)
    (hflags : '\n' ∉ flags.toList) :
    IsRow (rowLine number start stop size fileSystem name flags) := by
  have hnumber : '\n' ∉ Decimal.write number := Decimal.not_mem_write (by decide) _
  have hbytes : ∀ n, '\n' ∉ bytesText n := not_mem_bytesText (by decide) (by decide)
  -- it starts with a digit and ends in a semicolon
  obtain ⟨c, t, hw, hc⟩ := Decimal.write_cons number
  have hline : ∃ middle, rowLine number start stop size fileSystem name flags
      = [] ++ c :: (middle ++ [';']) := by
    refine ⟨t ++ ':' :: (bytesText start ++ ':' :: (bytesText stop ++ ':' :: (bytesText size
      ++ ':' :: (fileSystem.toList ++ ':' :: (name.toList ++ ':' :: flags.toList))))), ?_⟩
    simp only [rowLine, hw, List.nil_append, List.append_assoc, List.cons_append]
  obtain ⟨middle, hmiddle⟩ := hline
  refine ⟨?_, ?_, ?_⟩
  · simp [rowLine, hnumber, hbytes, hfileSystem, hname, hflags]
  · rw [hmiddle, Text.trim_between _ _ (Text.isBlank_digit hc) (by decide)]
    rfl
  · rw [hmiddle]
    exact List.cons_ne_nil _ _

/-- **The line of a partition is read** when its number fits 32 bits. -/
theorem readPartitionLine_rowLine (hfileSystem : ':' ∉ fileSystem.toList)
    (hname : ':' ∉ name.toList) (hsize : size ≤ Decimal.max64) :
    (number ≤ Decimal.max32 →
        readPartitionLine (rowLine number start stop size fileSystem name flags)
          = .ok ⟨UInt32.ofNat number, name, UInt64.ofNat size, typeOfFileSystem fileSystem⟩)
      ∧ (Decimal.max32 < number →
        ∃ e, readPartitionLine (rowLine number start stop size fileSystem name flags) = .error e) := by
  have hnumber : ':' ∉ Decimal.write number := Decimal.not_mem_write (by decide) _
  have hbytes : ∀ n, ':' ∉ bytesText n := not_mem_bytesText (by decide) (by decide)
  have hne : ':' ≠ ';' := by decide
  have hfields : ∃ more,
      Text.splitOn ':' (dropTrailing ';' (rowLine number start stop size fileSystem name flags))
        = Decimal.write number :: bytesText start :: bytesText stop :: bytesText size
          :: fileSystem.toList :: name.toList :: more := by
    rw [rowLine, dropTrailing_append _ _ hne, dropTrailing_append _ _ hne,
      dropTrailing_append _ _ hne, dropTrailing_append _ _ hne, dropTrailing_append _ _ hne,
      dropTrailing_append _ _ hne, Text.splitOn_append _ hnumber,
      Text.splitOn_append _ (hbytes start), Text.splitOn_append _ (hbytes stop),
      Text.splitOn_append _ (hbytes size), Text.splitOn_append _ hfileSystem,
      Text.splitOn_append _ hname]
    exact ⟨_, rfl⟩
  obtain ⟨more, hmore⟩ := hfields
  refine ⟨fun hfits => ?_, fun hlarge => ?_⟩
  · simp only [readPartitionLine, hmore, Decimal.read?_write, if_pos hfits,
      readBytes_bytesText hsize, String.ofList_toList]
    rfl
  · simp only [readPartitionLine, hmore, Decimal.read?_write, if_neg (Nat.not_le.mpr hlarge)]
    exact ⟨_, rfl⟩

end

theorem PrintedPartition.line_eq (number : Nat) (p : PrintedPartition) :
    p.line number = rowLine number p.start p.stop p.size p.fileSystem p.name p.flags := by
  simp only [PrintedPartition.line, rowLine, List.append_assoc, List.cons_append]

/-- The lines of partitions are read when all their numbers fit 32 bits. -/
theorem readPartitionLines (number : Nat) {partitions : List PrintedPartition}
    (h : ∀ p ∈ partitions, p.Printable) :
    (number + partitions.length ≤ Decimal.max32 + 1 →
        (partitionLines number partitions).mapM readPartitionLine
          = .ok ((partitions.zipIdx number).map fun p => p.1.existing p.2))
      ∧ (number ≤ Decimal.max32 + 1 → Decimal.max32 + 1 < number + partitions.length →
        ∃ e, (partitionLines number partitions).mapM readPartitionLine = .error e) := by
  induction partitions generalizing number with
  | nil =>
    refine ⟨fun _ => rfl, fun hnumber hlarge => ?_⟩
    rw [List.length_nil] at hlarge
    omega
  | cons p partitions ih =>
    have hprintable := h p List.mem_cons_self
    have hp : (number ≤ Decimal.max32 → readPartitionLine (p.line number) = .ok (p.existing number))
        ∧ (Decimal.max32 < number → ∃ e, readPartitionLine (p.line number) = .error e) := by
      rw [PrintedPartition.line_eq]
      exact readPartitionLine_rowLine hprintable.fileSystem.1 hprintable.name.1 hprintable.size
    obtain ⟨ihok, iherror⟩ := ih (number + 1) fun q hq => h q (List.mem_cons_of_mem _ hq)
    have hlines : partitionLines number (p :: partitions)
        = p.line number :: partitionLines (number + 1) partitions := rfl
    rw [hlines, List.mapM_cons, List.length_cons]
    refine ⟨fun hfits => ?_, fun hnumber hlarge => ?_⟩
    · rw [hp.1 (by omega), ihok (by omega)]
      rfl
    · by_cases hfits : number ≤ Decimal.max32
      · obtain ⟨e, he⟩ := iherror (by omega) (by omega)
        rw [hp.1 hfits, he]
        exact ⟨e, rfl⟩
      · obtain ⟨e, he⟩ := hp.2 (by omega)
        rw [he]
        exact ⟨e, rfl⟩

/-- **The line about a device says its size**, trimmed or not. -/
theorem readDeviceLine_deviceLine {device : String} {size : Nat} (remarks : String)
    (hdevice : ':' ∉ device.toList) (hsize : size ≤ Decimal.max64) :
    readDeviceLine (Text.trim (deviceLine device size remarks)) = .ok (UInt64.ofNat size)
      ∧ ':' ∈ Text.trim (deviceLine device size remarks) := by
  have hline : deviceLine device size remarks
      = device.toList ++ ':' :: ((bytesText size ++ ':' :: remarks.toList) ++ [';']) := by
    simp only [deviceLine, List.append_assoc, List.cons_append]
  have htrim : Text.trim (deviceLine device size remarks) = Text.trimStart device.toList
      ++ ':' :: (bytesText size ++ ':' :: (remarks.toList ++ [';'])) := by
    rw [hline, Text.trim_between _ _ (by decide) (by decide), List.append_assoc, List.cons_append]
  have hstart : ':' ∉ Text.trimStart device.toList := fun h =>
    hdevice ((List.dropWhile_sublist _).mem h)
  have hbytes : ':' ∉ bytesText size := not_mem_bytesText (by decide) (by decide) size
  constructor
  · rw [htrim, readDeviceLine, Text.splitOn_append _ hstart, Text.splitOn_append _ hbytes]
    exact readBytes_bytesText hsize
  · rw [htrim]
    exact List.mem_append_right _ List.mem_cons_self

/-! ## 4. The table -/

/-- What can be printed of a device. -/
structure PrintableDevice (device : String) (size : Nat) (remarks : String) : Prop where
  device : IsField device
  remarks : '\n' ∉ remarks.toList
  size : size ≤ Decimal.max64

section

variable {device : String} {size : Nat} {remarks : String}

theorem not_mem_deviceLine (h : PrintableDevice device size remarks) :
    '\n' ∉ deviceLine device size remarks := by
  have hbytes : '\n' ∉ bytesText size := not_mem_bytesText (by decide) (by decide) size
  simp [deviceLine, h.device.2, hbytes, h.remarks]

/-- A print has the line about the device and the lines of the partitions, whatever blanks stand
    between them. -/
theorem tableLines_spread (h : PrintableDevice device size remarks) {rows : List (List Char)}
    (hrows : ∀ row ∈ rows, IsRow row) {t : List Char}
    (ht : Text.Spread (heading :: deviceLine device size remarks :: rows) t) :
    tableLines (String.ofList t) = Text.trim (deviceLine device size remarks) :: rows := by
  have hunbroken : ∀ l ∈ heading :: deviceLine device size remarks :: rows, '\n' ∉ l := by
    intro l hl
    rcases List.mem_cons.mp hl with rfl | hl
    · decide
    · rcases List.mem_cons.mp hl with rfl | hl
      · exact not_mem_deviceLine h
      · exact (hrows l hl).unbroken
  have hcolon := (readDeviceLine_deviceLine remarks h.device.1 h.size).2
  have hdevice : (Text.trim (deviceLine device size remarks)).isEmpty = false := by
    rw [← Bool.not_eq_true, List.isEmpty_iff]
    intro hnil
    rw [hnil] at hcolon
    cases hcolon
  have hheading : (Text.trim (deviceLine device size remarks) == heading) = false := by
    refine beq_false_of_ne fun heq => ?_
    rw [heq] at hcolon
    revert hcolon
    decide
  have htrim : rows.map Text.trim = rows :=
    (List.map_congr_left fun row hrow => (hrows row hrow).trimmed).trans (List.map_id _)
  have hkept : rows.filter (fun l => !l.isEmpty) = rows := by
    refine List.filter_eq_self.mpr fun row hrow => ?_
    simpa using (hrows row hrow).filled
  have htrimHeading : Text.trim heading = heading := by decide
  have hfilled : Text.filledLines t
      = heading :: Text.trim (deviceLine device size remarks) :: rows := by
    rw [Text.filledLines_spread ht hunbroken, List.map_cons, List.map_cons, htrim, htrimHeading,
      List.filter_cons, List.filter_cons, hkept, hdevice]
    rfl
  rw [tableLines, String.toList_ofList, ← Text.filledLines, hfilled]
  simp [heading] at hheading ⊢
  exact hheading

/-- What is read from a print: the size of the device, and a partition from each line. -/
theorem readTable_spread (h : PrintableDevice device size remarks) {rows : List (List Char)}
    (hrows : ∀ row ∈ rows, IsRow row) {t : List Char}
    (ht : Text.Spread (heading :: deviceLine device size remarks :: rows) t) :
    readTable (String.ofList t)
      = (rows.mapM readPartitionLine).map fun partitions => ⟨partitions, UInt64.ofNat size⟩ := by
  have hdevice := (readDeviceLine_deviceLine remarks h.device.1 h.size).1
  simp only [readTable, tableLines_spread h hrows ht, hdevice]
  cases rows.mapM readPartitionLine with
  | ok partitions => rfl
  | error e => rfl

/-- **A printed table is read** as long as its partitions can be numbered in 32 bits; a longer one
    is an error. -/
theorem readTable_printTable {partitions : List PrintedPartition}
    (h : PrintableDevice device size remarks) (hp : ∀ p ∈ partitions, p.Printable) :
    (partitions.length ≤ Decimal.max32 →
        readTable (printTable device size remarks partitions)
          = .ok ⟨(partitions.zipIdx 1).map fun p => p.1.existing p.2, UInt64.ofNat size⟩)
      ∧ (Decimal.max32 < partitions.length →
        ∃ e, readTable (printTable device size remarks partitions) = .error e) := by
  have hrows : ∀ row ∈ partitionLines 1 partitions, IsRow row := by
    intro row hrow
    obtain ⟨⟨p, number⟩, hmem, rfl⟩ := List.mem_map.mp hrow
    have hprintable := hp p (List.fst_mem_of_mem_zipIdx hmem)
    rw [PrintedPartition.line_eq]
    exact rowLine_isRow hprintable.fileSystem.2 hprintable.name.2 hprintable.flags
  have hread := readTable_spread h hrows (Text.spread_terminated _)
  have hlines := readPartitionLines 1 hp
  refine ⟨fun hfits => ?_, fun hlarge => ?_⟩
  · rw [printTable, hread, hlines.1 (by omega)]
    rfl
  · obtain ⟨e, he⟩ := hlines.2 (by unfold Decimal.max32; omega) (by omega)
    rw [printTable, hread, he]
    exact ⟨e, rfl⟩

end

end HostAgent.Disk
