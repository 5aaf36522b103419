import HostAgent.Disk.Ephemeral
import HostAgent.Host.Scripted
import Mathlib.Data.List.Induction
import Mathlib.Data.List.Nodup
import Mathlib.Data.List.TakeWhile

/-!
# The partition paths of a device

Signatures are listed one to a line, each after the path that bears it. Everything that is listed as a
partition of a device is erased, so the list must neither miss one nor hold a path of another device.

* `firstPlaces_ordered` -- what is found is listed in the order in which it is found first;
* `partitionPath?_eq_some_iff` -- a line names a partition by what it starts with;
* `partitionPaths_lists` -- the list of a device is exact;
* `isPartitionOf_apart` -- no path is a partition of two devices, unless a `p` is all that they differ
  in;
* `getPartitionPaths_exact` -- the same of what a pass is told.
-/

namespace HostAgent.Disk

/-! ## 1. First places -/

section

variable {α : Type} [DecidableEq α]

theorem firstPlaces_concat (l : List α) (x : α) :
    firstPlaces (l ++ [x]) = if x ∈ firstPlaces l then firstPlaces l else firstPlaces l ++ [x] :=
  List.foldl_concat _ _ _ _

theorem mem_firstPlaces {l : List α} {x : α} : x ∈ firstPlaces l ↔ x ∈ l := by
  induction l using List.reverseRecOn with
  | nil => rfl
  | append_singleton l y ih =>
    rw [firstPlaces_concat, List.mem_append, List.mem_singleton, ← ih]
    by_cases hy : y ∈ firstPlaces l
    · rw [if_pos hy]
      exact ⟨Or.inl, fun h => h.elim id fun hx => hx ▸ hy⟩
    · rw [if_neg hy, List.mem_append, List.mem_singleton]

theorem firstPlaces_nodup (l : List α) : (firstPlaces l).Nodup := by
  induction l using List.reverseRecOn with
  | nil => exact List.nodup_nil
  | append_singleton l y ih =>
    rw [firstPlaces_concat]
    by_cases hy : y ∈ firstPlaces l
    · rw [if_pos hy]
      exact ih
    · rw [if_neg hy, ← List.concat_eq_append]
      exact ih.concat hy

/-- **What is found in a list is listed in the order in which it is found first.** -/
theorem firstPlaces_ordered {β : Type} (f : β → Option α) (l : List β) :
    (firstPlaces (l.filterMap f)).Pairwise fun a b =>
      l.findIdx (fun x => f x = some a) < l.findIdx (fun x => f x = some b) := by
  have hfound : ∀ (l : List β) (a : α), l.findIdx (fun x => f x = some a) < l.length
      ↔ a ∈ firstPlaces (l.filterMap f) := by
    intro l a
    simp only [List.findIdx_lt_length, decide_eq_true_eq, mem_firstPlaces, List.mem_filterMap]
  induction l using List.reverseRecOn with
  | nil => exact List.Pairwise.nil
  | append_singleton l x ih =>
    -- what is found already is found at the same place
    have hsame : ∀ a ∈ firstPlaces (l.filterMap f),
        (l ++ [x]).findIdx (fun x => f x = some a) = l.findIdx (fun x => f x = some a) := by
      intro a ha
      rw [List.findIdx_append, if_pos ((hfound l a).mpr ha)]
    have hkept : (firstPlaces (l.filterMap f)).Pairwise fun a b =>
        (l ++ [x]).findIdx (fun x => f x = some a) < (l ++ [x]).findIdx (fun x => f x = some b) := by
      refine ih.imp_of_mem fun ha hb hlt => ?_
      rw [hsame _ ha, hsame _ hb]
      exact hlt
    rw [List.filterMap_append]
    cases hx : f x with
    | none =>
      rw [List.filterMap_cons_none hx, List.filterMap_nil, List.append_nil]
      exact hkept
    | some b =>
      rw [List.filterMap_cons_some hx, List.filterMap_nil, firstPlaces_concat]
      by_cases hb : b ∈ firstPlaces (l.filterMap f)
      · rw [if_pos hb]
        exact hkept
      · rw [if_neg hb]
        refine List.pairwise_append.mpr ⟨hkept, List.pairwise_singleton _ _, ?_⟩
        intro a ha b' hb'
        obtain rfl := List.mem_singleton.mp hb'
        rw [hsame a ha, List.findIdx_append, if_neg (fun h => hb ((hfound l b').mp h))]
        exact Nat.lt_of_lt_of_le ((hfound l a).mpr ha) (Nat.le_add_left _ _)

end

theorem partitionPaths_nodup (device stdout : String) : (partitionPaths device stdout).Nodup :=
  (firstPlaces_nodup _).map fun _ _ h => String.ofList_inj.mp h

/-! ## 2. The path that a line names -/

/-- The path is the device's, followed by a number in decimal digits; after a device that ends in an
    ASCII digit a `p` stands before the number. -/
def IsPartitionOf (device path : String) : Prop :=
  ∃ number : List Char, number ≠ [] ∧ (∀ c ∈ number, Text.isDecimalDigit c = true)
    ∧ path = device ++ (if device.toList.getLast?.any Char.isDigit then "p" else "")
      ++ String.ofList number

/-- The line, trimmed, starts with the path and a colon. -/
def Names (line : List Char) (path : String) : Prop := path.toList ++ [':'] <+: Text.trim line

instance (line : List Char) (path : String) : Decidable (Names line path) :=
  inferInstanceAs (Decidable (_ <+: _))

/-- The device's path and what stands between it and a number. -/
def partitionStem (device : List Char) : List Char := device ++ partitionSeparator device

theorem isPartitionOf_iff {device : String} {path : List Char} :
    IsPartitionOf device (String.ofList path) ↔ ∃ number : List Char, number ≠ []
      ∧ (∀ c ∈ number, Text.isDecimalDigit c = true)
      ∧ path = partitionStem device.toList ++ number := by
  have hseparator : (if device.toList.getLast?.any Char.isDigit then "p" else "").toList
      = partitionSeparator device.toList := by
    unfold partitionSeparator
    cases device.toList.getLast? with
    | none => rfl
    | some c => cases h : c.isDigit <;> simp [h]
  unfold IsPartitionOf partitionStem
  simp only [← String.toList_inj, String.toList_append, String.toList_ofList, hseparator]

/-- A number before a colon is all the digits that stand there. -/
theorem takeWhile_number {number : List Char} (rest : List Char)
    (hnumber : ∀ c ∈ number, Text.isDecimalDigit c = true) :
    (number ++ ':' :: rest).takeWhile Text.isDecimalDigit = number := by
  rw [List.takeWhile_append_of_pos hnumber, List.takeWhile_cons_of_neg (by decide), List.append_nil]

/-- **A line names a partition of a device** by what it starts with. -/
theorem partitionPath?_eq_some_iff {device : String} {line path : List Char} :
    partitionPath? device.toList (Text.trim line) = some path
      ↔ IsPartitionOf device (String.ofList path) ∧ Names line (String.ofList path) := by
  rw [isPartitionOf_iff, Names, String.toList_ofList, partitionPath?, ← partitionStem]
  generalize Text.trim line = text
  constructor
  · intro h
    obtain ⟨rest, hrest, h⟩ := Option.bind_eq_some_iff.mp h
    rw [Text.after?_eq_some_iff] at hrest
    simp only [Option.ite_none_left_eq_some, Option.ite_none_right_eq_some, Option.some.injEq,
      List.isEmpty_iff] at h
    obtain ⟨hnumber, hcolon, rfl⟩ := h
    refine ⟨⟨_, hnumber, fun c hc => List.all_eq_true.mp List.all_takeWhile c hc, rfl⟩, ?_⟩
    obtain ⟨more, hmore⟩ := List.head?_eq_some_iff.mp hcolon
    refine ⟨more, ?_⟩
    rw [hrest, List.append_assoc, List.append_assoc, List.singleton_append, ← hmore,
      List.prefix_iff_eq_append.mp (List.takeWhile_prefix _)]
  · rintro ⟨⟨number, hne, hdigits, rfl⟩, rest, hrest⟩
    have hafter : Text.after? (partitionStem device.toList) text = some (number ++ ':' :: rest) := by
      rw [Text.after?_eq_some_iff, ← hrest, List.append_assoc, List.append_assoc,
        List.singleton_append]
    refine Option.bind_eq_some_iff.mpr ⟨_, hafter, ?_⟩
    simp only [takeWhile_number rest hdigits, List.drop_left, List.head?_cons, if_true]
    exact if_neg fun h => hne (List.isEmpty_iff.mp h)

/-! ## 3. The list of paths -/

/-- The paths are the partitions of the device that lines name, each of them once and in the order in
    which they are named first. -/
structure ListsPartitions (device : String) (lines : List (List Char)) (paths : List String) : Prop
    where
  nodup : paths.Nodup
  mem : ∀ path, path ∈ paths ↔ IsPartitionOf device path ∧ ∃ line ∈ lines, Names line path
  ordered : paths.Pairwise fun a b => lines.findIdx (Names · a) < lines.findIdx (Names · b)

theorem mem_partitionPaths {device stdout path : String} : path ∈ partitionPaths device stdout
    ↔ IsPartitionOf device path ∧ ∃ line ∈ Text.lines stdout.toList, Names line path := by
  simp only [partitionPaths, List.mem_map, mem_firstPlaces, List.mem_filterMap,
    partitionPath?_eq_some_iff]
  constructor
  · rintro ⟨l, ⟨line, hline, hpartition, hnames⟩, rfl⟩
    exact ⟨hpartition, line, hline, hnames⟩
  · rintro ⟨hpartition, line, hline, hnames⟩
    have hpath : String.ofList path.toList = path := String.ofList_toList
    exact ⟨path.toList, ⟨line, hline, by rwa [hpath], by rwa [hpath]⟩, hpath⟩

/-- **The list is exact.** -/
theorem partitionPaths_lists (device stdout : String) :
    ListsPartitions device (Text.lines stdout.toList) (partitionPaths device stdout) := by
  refine ⟨partitionPaths_nodup device stdout, fun _ => mem_partitionPaths, ?_⟩
  -- among its partitions, a line names the path that is found in it
  have hfound : ∀ path, IsPartitionOf device (String.ofList path) →
      (fun line => decide (Names line (String.ofList path)))
        = fun line => decide (partitionPath? device.toList (Text.trim line) = some path) := by
    intro path hpath
    funext line
    rw [decide_eq_decide, partitionPath?_eq_some_iff]
    exact ⟨fun h => ⟨hpath, h⟩, fun h => h.2⟩
  refine List.pairwise_map.mpr ((firstPlaces_ordered _ _).imp_of_mem fun {a b} ha hb hlt => ?_)
  obtain ⟨_, _, ha⟩ := List.mem_filterMap.mp (mem_firstPlaces.mp ha)
  obtain ⟨_, _, hb⟩ := List.mem_filterMap.mp (mem_firstPlaces.mp hb)
  rw [hfound a (partitionPath?_eq_some_iff.mp ha).1, hfound b (partitionPath?_eq_some_iff.mp hb).1]
  exact hlt

/-! ## 4. Two devices -/

/-- Every character is an ASCII one. -/
def IsAscii (s : String) : Prop := ∀ c ∈ s.toList, c.toNat < 128

instance (s : String) : Decidable (IsAscii s) := List.decidableBAll _ _

/-- Two different paths, neither of which is the other one followed by a `p`. -/
structure ApartDevices (a b : String) : Prop where
  ne : a ≠ b
  left : a ≠ b ++ "p"
  right : b ≠ a ++ "p"

/-- What stands before the last characters of a kind is the same however it is cut off. -/
theorem append_cut {p : Char → Bool} {a b m n : List Char} (ha : ∀ c ∈ a.getLast?, p c = false)
    (hb : ∀ c ∈ b.getLast?, p c = false) (hm : ∀ c ∈ m, p c = true) (hn : ∀ c ∈ n, p c = true)
    (h : a ++ m = b ++ n) : a = b := by
  -- where one start is longer, its last character is one of the other end
  have hnil : ∀ {start more : List Char}, (∀ c ∈ (start ++ more).getLast?, p c = false) →
      (∀ c ∈ more, p c = true) → more = [] := by
    intro start more hstart hmore
    by_contra hne
    have hlast : more.getLast hne ∈ (start ++ more).getLast? := by
      rw [List.getLast?_append_of_ne_nil _ hne, List.getLast?_eq_some_getLast hne]
      exact rfl
    have hdigit := hstart _ hlast
    rw [hmore _ (List.getLast_mem hne)] at hdigit
    cases hdigit
  rcases List.append_eq_append_iff.mp h with ⟨more, rfl, rfl⟩ | ⟨more, rfl, rfl⟩
  · rw [hnil hb fun c hc => hm c (List.mem_append_left _ hc), List.append_nil]
  · rw [hnil ha fun c hc => hn c (List.mem_append_left _ hc), List.append_nil]

/-- The path of an ASCII device and what stands between it and a number does not end in a digit. -/
theorem partitionStem_last {device : String} (hascii : IsAscii device) :
    ∀ c ∈ (partitionStem device.toList).getLast?, Text.isDecimalDigit c = false := by
  intro c hc
  unfold partitionStem partitionSeparator at hc
  cases hlast : device.toList.getLast? with
  | none =>
    rw [hlast, List.append_nil, hlast] at hc
    cases hc
  | some d =>
    simp only [hlast] at hc
    by_cases hd : d.isDigit = true
    · rw [if_pos hd, List.getLast?_concat] at hc
      obtain rfl := Option.some.inj hc
      decide
    · rw [if_neg hd, List.append_nil, hlast] at hc
      obtain rfl := Option.some.inj hc
      rw [← Bool.not_eq_true]
      exact fun hdigit => hd (Text.isDigit_of_isDecimalDigit
        (hascii _ (List.mem_of_getLast? hlast)) hdigit)

theorem partitionSeparator_eq (device : List Char) :
    partitionSeparator device = [] ∨ partitionSeparator device = ['p'] := by
  unfold partitionSeparator
  split
  · split
    · exact Or.inr rfl
    · exact Or.inl rfl
  · exact Or.inl rfl

/-- **No partition belongs to two devices.** -/
theorem isPartitionOf_apart {a b path : String} (ha : IsAscii a) (hb : IsAscii b)
    (hapart : ApartDevices a b) (h : IsPartitionOf a path) : ¬ IsPartitionOf b path := by
  intro h'
  rw [← String.ofList_toList (s := path)] at h h'
  obtain ⟨m, -, hm, hpath⟩ := isPartitionOf_iff.mp h
  obtain ⟨n, -, hn, hpath'⟩ := isPartitionOf_iff.mp h'
  have hstem : partitionStem a.toList = partitionStem b.toList :=
    append_cut (partitionStem_last ha) (partitionStem_last hb) hm hn (hpath.symm.trans hpath')
  obtain ⟨hne, hleft, hright⟩ := hapart
  simp only [ne_eq, ← String.toList_inj, String.toList_append] at hne hleft hright
  unfold partitionStem at hstem
  rcases partitionSeparator_eq a.toList with h | h <;>
    rcases partitionSeparator_eq b.toList with h' | h' <;> rw [h, h'] at hstem
  · exact hne (by simpa using hstem)
  · exact hleft (by simpa using hstem)
  · exact hright (by simpa using hstem.symm)
  · exact hne (List.append_cancel_right hstem)

/-! ## 5. What the list of signatures is asked for -/

section

variable {S : Type} [Commands S] {device : String} {s t : S}

theorem getPartitionPaths_ok {output : Output}
    (hrun : Commands.run ⟨"blkid", []⟩ s = (.ok output, t)) :
    getPartitionPaths device s = (.ok (partitionPaths device output.stdout), t) := by
  have hanswer : runCommand "blkid" [] s = (.ok output, t) := hrun
  rw [getPartitionPaths, Pass.bind_ok (Pass.tried_apply _ s), hanswer]
  rfl

/-- Paths are only ever those of some output. -/
theorem getPartitionPaths_eq_ok {paths : List String}
    (h : getPartitionPaths device s = (.ok paths, t)) :
    ∃ stdout, paths = partitionPaths device stdout := by
  rw [getPartitionPaths, Pass.bind_ok (Pass.tried_apply _ s)] at h
  generalize (runCommand "blkid" [] s).1 = answer at h
  split at h
  · cases h
    exact ⟨_, rfl⟩
  · cases h
    exact ⟨"", rfl⟩
  · cases h

/-- **The list of paths is exact**, and no path is ever listed for two devices that are apart. -/
theorem getPartitionPaths_exact (device : String) {s t : S} {output : Output}
    (hrun : Commands.run ⟨"blkid", []⟩ s = (.ok output, t)) :
    ∃ paths, getPartitionPaths device s = (.ok paths, t)
      ∧ ListsPartitions device (Text.lines output.stdout.toList) paths
      ∧ ∀ other : String, IsAscii device → IsAscii other → ApartDevices device other →
        ∀ (s' t' : S) (others : List String), getPartitionPaths other s' = (.ok others, t') →
          ∀ path ∈ paths, path ∉ others := by
  refine ⟨_, getPartitionPaths_ok hrun, partitionPaths_lists device output.stdout, ?_⟩
  intro other hdevice hother hapart s' t' others hothers path hpath
  obtain ⟨stdout, rfl⟩ := getPartitionPaths_eq_ok hothers
  intro hpath'
  exact isPartitionOf_apart hdevice hother hapart (mem_partitionPaths.mp hpath).1
    (mem_partitionPaths.mp hpath').1

end

/-! ## 6. Devices with similar names -/

/-- Signatures on a device whose path another one's goes on from. -/
def siblingSignatures : String :=
  "/dev/loop10p1: \n" ++ "  /dev/loop1p12: \n" ++ "/dev/loop1: \n" ++ "/dev/loop1p2: \n"
    ++ "/dev/loop1p12: \n"

def siblingHost : Scripted := ({} : Scripted).stand "blkid" (.success siblingSignatures)

theorem getPartitionPaths_exact_siblings :
    Commands.run ⟨"blkid", []⟩ siblingHost
        = (.ok ⟨siblingSignatures, ""⟩, { siblingHost with commands := ["blkid"] })
      ∧ IsAscii "/dev/loop1" ∧ IsAscii "/dev/loop10"
      ∧ ApartDevices "/dev/loop1" "/dev/loop10"
      ∧ (getPartitionPaths "/dev/loop10" siblingHost).1 = .ok ["/dev/loop10p1"]
      ∧ (getPartitionPaths "/dev/loop1" siblingHost).1
        = .ok ["/dev/loop1p12", "/dev/loop1p2"]
      ∧ ListsPartitions "/dev/loop1" (Text.lines siblingSignatures.toList)
        ["/dev/loop1p12", "/dev/loop1p2"]
      ∧ ∀ path ∈ ["/dev/loop1p12", "/dev/loop1p2"], path ∉ ["/dev/loop10p1"] := by
  have hrun : Commands.run ⟨"blkid", []⟩ siblingHost
      = (.ok ⟨siblingSignatures, ""⟩, { siblingHost with commands := ["blkid"] }) := by rfl
  have hdevice : IsAscii "/dev/loop1" := by decide +kernel
  have hother : IsAscii "/dev/loop10" := by decide +kernel
  have hapart : ApartDevices "/dev/loop1" "/dev/loop10" :=
    ⟨by decide, by decide, by decide⟩
  have hothers : getPartitionPaths "/dev/loop10" siblingHost
      = (.ok ["/dev/loop10p1"], { siblingHost with commands := ["blkid"] }) := by
    have hlisted : partitionPaths "/dev/loop10" siblingSignatures = ["/dev/loop10p1"] := by
      decide +kernel
    rw [getPartitionPaths_ok hrun, hlisted]
  have hpaths : getPartitionPaths "/dev/loop1" siblingHost
      = (.ok ["/dev/loop1p12", "/dev/loop1p2"], { siblingHost with commands := ["blkid"] }) := by
    have hlisted : partitionPaths "/dev/loop1" siblingSignatures
        = ["/dev/loop1p12", "/dev/loop1p2"] := by decide +kernel
    rw [getPartitionPaths_ok hrun, hlisted]
  obtain ⟨paths, hok, hlists, hnever⟩ := getPartitionPaths_exact "/dev/loop1" hrun
  rw [hpaths] at hok
  cases hok
  exact ⟨hrun, hdevice, hother, hapart, by rw [hothers], by rw [hpaths], hlists,
    hnever _ hdevice hother hapart _ _ _ hothers⟩

end HostAgent.Disk
