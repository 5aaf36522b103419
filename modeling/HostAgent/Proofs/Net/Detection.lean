import HostAgent.Net.Mac
import HostAgent.Proofs.Files
import HostAgent.Proofs.Listing
import HostAgent.Proofs.NameMap
import HostAgent.Proofs.Utf8
import Mathlib.Data.List.Perm.Basic
import Mathlib.Tactic.Tauto

/-!
# Interfaces that are found

On a host that was given interfaces one after another, those with a device are found, each under its
address, and no others are. What is at a place below one interface says nothing about another one,
whatever their names have in common, because places are told apart by whole components.

* `addTo_eq`, `mem_places`, `get?_foldl_files` -- what is on the host;
* `children_perm` -- there is one entry for each interface;
* `addEntry_interface`, `foldlM_addEntry` -- what is found at one entry, and at several;
* `detectMacs_finds` -- what is found at all.
-/

namespace HostAgent.Net

/-! ## 1. Hosts with interfaces -/

/-- An interface as it is put on a host. -/
structure Interface where
  name : String
  mac : String
  /-- it has a device -/
  isPhysical : Bool
  deriving DecidableEq, Repr

namespace Interface

/-- The host with one more interface under a directory. -/
def addTo (directory : Path) (h : Scripted) (i : Interface) : Scripted :=
  if i.isPhysical then h.addNetworkDevice directory i.name i.mac
  else h.addVirtualDevice directory i.name i.mac

/-- Where the address of an interface is. -/
def addressPlace (directory : Path) (i : Interface) : Place :=
  directory.components ++ [.name i.name, .name "address"]

/-- Where the device of an interface is, when it has one. -/
def devicePlace (directory : Path) (i : Interface) : Place :=
  directory.components ++ [.name i.name, .name "device"]

/-- What is in the file with the address of an interface. -/
def contents (i : Interface) : Bytes := Utf8.encode (i.mac ++ "\n")

/-- The address in the form in which addresses are compared. -/
def key (i : Interface) : String := Text.lowercase (Text.trimmed i.mac)

end Interface

/-- A host that was given interfaces under a directory, and nothing else. -/
def hostWith (directory : Path) (interfaces : List Interface) : Scripted :=
  interfaces.foldl (Interface.addTo directory) {}

section

variable {directory : Path} {h : Scripted} {i : Interface} {interfaces : List Interface}

theorem isEntryName_address : IsEntryName "address" := by decide

theorem isEntryName_device : IsEntryName "device" := by decide

theorem components_below {name part : String} (hname : IsEntryName name)
    (hpart : IsEntryName part) : ((directory.join name).join part).components
      = directory.components ++ [.name name, .name part] := by
  rw [Path.components_join _ hpart, Path.components_join _ hname, List.append_assoc]
  rfl

theorem putDirectory_eq (p : Path) (h : Scripted) :
    ∃ directories, h.putDirectory p = { h with directories }
      ∧ ∀ q, q ∈ directories ↔ q ∈ h.directories ∨ q = p.components := by
  unfold Scripted.putDirectory
  split
  · rename_i hin
    exact ⟨h.directories, rfl, fun q => ⟨Or.inl, fun hq => hq.elim id fun heq => heq ▸ hin⟩⟩
  · exact ⟨_, rfl, fun q => by simp⟩

variable (directory h) in
/-- **An interface puts its address on a host**, and a device when it has one. -/
theorem addTo_eq (hname : IsEntryName i.name) :
    ∃ directories, i.addTo directory h
        = { h with files := Assoc.set (i.addressPlace directory) i.contents h.files, directories }
      ∧ ∀ q, q ∈ directories
        ↔ q ∈ h.directories ∨ i.isPhysical = true ∧ q = i.devicePlace directory := by
  unfold Interface.addTo Scripted.addNetworkDevice Scripted.addVirtualDevice Scripted.putAddress
    Scripted.putFile
  rw [components_below hname isEntryName_address]
  split
  · rename_i hphysical
    obtain ⟨directories, heq, hmem⟩ := putDirectory_eq ((directory.join i.name).join "device") h
    rw [components_below hname isEntryName_device] at hmem
    refine ⟨directories, by rw [heq]; rfl, fun q => (hmem q).trans ?_⟩
    simp [hphysical, Interface.devicePlace]
  · rename_i hphysical
    exact ⟨h.directories, rfl, fun q => by simp [hphysical]⟩

theorem addTo_links (hname : IsEntryName i.name) : (i.addTo directory h).links = h.links := by
  obtain ⟨directories, heq, -⟩ := addTo_eq directory h hname
  rw [heq]

theorem addTo_files (hname : IsEntryName i.name) :
    (i.addTo directory h).files = Assoc.set (i.addressPlace directory) i.contents h.files := by
  obtain ⟨directories, heq, -⟩ := addTo_eq directory h hname
  rw [heq]

theorem mem_addTo_places (hname : IsEntryName i.name) {q : Place} :
    q ∈ (i.addTo directory h).places ↔ q ∈ h.places ∨ q = i.addressPlace directory
      ∨ i.isPhysical = true ∧ q = i.devicePlace directory := by
  obtain ⟨directories, heq, hmem⟩ := addTo_eq directory h hname
  rw [heq, Scripted.places, Scripted.places]
  simp only [List.mem_append, Assoc.mem_keys_set, hmem]
  tauto

theorem foldl_links (hnames : ∀ i ∈ interfaces, IsEntryName i.name) :
    (interfaces.foldl (Interface.addTo directory) h).links = h.links := by
  induction interfaces generalizing h with
  | nil => rfl
  | cons i interfaces ih =>
    obtain ⟨hi, hrest⟩ := List.forall_mem_cons.mp hnames
    rw [List.foldl_cons, ih hrest, addTo_links hi]

/-- What each interface puts on a host is there, and nothing else is new. -/
theorem mem_foldl_places (hnames : ∀ i ∈ interfaces, IsEntryName i.name) {q : Place} :
    q ∈ (interfaces.foldl (Interface.addTo directory) h).places ↔ q ∈ h.places
      ∨ ∃ i ∈ interfaces, q = i.addressPlace directory
        ∨ i.isPhysical = true ∧ q = i.devicePlace directory := by
  induction interfaces generalizing h with
  | nil => simp
  | cons i interfaces ih =>
    obtain ⟨hi, hrest⟩ := List.forall_mem_cons.mp hnames
    rw [List.foldl_cons, ih hrest, mem_addTo_places hi, List.exists_mem_cons_iff, or_assoc]

/-- A file stays as it is when it is of none of the interfaces. -/
theorem get?_foldl_other (hnames : ∀ i ∈ interfaces, IsEntryName i.name) {q : Place}
    (hother : ∀ i ∈ interfaces, i.addressPlace directory ≠ q) :
    Assoc.get? q (interfaces.foldl (Interface.addTo directory) h).files = Assoc.get? q h.files := by
  induction interfaces generalizing h with
  | nil => rfl
  | cons i interfaces ih =>
    obtain ⟨hi, hrest⟩ := List.forall_mem_cons.mp hnames
    obtain ⟨hne, hothers⟩ := List.forall_mem_cons.mp hother
    rw [List.foldl_cons, ih hrest hothers, addTo_files hi, Assoc.get?_set, if_neg hne]

theorem addressPlace_ne {i j : Interface} (h : i.name ≠ j.name) :
    i.addressPlace directory ≠ j.addressPlace directory := by
  intro heq
  have hparts := List.append_cancel_left heq
  exact h (Component.name.inj (List.cons.inj hparts).1)

/-- **The file of an interface has its address**, since later ones have other names. -/
theorem get?_foldl_files (hnames : ∀ i ∈ interfaces, IsEntryName i.name)
    (hdistinct : (interfaces.map Interface.name).Nodup) (hi : i ∈ interfaces) :
    Assoc.get? (i.addressPlace directory) (interfaces.foldl (Interface.addTo directory) h).files
      = some i.contents := by
  induction interfaces generalizing h with
  | nil => cases hi
  | cons j interfaces ih =>
    obtain ⟨hj, hrest⟩ := List.forall_mem_cons.mp hnames
    rw [List.map_cons, List.nodup_cons] at hdistinct
    obtain ⟨hnew, hdistinct⟩ := hdistinct
    rw [List.foldl_cons]
    rcases List.mem_cons.mp hi with rfl | hi
    · have hlater : ∀ j ∈ interfaces, j.addressPlace directory ≠ i.addressPlace directory :=
        fun j hj => addressPlace_ne fun heq => hnew (heq ▸ List.mem_map_of_mem hj)
      rw [get?_foldl_other hrest hlater, addTo_files hj, Assoc.get?_set, if_pos rfl]
    · exact ih hrest hdistinct hi

/-! ## 2. What is on such a host -/

variable (directory)

theorem hostWith_links (hnames : ∀ i ∈ interfaces, IsEntryName i.name) :
    (hostWith directory interfaces).links = [] := foldl_links hnames

theorem mem_places (hnames : ∀ i ∈ interfaces, IsEntryName i.name) {q : Place} :
    q ∈ (hostWith directory interfaces).places ↔ ∃ i ∈ interfaces,
      q = i.addressPlace directory ∨ i.isPhysical = true ∧ q = i.devicePlace directory := by
  rw [hostWith, mem_foldl_places hnames]
  exact or_iff_right List.not_mem_nil

/-- **There is one entry for each interface**, whatever the order in which they were added. -/
theorem children_perm (hnames : ∀ i ∈ interfaces, IsEntryName i.name)
    (hdistinct : (interfaces.map Interface.name).Nodup) :
    ((hostWith directory interfaces).children directory.components).Perm
      (interfaces.map fun i => .name i.name) := by
  have hnodup : (interfaces.map fun i => Component.name i.name).Nodup := by
    have hmap := hdistinct.map (f := Component.name) fun a b => Component.name.inj
    rw [List.map_map] at hmap
    exact hmap
  refine (List.perm_ext_iff_of_nodup (Scripted.children_nodup _ _) hnodup).mpr fun c => ?_
  rw [Scripted.mem_children, List.mem_map]
  constructor
  · intro hc
    obtain ⟨q, hq, hprefix⟩ := hc
    obtain ⟨i, hi, hplace⟩ := (mem_places directory hnames).mp hq
    have hfirst : ∀ {name part : String},
        directory.components ++ [c] <+: directory.components ++ [.name name, .name part] →
          .name name = c := fun h => by
      rw [List.prefix_append_right_inj, List.cons_prefix_cons] at h
      exact h.1.symm
    rcases hplace with rfl | ⟨-, rfl⟩ <;> exact ⟨i, hi, hfirst hprefix⟩
  · intro hc
    obtain ⟨i, hi, rfl⟩ := hc
    refine ⟨i.addressPlace directory, (mem_places directory hnames).mpr ⟨i, hi, Or.inl rfl⟩, ?_⟩
    exact ⟨[.name "address"], by rw [List.append_assoc]; rfl⟩

/-- **An interface has a device when it was given one**: no other interface has anything at the place
    of its device. -/
theorem present_device (hnames : ∀ i ∈ interfaces, IsEntryName i.name)
    (hdistinct : (interfaces.map Interface.name).Nodup) (hi : i ∈ interfaces) :
    Files.present (hostWith directory interfaces) ((directory.join i.name).join "device")
      = i.isPhysical := by
  rw [Bool.eq_iff_iff]
  show Scripted.presentAt _ _ = true ↔ _
  rw [components_below (hnames i hi) isEntryName_device, Scripted.presentAt_iff]
  constructor
  · intro hpresent
    obtain ⟨q, hq, hprefix⟩ := hpresent
    obtain ⟨j, hj, hplace⟩ := (mem_places directory hnames).mp hq
    have hparts : ∀ {name part : String},
        directory.components ++ [.name i.name, .name "device"]
            <+: directory.components ++ [.name name, .name part] →
          i.name = name ∧ "device" = part := fun h => by
      rw [List.prefix_append_right_inj, List.cons_prefix_cons, List.cons_prefix_cons] at h
      exact ⟨Component.name.inj h.1, Component.name.inj h.2.1⟩
    rcases hplace with rfl | ⟨hphysical, rfl⟩
    · exact absurd (hparts hprefix).2 (by decide)
    · rw [List.inj_on_of_nodup_map hdistinct hi hj (hparts hprefix).1]
      exact hphysical
  · intro hphysical
    exact ⟨_, (mem_places directory hnames).mpr ⟨i, hi, Or.inr ⟨hphysical, rfl⟩⟩, List.prefix_rfl⟩

theorem macAt_of_text {S : Type} [Files S] {s : S} {entry : Path} {bs : Bytes} {text : String}
    (hcontents : Files.contents s (entry.join "address") = .ok bs)
    (htext : Utf8.decode bs = .ok text) :
    macAt s entry = .ok (Text.lowercase (Text.trimmed text)) := by
  unfold macAt
  dsimp only
  rw [hcontents]
  show (textOf _ bs).bind _ = _
  rw [textOf, htext]
  rfl

/-- **Its address is the one that it was given**, trimmed and in lower case. -/
theorem macAt_interface (hnames : ∀ i ∈ interfaces, IsEntryName i.name)
    (hdistinct : (interfaces.map Interface.name).Nodup) (hi : i ∈ interfaces) :
    macAt (hostWith directory interfaces) (directory.join i.name) = .ok i.key := by
  have hlink : Assoc.get? ((directory.join i.name).join "address").components
      (hostWith directory interfaces).links = none := by
    rw [hostWith_links directory hnames]
    rfl
  have hfile : (hostWith directory interfaces).fileAt? ((directory.join i.name).join "address")
      = some i.contents := by
    rw [Scripted.fileAt?_of_plain hlink, components_below (hnames i hi) isEntryName_address]
    exact get?_foldl_files hnames hdistinct hi
  have hcontents : Files.contents (hostWith directory interfaces)
      ((directory.join i.name).join "address") = .ok i.contents := by
    show Scripted.contents _ _ = _
    rw [Scripted.contents, hfile]
  -- the line feed at the end of the file is trimmed off
  have hblank : Text.AllBlank "\n".toList := by decide
  have htrimmed : Text.trimmed (i.mac ++ "\n") = Text.trimmed i.mac := by
    rw [Text.trimmed, Text.trimmed, String.toList_append, Text.trim_append_blank _ hblank]
  rw [macAt_of_text hcontents (Utf8.decode_encode _), htrimmed, Interface.key]

/-! ## 3. What is found -/

/-- What is found at the entry of an interface is added, when it has a device. -/
theorem addEntry_interface (hnames : ∀ i ∈ interfaces, IsEntryName i.name)
    (hdistinct : (interfaces.map Interface.name).Nodup) (hi : i ∈ interfaces)
    (found : NameMap String) :
    addEntry (hostWith directory interfaces) found (directory.join i.name)
      = .ok (if i.isPhysical then found.insert i.key i.name else found) := by
  have hname : (directory.join i.name).fileName? = some i.name := by
    rw [Path.fileName?, Path.components_join _ (hnames i hi), List.getLast?_concat]
  unfold addEntry
  rw [present_device directory hnames hdistinct hi, hname,
    macAt_interface directory hnames hdistinct hi]
  split <;> rfl

/-- What is found at the entries of some interfaces, one after another. -/
theorem foldlM_addEntry (hnames : ∀ i ∈ interfaces, IsEntryName i.name)
    (hdistinct : (interfaces.map Interface.name).Nodup) {l : List Interface}
    (hl : ∀ i ∈ l, i ∈ interfaces) (found : NameMap String) :
    (l.map fun i => directory.join i.name).foldlM (addEntry (hostWith directory interfaces)) found
      = .ok (((l.filter Interface.isPhysical).map fun i => (i.key, i.name)).foldl
          (fun m e => m.insert e.1 e.2) found) := by
  induction l generalizing found with
  | nil => rfl
  | cons i l ih =>
    obtain ⟨hi, hrest⟩ := List.forall_mem_cons.mp hl
    rw [List.map_cons, List.foldlM_cons, addEntry_interface directory hnames hdistinct hi]
    refine (ih hrest _).trans (congrArg Except.ok ?_)
    rw [List.filter_cons]
    split <;> rfl

end

/-- The entries of the directory are those of the interfaces, in some order. -/
theorem entries_eq (directory : Path) {interfaces : List Interface} (hsome : interfaces ≠ [])
    (hnames : ∀ i ∈ interfaces, IsEntryName i.name)
    (hdistinct : (interfaces.map Interface.name).Nodup) :
    ∃ l : List Interface, l.Perm interfaces
      ∧ Files.entries (hostWith directory interfaces) directory
        = .ok (l.map fun i => directory.join i.name) := by
  have hpresent : (hostWith directory interfaces).presentAt directory.components = true := by
    obtain ⟨i, hi⟩ := List.exists_mem_of_ne_nil _ hsome
    refine Scripted.presentAt_iff.mpr ⟨_, (mem_places directory hnames).mpr ⟨i, hi, Or.inl rfl⟩, ?_⟩
    exact List.prefix_append _ _
  have hself : List.Forall₂ (fun c (i : Interface) => c = .name i.name)
      (interfaces.map fun i => Component.name i.name) interfaces :=
    List.forall₂_map_left_iff.mpr (List.forall₂_same.mpr fun _ _ => rfl)
  obtain ⟨l, hl, hperm⟩ := List.perm_comp_forall₂ (children_perm directory hnames hdistinct) hself
  have hchildren : (hostWith directory interfaces).children directory.components
      = l.map fun i => Component.name i.name := by
    rw [← List.forall₂_eq_eq_eq, List.forall₂_map_right_iff]
    exact hl
  refine ⟨l, hperm, ?_⟩
  show Scripted.entries _ _ = _
  rw [Scripted.entries, if_pos hpresent, hchildren, List.map_map]
  rfl

/-- **Exactly the physical interfaces are found.** On a host that was given interfaces under a
    directory, at least one and in any order, whose names are distinct and whose physical ones have
    distinct addresses once these are trimmed and in lower case, detection succeeds. It finds the name
    of each physical interface under its address, and no other. -/
theorem detectMacs_finds (directory : Path) {interfaces : List Interface} (hsome : interfaces ≠ [])
    (hnames : ∀ i ∈ interfaces, IsEntryName i.name)
    (hdistinct : (interfaces.map Interface.name).Nodup)
    (hmacs : ((interfaces.filter Interface.isPhysical).map Interface.key).Nodup) :
    ∃ found, detectMacs directory (hostWith directory interfaces)
        = (.ok found, hostWith directory interfaces)
      ∧ found.entries.Perm
        ((interfaces.filter Interface.isPhysical).map fun i => (i.key, i.name)) := by
  obtain ⟨l, hperm, hentries⟩ := entries_eq directory hsome hnames hdistinct
  have hphysical : ((l.filter Interface.isPhysical).map fun i => (i.key, i.name)).Perm
      ((interfaces.filter Interface.isPhysical).map fun i => (i.key, i.name)) :=
    (hperm.filter _).map _
  have hkeys :
      (((l.filter Interface.isPhysical).map fun i => (i.key, i.name)).map Prod.fst).Nodup := by
    rw [(hphysical.map Prod.fst).nodup_iff, List.map_map]
    exact hmacs
  have hfound := foldlM_addEntry directory hnames hdistinct (fun i hi => hperm.mem_iff.mp hi)
    NameMap.empty
  have hadded := NameMap.entries_foldl_insert_perm NameMap.empty hkeys
  refine ⟨_, ?_, hadded.trans hphysical⟩
  refine Prod.ext ?_ rfl
  show macsUnder _ _ = _
  unfold macsUnder
  rw [hentries]
  exact hfound

/-- Interfaces whose names are starts of one another, or names of files below an interface. -/
def alikeInterfaces : List Interface :=
  [⟨"eth1", "00:15:5D:00:00:02", true⟩, ⟨"eth10", " 00:15:5d:00:00:01\n", true⟩,
    ⟨"lo", "00:00:00:00:00:00", false⟩, ⟨"device", "00:15:5d:00:00:04", false⟩,
    ⟨"eth", "00:15:5d:00:00:03", true⟩]

/-- Three of them are physical, and these are found. -/
theorem detectMacs_finds_alike :
    alikeInterfaces ≠ [] ∧ (∀ i ∈ alikeInterfaces, IsEntryName i.name)
      ∧ (alikeInterfaces.map Interface.name).Nodup
      ∧ ((alikeInterfaces.filter Interface.isPhysical).map Interface.key).Nodup
      ∧ ∃ found, detectMacs ⟨"/sys/class/net"⟩ (hostWith ⟨"/sys/class/net"⟩ alikeInterfaces)
          = (.ok found, hostWith ⟨"/sys/class/net"⟩ alikeInterfaces)
        ∧ found.entries.Perm [("00:15:5d:00:00:02", "eth1"), ("00:15:5d:00:00:01", "eth10"),
          ("00:15:5d:00:00:03", "eth")] := by
  have hsome : alikeInterfaces ≠ [] := by decide
  have hnames : ∀ i ∈ alikeInterfaces, IsEntryName i.name := by decide
  have hdistinct : (alikeInterfaces.map Interface.name).Nodup := by decide
  have hkeys : (alikeInterfaces.filter Interface.isPhysical).map (fun i => (i.key, i.name))
      = [("00:15:5d:00:00:02", "eth1"), ("00:15:5d:00:00:01", "eth10"),
        ("00:15:5d:00:00:03", "eth")] := by decide +kernel
  have hmacs : ((alikeInterfaces.filter Interface.isPhysical).map Interface.key).Nodup := by
    decide +kernel
  refine ⟨hsome, hnames, hdistinct, hmacs, ?_⟩
  rw [← hkeys]
  exact detectMacs_finds ⟨"/sys/class/net"⟩ hsome hnames hdistinct hmacs

end HostAgent.Net
