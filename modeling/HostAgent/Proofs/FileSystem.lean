import HostAgent.Proofs.Files
import HostAgent.Proofs.Listing
import Mathlib.Data.List.Lex

/-!
# The files of a scripted host

A scripted host keeps its files in three tables, and answers questions about them by searching
these. From outside it behaves as a file system does, whatever links there are, be they a long chain
or a cycle: a path leads to one place, a write is seen through every path that leads there and
through no other one, and a directory lists what is below it.

* `Scripted.holds_iff` -- a file that can be read is there;
* `Scripted.fileAt?_written` -- what is read after a write;
* `Scripted.Made`, `Leads.made` -- places are those of paths, and a host keeps to that;
* `Path.components_join_below` -- the place of what a directory lists;
* `Scripted.isFileSystem` -- the laws together.
-/

namespace HostAgent

/-! ## 1. What is there -/

namespace Assoc

variable {K V : Type} [DecidableEq K]

theorem mem_keys_of_get? {key : K} {value : V} {l : List (K × V)} (h : get? key l = some value) :
    key ∈ keys l := by
  induction l with
  | nil => cases h
  | cons e l ih =>
    unfold get? at h
    split at h
    · rename_i heq
      rw [← heq]
      exact List.mem_cons_self
    · exact List.mem_cons_of_mem _ (ih h)

theorem mem_keys_erase {key other : K} {l : List (K × V)} (h : other ∈ keys (erase key l)) :
    other ∈ keys l := by
  obtain ⟨e, he, rfl⟩ := List.mem_map.mp h
  exact List.mem_map_of_mem (List.mem_of_mem_filter he)

end Assoc

namespace Scripted

variable {h h' : Scripted} {p q : Path} {bs : Bytes}

theorem mem_places {place : Place} :
    place ∈ h.places
      ↔ place ∈ Assoc.keys h.files ∨ place ∈ h.directories ∨ place ∈ Assoc.keys h.links := by
  rw [places, List.mem_append, List.mem_append, or_assoc]

/-- What was made is there. -/
theorem presentAt_of_mem {place : Place} (hplace : place ∈ h.places) : h.presentAt place = true :=
  presentAt_iff.mpr ⟨place, hplace, List.prefix_rfl⟩

/-- **A file that can be read is there**: at the path itself, or there is a link. -/
theorem presentAt_of_fileAt? (hfile : h.fileAt? p = some bs) : h.presentAt p.components = true := by
  cases hlink : Assoc.get? p.components h.links with
  | some target =>
    exact presentAt_of_mem (mem_places.mpr (.inr (.inr (Assoc.mem_keys_of_get? hlink))))
  | none =>
    rw [fileAt?_of_plain hlink] at hfile
    exact presentAt_of_mem (mem_places.mpr (.inl (Assoc.mem_keys_of_get? hfile)))

/-- What can be read at a path is what the file there holds. -/
theorem contents_eq_ok : Files.contents h p = .ok bs ↔ h.fileAt? p = some bs := by
  show h.contents p = .ok bs ↔ _
  unfold contents
  cases h.fileAt? p with
  | none => exact ⟨nofun, nofun⟩
  | some existing => exact ⟨fun heq => by cases heq; rfl, fun heq => by cases heq; rfl⟩

/-- A path holds what the file there holds. -/
theorem holds_iff : holds h p bs = true ↔ h.fileAt? p = some bs := by
  rw [holds, Bool.and_eq_true]
  constructor
  · rintro ⟨-, hread⟩
    split at hread
    · rename_i existing hcontents
      rw [← eq_of_beq hread]
      exact contents_eq_ok.mp hcontents
    · cases hread
  · intro hfile
    have hcontents : Files.contents h p = .ok bs := contents_eq_ok.mpr hfile
    rw [hcontents]
    exact ⟨presentAt_of_fileAt? hfile, beq_self_eq_true bs⟩

/-! ## 2. Where paths lead -/

/-- Paths of one place lead to one place. -/
theorem resolve_congr (hsame : p.components = q.components) :
    (h.resolve p).components = (h.resolve q).components := by
  unfold resolve follow
  rw [hsame]
  split
  · rfl
  · exact hsame

theorem resolve_of_links (hlinks : h'.links = h.links) (p : Path) : h'.resolve p = h.resolve p := by
  rw [resolve, hlinks, resolve]

/-! ## 3. Writes -/

/-- A write is refused at some paths, and nothing happens; at any other one the place that the path
    leads to has the bytes, and the write is counted. -/
theorem write_cases (p : Path) (bs : Bytes) (h : Scripted) :
    p.components ∈ h.readOnly
        ∧ Files.write p bs h = (.error (.io p.text (.said "permission denied")), h)
      ∨ p.components ∉ h.readOnly
        ∧ Files.write p bs h = (.ok (), { h with
            files := Assoc.set (h.resolve p).components bs h.files
            writes := Assoc.set p.components (h.writeCount p + 1) h.writes }) := by
  by_cases hrefused : p.components ∈ h.readOnly
  · exact .inl ⟨hrefused, if_pos hrefused⟩
  · exact .inr ⟨hrefused, if_neg hrefused⟩

/-- A write changes no link, and no path is refused or allowed by it. -/
theorem write_keeps {answer : Except Error Unit} (hw : Files.write p bs h = (answer, h')) :
    h'.links = h.links ∧ h'.readOnly = h.readOnly := by
  obtain ⟨files, writes, hsnd⟩ := writeAt_snd p bs h
  obtain rfl : (h.writeAt p bs).2 = h' := congrArg Prod.snd hw
  rw [hsnd]
  exact ⟨rfl, rfl⟩

/-- **After a write every path that leads to the same place reads the bytes**, and every other one
    what it did before. -/
theorem fileAt?_written (hw : Files.write p bs h = (.ok (), h')) (q : Path) :
    h'.fileAt? q
      = if (h.resolve q).components = (h.resolve p).components then some bs else h.fileAt? q := by
  have hlead : h'.resolve q = h.resolve q := resolve_of_links (write_keeps hw).1 q
  rcases write_cases p bs h with ⟨-, hrefused⟩ | ⟨-, hwritten⟩
  · cases hrefused.symm.trans hw
  · obtain rfl := (Prod.mk.inj (hwritten.symm.trans hw)).2
    rw [fileAt?, hlead]
    show Assoc.get? _ (Assoc.set _ _ _) = _
    rw [Assoc.get?_set, fileAt?]
    simp only [eq_comm]

/-- The write is counted for the path that was given, and for no other one. -/
theorem writeCount_written (hw : Files.write p bs h = (.ok (), h')) (q : Path) :
    h'.writeCount q = h.writeCount q + if q.components = p.components then 1 else 0 := by
  rcases write_cases p bs h with ⟨-, hrefused⟩ | ⟨-, hwritten⟩
  · cases hrefused.symm.trans hw
  · obtain rfl := (Prod.mk.inj (hwritten.symm.trans hw)).2
    show (Assoc.get? _ (Assoc.set _ _ _)).getD 0 = _
    rw [Assoc.get?_set]
    by_cases hsame : q.components = p.components
    · rw [if_pos hsame.symm, if_pos hsame, writeCount, writeCount, hsame]
      rfl
    · rw [if_neg (Ne.symm hsame), if_neg hsame]
      rfl

/-- After a write the file holds the bytes, or nothing has changed. -/
theorem write_read {answer : Except Error Unit} (hw : Files.write p bs h = (answer, h')) :
    answer = .ok () ∧ h'.fileAt? p = some bs ∨ (∃ e, answer = .error e) ∧ h' = h := by
  rcases write_cases p bs h with ⟨-, hrefused⟩ | ⟨-, hwritten⟩
  · obtain ⟨rfl, rfl⟩ := Prod.mk.inj (hrefused.symm.trans hw)
    exact .inr ⟨⟨_, rfl⟩, rfl⟩
  · obtain ⟨rfl, -⟩ := Prod.mk.inj (hwritten.symm.trans hw)
    exact .inl ⟨rfl, by rw [fileAt?_written hw, if_pos rfl]⟩

/-! ## 4. Places of paths -/

/-- Every place that was made is the place of a path. -/
def Made (h : Scripted) : Prop := ∀ place ∈ h.places, ∃ p : Path, p.components = place

theorem made_iff : h.Made ↔
    (∀ place ∈ Assoc.keys h.files, ∃ p : Path, p.components = place)
      ∧ (∀ place ∈ h.directories, ∃ p : Path, p.components = place)
      ∧ ∀ place ∈ Assoc.keys h.links, ∃ p : Path, p.components = place := by
  simp only [Made, mem_places, or_imp, forall_and]

theorem Made.empty : Made {} := fun _ hplace => by cases hplace

theorem Made.putFile (hmade : h.Made) (p : Path) (bs : Bytes) : (h.putFile p bs).Made := by
  obtain ⟨hfiles, hdirectories, hlinks⟩ := made_iff.mp hmade
  refine made_iff.mpr ⟨fun place hplace => ?_, hdirectories, hlinks⟩
  rcases Assoc.mem_keys_set.mp hplace with rfl | hplace
  · exact ⟨p, rfl⟩
  · exact hfiles place hplace

theorem Made.putLink (hmade : h.Made) (target link : Path) : (h.putLink target link).Made := by
  obtain ⟨hfiles, hdirectories, hlinks⟩ := made_iff.mp hmade
  refine made_iff.mpr ⟨hfiles, hdirectories, fun place hplace => ?_⟩
  rcases Assoc.mem_keys_set.mp hplace with rfl | hplace
  · exact ⟨link, rfl⟩
  · exact hlinks place hplace

theorem Made.putDirectory (hmade : h.Made) (p : Path) : (h.putDirectory p).Made := by
  obtain ⟨hfiles, hdirectories, hlinks⟩ := made_iff.mp hmade
  unfold Scripted.putDirectory
  split
  · exact hmade
  · refine made_iff.mpr ⟨hfiles, fun place hplace => ?_, hlinks⟩
    rcases List.mem_append.mp hplace with hplace | hplace
    · exact hdirectories place hplace
    · exact ⟨p, (List.mem_singleton.mp hplace).symm⟩

theorem Made.write (hmade : h.Made) (p : Path) (bs : Bytes) : (Files.write p bs h).2.Made := by
  rcases write_cases p bs h with ⟨-, hrefused⟩ | ⟨-, hwritten⟩
  · rw [hrefused]
    exact hmade
  · rw [hwritten]
    exact hmade.putFile (h.resolve p) bs

theorem Made.link (hmade : h.Made) (target link : Path) :
    (Files.link target link h).2.Made := by
  obtain ⟨hfiles, hdirectories, -⟩ := made_iff.mp hmade
  obtain ⟨-, -, hlinks⟩ := made_iff.mp (hmade.putLink target link)
  exact made_iff.mpr
    ⟨fun place hplace => hfiles place (Assoc.mem_keys_erase hplace), hdirectories, hlinks⟩

theorem Made.copy (hmade : h.Made) (source target : Path) :
    (Files.copy source target h).2.Made := by
  show (h.copyAt source target).2.Made
  unfold copyAt
  split
  · exact hmade.write target _
  · exact hmade

end Scripted

/-- **A host keeps to places of paths**, whatever is asked of it. -/
theorem Leads.made {log : List Event} {h h' : Scripted} (hl : Leads log h h') (hmade : h.Made) :
    h'.Made := by
  refine hl.keeps hmade fun e _ s t hm hs => ?_
  cases e with
  | ran c r =>
    obtain ⟨queued, hq⟩ := Scripted.run_snd c s
    obtain rfl : (Commands.run c s).2 = t := congrArg Prod.snd hm
    rw [hq]
    exact hs
  | slept ms =>
    obtain rfl : Clock.sleep ms s = t := hm
    exact hs
  | wrote p bs r =>
    obtain rfl : (Files.write p bs s).2 = t := congrArg Prod.snd hm
    exact hs.write p bs
  | copied source target r =>
    obtain rfl : (Files.copy source target s).2 = t := congrArg Prod.snd hm
    exact hs.copy source target
  | linked target link r =>
    obtain rfl : (Files.link target link s).2 = t := congrArg Prod.snd hm
    exact hs.link target link

/-! ## 5. The laws of a file system -/

/-- The place comes strictly before the other one, compared component by component. -/
def Place.Before (a b : Place) : Prop := List.Lex (fun c d => c.before d = true) a b

/-- The path is one component below the directory. -/
def Path.IsEntryOf (x d : Path) : Prop := ∃ c, x.components = d.components ++ [c]

namespace Scripted

/-- What can be expected of the files of a host: of writes, and of directories. -/
structure IsFileSystem (h : Scripted) : Prop where
  /-- a path can be written unless it is one of those that are refused -/
  writable (p : Path) (bs : Bytes) :
    (∃ h', Files.write p bs h = (.ok (), h')) ↔ p.components ∉ h.readOnly
  /-- after a write there is something, and paths to that place read the bytes, others as before -/
  written (p : Path) (bs : Bytes) (h' : Scripted) (hw : Files.write p bs h = (.ok (), h')) :
    Files.present h' p = true
      ∧ ∀ q, Files.contents h' q
        = if (h.resolve q).same (h.resolve p) then .ok bs else Files.contents h q
  /-- a write that fails changes nothing -/
  refused (p : Path) (bs : Bytes) (e : Error) (h' : Scripted)
    (hw : Files.write p bs h = (.error e, h')) : h' = h
  /-- what is not there cannot be listed, and anything else can -/
  unlisted (d : Path) : (∃ fault, Files.entries h d = .error fault) ↔ Files.present h d = false
  /-- a directory lists what is one component below it, in order -/
  listed (d : Path) (l : List Path) (hl : Files.entries h d = .ok l) :
    (l.Pairwise fun x y => x.components.Before y.components)
      ∧ ∀ x : Path, (∃ y ∈ l, y.same x) ↔ x.IsEntryOf d ∧ Files.present h x = true

variable {h h' : Scripted} {p q d : Path} {bs : Bytes} {l : List Path}

/-- What is read after a write, as the host answers it. -/
theorem contents_written (hw : Files.write p bs h = (.ok (), h')) (q : Path) :
    Files.contents h' q
      = if (h.resolve q).same (h.resolve p) then .ok bs else Files.contents h q := by
  have hread := fileAt?_written hw q
  show h'.contents q = if _ then .ok bs else h.contents q
  unfold contents
  rw [hread]
  by_cases hsame : (h.resolve q).components = (h.resolve p).components
  · have hpaths : (h.resolve q).same (h.resolve p) = true := beq_iff_eq.mpr hsame
    rw [if_pos hsame, if_pos hpaths]
  · have hpaths : ¬(h.resolve q).same (h.resolve p) = true := fun heq => hsame (eq_of_beq heq)
    rw [if_neg hsame, if_neg hpaths]

/-- A listing is made of the components below the directory, if it is there. -/
theorem entries_eq_ok : Files.entries h d = .ok l ↔
    Files.present h d = true ∧ (h.children d.components).map (fun c => d.join c.text) = l := by
  show (if h.presentAt d.components then _ else _) = _ ↔ h.presentAt d.components = true ∧ _
  by_cases hpresent : h.presentAt d.components = true
  · rw [if_pos hpresent]
    simp [hpresent]
  · rw [if_neg hpresent]
    simp [hpresent]

/-- The place of an entry. -/
theorem Made.components_entry (hmade : h.Made) {c : Component} (hc : c ∈ h.children d.components) :
    (d.join c.text).components = d.components ++ [c] := by
  obtain ⟨place, hplace, hbelow⟩ := mem_children.mp hc
  obtain ⟨p, rfl⟩ := hmade place hplace
  exact Path.components_join_below hbelow

/-- **A directory lists what is one component below it.** -/
theorem Made.mem_entries (hmade : h.Made) (hl : Files.entries h d = .ok l) (x : Path) :
    (∃ y ∈ l, y.same x) ↔ x.IsEntryOf d ∧ Files.present h x = true := by
  obtain ⟨-, rfl⟩ := entries_eq_ok.mp hl
  constructor
  · rintro ⟨y, hy, hsame⟩
    obtain ⟨c, hc, rfl⟩ := List.mem_map.mp hy
    have hx : x.components = d.components ++ [c] := by
      rw [← hmade.components_entry hc]
      exact (eq_of_beq hsame).symm
    refine ⟨⟨c, hx⟩, ?_⟩
    show h.presentAt x.components = true
    rw [hx]
    exact presentAt_iff.mpr (mem_children.mp hc)
  · rintro ⟨⟨c, hx⟩, hpresent⟩
    have hc : c ∈ h.children d.components := by
      refine mem_children.mpr (presentAt_iff.mp ?_)
      rw [← hx]
      exact hpresent
    refine ⟨_, List.mem_map_of_mem hc, beq_iff_eq.mpr ?_⟩
    rw [hmade.components_entry hc, hx]

/-- **Entries are listed in order.** -/
theorem Made.entries_pairwise (hmade : h.Made) (hl : Files.entries h d = .ok l) :
    l.Pairwise fun x y => x.components.Before y.components := by
  obtain ⟨-, rfl⟩ := entries_eq_ok.mp hl
  refine List.pairwise_map.mpr ((h.children_pairwise d.components).imp_of_mem ?_)
  intro a b ha hb hbefore
  have hlast : Place.Before [a] [b] := .rel hbefore
  rw [hmade.components_entry ha, hmade.components_entry hb]
  exact List.Lex.append_left _ hlast d.components

/-- **The files of a scripted host are a file system**, whatever links it has: chains that are longer
    than what is followed, and cycles, included. A host is asked for nothing but that its places are
    those of paths, which is so from the start and stays so. -/
theorem isFileSystem (hmade : h.Made) : h.IsFileSystem where
  writable p bs := by
    rcases write_cases p bs h with ⟨hin, hrefused⟩ | ⟨hnot, hwritten⟩
    · refine ⟨?_, fun hnot => absurd hin hnot⟩
      rintro ⟨_, hw⟩
      cases hrefused.symm.trans hw
    · exact ⟨fun _ => hnot, fun _ => ⟨_, hwritten⟩⟩
  written p bs h' hw := by
    refine ⟨?_, contents_written hw⟩
    have hread := fileAt?_written hw p
    rw [if_pos rfl] at hread
    exact presentAt_of_fileAt? hread
  refused p bs e h' hw := by
    rcases write_read hw with ⟨hok, -⟩ | ⟨-, hsame⟩
    · cases hok
    · exact hsame
  unlisted d := by
    show (∃ fault, (if h.presentAt d.components then _ else _) = Except.error fault)
      ↔ h.presentAt d.components = false
    by_cases hpresent : h.presentAt d.components = true
    · simp [hpresent]
    · simp [hpresent]
  listed _ _ hl := ⟨hmade.entries_pairwise hl, hmade.mem_entries hl⟩

/-- A host on which two links lead to each other, with a file next to them and an empty
    directory. -/
def ringHost : Scripted :=
  (({} : Scripted).putDirectory ⟨"/srv"⟩).putLink ⟨"/etc/b"⟩ ⟨"/etc/a"⟩
    |>.putLink ⟨"/etc/a"⟩ ⟨"/etc/b"⟩ |>.putFile ⟨"/etc/hosts"⟩ []

/-- A write into the ring is read at the link that it ends at, and not at the other one. -/
theorem isFileSystem_ring :
    ringHost.Made ∧ ringHost.IsFileSystem
      ∧ ∀ h', Files.write ⟨"/etc/a"⟩ [0x31] ringHost = (.ok (), h') →
          Files.contents h' ⟨"/etc/a"⟩ = .ok [0x31]
            ∧ Files.contents h' ⟨"/etc/b"⟩ = .error (.said "file not found") := by
  have hmade : ringHost.Made :=
    (((Made.empty.putDirectory _).putLink _ _).putLink _ _).putFile _ _
  have hlaws := isFileSystem hmade
  refine ⟨hmade, hlaws, fun h' hw => ?_⟩
  have hread := (hlaws.written _ _ h' hw).2
  have ha : (ringHost.resolve ⟨"/etc/a"⟩).same (ringHost.resolve ⟨"/etc/a"⟩) = true := by decide
  have hb : (ringHost.resolve ⟨"/etc/b"⟩).same (ringHost.resolve ⟨"/etc/a"⟩) = false := by
    decide +kernel
  refine ⟨?_, ?_⟩
  · rw [hread, ha]
    rfl
  · rw [hread, hb]
    decide +kernel

end Scripted

end HostAgent
