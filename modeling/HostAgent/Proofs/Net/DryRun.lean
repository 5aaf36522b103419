import HostAgent.Proofs.FileSystem
import HostAgent.Proofs.Net.ConfigFiles

/-!
# A dry run tells what a run does

The configuration files are judged before interfaces are taken down, and written after. Both go
through the same list of files, so what the first one tells the second one does: a file that reads as
its text is left alone, any other is written, and a write that fails ends the run. Files that lead to
different places do not get in each other's way, whatever links there are.

* `convergeTexts` -- files made to hold their texts, one after another;
* `Brought` -- what a run over files has done;
* `convergeTexts_brings`, `convergeTexts_stops` -- a run without and with a write that fails;
* `dryRun_predicts` -- the dry run and the run.
-/

namespace HostAgent.Net

/-! ## 1. Files, one after another -/

/-- Make files hold their texts, in order; the answer is whether one has changed. -/
def convergeTexts {S : Type} [Files S] : List (Path × String) → Bool → Pass S Bool
  | [], _ => pure false
  | (path, text) :: more, dryRun => do
    let changed ← convergeText path text dryRun
    let changedLater ← convergeTexts more dryRun
    return changed || changedLater

/-- The configuration files with the texts that they are to hold. -/
def configTexts (paths : NetPaths) (interfaces : String) (dhclient : Option String) :
    List (Path × String) :=
  (paths.interfaces, interfaces) :: (dhclient.map fun text => (paths.dhclientConf, text)).toList

theorem writeNetworkConfigs_eq {S : Type} [Files S] (paths : NetPaths) (interfaces : String)
    (dhclient : Option String) (dryRun : Bool) :
    (writeNetworkConfigs paths interfaces dhclient dryRun : Pass S Bool)
      = convergeTexts (configTexts paths interfaces dhclient) dryRun := by
  cases dhclient with
  | none =>
    simp only [writeNetworkConfigs, configTexts, convergeTexts, Option.map_none, Option.toList_none,
      pure_bind, Bool.or_false, bind_pure]
  | some text =>
    simp only [writeNetworkConfigs, configTexts, convergeTexts, Option.map_some, Option.toList_some,
      pure_bind, Bool.or_false, bind_pure]

theorem convergeTexts_append {S : Type} [Files S] (before after : List (Path × String))
    (dryRun : Bool) :
    (convergeTexts (before ++ after) dryRun : Pass S Bool) = do
      let changed ← convergeTexts before dryRun
      let changedLater ← convergeTexts after dryRun
      return changed || changedLater := by
  induction before with
  | nil => simp only [List.nil_append, convergeTexts, pure_bind, Bool.false_or, bind_pure]
  | cons f more ih =>
    obtain ⟨path, text⟩ := f
    simp only [List.cons_append, convergeTexts, ih, bind_assoc, pure_bind, Bool.or_assoc]

/-! ## 2. One file -/

/-- The file does not read as its text. -/
def Stale (h : Scripted) (f : Path × String) : Prop := h.fileAt? f.1 ≠ some (Utf8.encode f.2)

instance (h : Scripted) (f : Path × String) : Decidable (Stale h f) :=
  inferInstanceAs (Decidable (_ ≠ _))

/-- Some write would be needed. -/
def anyStale (h : Scripted) (files : List (Path × String)) : Bool := files.any fun f => Stale h f

/-- The error of a file that cannot be written. -/
def unwritable (path : Path) : Error :=
  .context ("Writing to " ++ path.text) (.io path.text (.said "permission denied"))

section

variable {h h' : Scripted} {path : Path} {text : String} {f : Path × String}
  {files before after : List (Path × String)}

theorem anyStale_cons : anyStale h (f :: files) = (decide (Stale h f) || anyStale h files) := rfl

theorem anyStale_eq_true : anyStale h files = true ↔ ∃ f ∈ files, Stale h f := by
  simp only [anyStale, List.any_eq_true, decide_eq_true_eq]

theorem anyStale_eq_false : anyStale h files = false ↔ ∀ f ∈ files, ¬Stale h f := by
  simp only [anyStale, List.any_eq_false, decide_eq_true_eq]

theorem holds_eq : holds h path (Utf8.encode text) = !decide (Stale h (path, text)) := by
  rw [Bool.eq_iff_iff, Scripted.holds_iff, Bool.not_eq_true', decide_eq_false_iff_not, Stale,
    not_not]

/-- A dry run tells whether a file is stale, and touches nothing. -/
theorem convergeText_looks (path : Path) (text : String) (h : Scripted) :
    convergeText path text true h = (.ok (decide (Stale h (path, text))), h) := by
  rw [convergeText_dry, holds_eq, Bool.not_not]

/-- A file that is not stale is left alone. -/
theorem convergeText_fresh (hfresh : ¬Stale h (path, text)) :
    convergeText path text false h = (.ok false, h) := by
  have hheld : holds h path (Utf8.encode text) = true := by rw [holds_eq]; simpa using hfresh
  rw [convergeText, Pass.within_apply, convergeFile, Pass.bind_apply]
  simp only [Pass.look, hheld]
  rfl

/-- A stale file is written, and the run ends if it cannot be. -/
theorem convergeText_stale (hstale : Stale h (path, text)) {answer : Except Error Unit}
    (hw : Files.write path (Utf8.encode text) h = (answer, h')) :
    convergeText path text false h
      = ((answer.map fun _ => true).mapError (.context ("Writing to " ++ path.text)), h') := by
  have hheld : holds h path (Utf8.encode text) = false := by rw [holds_eq]; simpa using hstale
  rw [convergeText, Pass.within_apply, convergeFile, Pass.bind_apply]
  simp only [Pass.look, hheld]
  cases answer with
  | ok u =>
    have hwrite : writeFile path (Utf8.encode text) h = (.ok u, h') := hw
    simp only [Bool.false_eq_true, if_false, Pass.bind_ok hwrite]
    rfl
  | error e =>
    have hwrite : writeFile path (Utf8.encode text) h = (.error e, h') := hw
    simp only [Bool.false_eq_true, if_false, Pass.bind_error hwrite]
    rfl

/-! ## 3. A run -/

/-- The files lead to different places. -/
def TargetsApart (h : Scripted) (files : List (Path × String)) : Prop :=
  files.Pairwise fun f g => (h.resolve f.1).components ≠ (h.resolve g.1).components

/-- What a run over files has done: those that were stale are written, once each, and all of them
    read as their texts; nothing else is written, and every other path reads as before. -/
structure Brought (files : List (Path × String)) (h h' : Scripted) : Prop where
  reads : ∀ f ∈ files, h'.fileAt? f.1 = some (Utf8.encode f.2)
  written : ∀ f ∈ files, h'.writeCount f.1 = h.writeCount f.1 + if Stale h f then 1 else 0
  kept : ∀ q : Path, (∀ f ∈ files, Stale h f →
    (h.resolve q).components ≠ (h.resolve f.1).components) → h'.fileAt? q = h.fileAt? q
  unwritten : ∀ q : Path, (∀ f ∈ files, Stale h f → q.components ≠ f.1.components) →
    h'.writeCount q = h.writeCount q
  rest : ∃ files writes, h' = { h with files, writes }

theorem Brought.nothing (h : Scripted) : Brought [] h h where
  reads _ hf := by cases hf
  written _ hf := by cases hf
  kept _ _ := rfl
  unwritten _ _ := rfl
  rest := ⟨h.files, h.writes, rfl⟩

theorem Brought.links (hb : Brought files h h') : h'.links = h.links ∧ h'.readOnly = h.readOnly := by
  obtain ⟨files, writes, rfl⟩ := hb.rest
  exact ⟨rfl, rfl⟩

/-- Where paths lead to different places, they are different paths. -/
theorem components_ne {p q : Path} (hne : (h.resolve p).components ≠ (h.resolve q).components) :
    p.components ≠ q.components :=
  fun heq => hne (Scripted.resolve_congr heq)

/-- A file that leads elsewhere than the files of a run is as it was. -/
theorem Brought.spares (hb : Brought files h h') {q : Path}
    (hne : ∀ f ∈ files, (h.resolve q).components ≠ (h.resolve f.1).components) :
    h'.fileAt? q = h.fileAt? q ∧ h'.writeCount q = h.writeCount q :=
  ⟨hb.kept q fun f hf _ => hne f hf, hb.unwritten q fun f hf _ => components_ne (hne f hf)⟩

/-- The first file was not stale: what was done about the others is all. -/
theorem Brought.cons_fresh (hb : Brought files h h') (hfresh : ¬Stale h f)
    (hne : ∀ g ∈ files, (h.resolve f.1).components ≠ (h.resolve g.1).components) :
    Brought (f :: files) h h' where
  reads g hg := by
    rcases List.mem_cons.mp hg with rfl | hg
    · rw [(hb.spares hne).1]
      exact not_not.mp hfresh
    · exact hb.reads g hg
  written g hg := by
    rcases List.mem_cons.mp hg with rfl | hg
    · rw [(hb.spares hne).2, if_neg hfresh, Nat.add_zero]
    · exact hb.written g hg
  kept q hq := hb.kept q fun g hg => hq g (List.mem_cons_of_mem _ hg)
  unwritten q hq := hb.unwritten q fun g hg => hq g (List.mem_cons_of_mem _ hg)
  rest := hb.rest

/-- A write changes nothing about a file that leads elsewhere. -/
theorem write_spares {bs : Bytes} (hw : Files.write path bs h = (.ok (), h')) {q : Path}
    (hne : (h.resolve q).components ≠ (h.resolve path).components) :
    h'.fileAt? q = h.fileAt? q ∧ h'.writeCount q = h.writeCount q := by
  rw [Scripted.fileAt?_written hw, if_neg hne, Scripted.writeCount_written hw,
    if_neg (components_ne hne)]
  exact ⟨rfl, rfl⟩

/-- The first file was written, and the others brought to their texts after it. -/
theorem Brought.cons_stale {t : Scripted} (hb : Brought files t h')
    (hw : Files.write path (Utf8.encode text) h = (.ok (), t)) (hstale : Stale h (path, text))
    (hne : ∀ g ∈ files, (h.resolve path).components ≠ (h.resolve g.1).components) :
    Brought ((path, text) :: files) h h' := by
  have hlead := Scripted.resolve_of_links (Scripted.write_keeps hw).1
  have hspared : ∀ g ∈ files, t.fileAt? g.1 = h.fileAt? g.1 ∧ t.writeCount g.1 = h.writeCount g.1 :=
    fun g hg => write_spares hw (hne g hg).symm
  have hsame : ∀ g ∈ files, (Stale t g ↔ Stale h g) := fun g hg => by
    rw [Stale, Stale, (hspared g hg).1]
  have hfirst : h'.fileAt? path = t.fileAt? path ∧ h'.writeCount path = t.writeCount path :=
    hb.spares fun g hg => by
      rw [hlead, hlead]
      exact hne g hg
  refine ⟨fun g hg => ?_, fun g hg => ?_, fun q hq => ?_, fun q hq => ?_, ?_⟩
  · rcases List.mem_cons.mp hg with rfl | hg
    · rw [hfirst.1, Scripted.fileAt?_written hw, if_pos rfl]
    · exact hb.reads g hg
  · rcases List.mem_cons.mp hg with rfl | hg
    · rw [hfirst.2, Scripted.writeCount_written hw, if_pos rfl, if_pos hstale]
    · rw [hb.written g hg, (hspared g hg).2]
      simp only [hsame g hg]
  · have hpath := hq _ List.mem_cons_self hstale
    rw [← (write_spares hw hpath).1]
    refine hb.kept q fun g hg hgstale => ?_
    rw [hlead, hlead]
    exact hq g (List.mem_cons_of_mem _ hg) ((hsame g hg).mp hgstale)
  · have hpath := hq _ List.mem_cons_self hstale
    have hcount : t.writeCount q = h.writeCount q := by
      rw [Scripted.writeCount_written hw, if_neg hpath]
      rfl
    rw [← hcount]
    exact hb.unwritten q fun g hg hgstale =>
      hq g (List.mem_cons_of_mem _ hg) ((hsame g hg).mp hgstale)
  · obtain ⟨files', writes', rfl⟩ := hb.rest
    obtain ⟨files, writes, hsnd⟩ := Scripted.writeAt_snd path (Utf8.encode text) h
    obtain rfl : (h.writeAt path (Utf8.encode text)).2 = t := congrArg Prod.snd hw
    rw [hsnd]
    exact ⟨files', writes', rfl⟩

/-- A dry run over files tells whether one of them is stale, and touches nothing. -/
theorem convergeTexts_looks (files : List (Path × String)) (h : Scripted) :
    convergeTexts files true h = (.ok (anyStale h files), h) := by
  induction files with
  | nil => rfl
  | cons f more ih =>
    obtain ⟨path, text⟩ := f
    rw [convergeTexts, Pass.bind_ok (convergeText_looks path text h), Pass.bind_ok ih]
    rfl

/-- **Where no write fails, a run brings all files to their texts**, and it tells what the dry run
    told. -/
theorem convergeTexts_brings (hapart : TargetsApart h files)
    (hwritable : ∀ f ∈ files, Stale h f → f.1.components ∉ h.readOnly) :
    ∃ h', convergeTexts files false h = (.ok (anyStale h files), h') ∧ Brought files h h' := by
  induction files generalizing h with
  | nil => exact ⟨h, rfl, .nothing h⟩
  | cons f more ih =>
    obtain ⟨path, text⟩ := f
    obtain ⟨hne, hmore⟩ := List.pairwise_cons.mp hapart
    have hwritable' : ∀ g ∈ more, Stale h g → g.1.components ∉ h.readOnly := fun g hg =>
      hwritable g (List.mem_cons_of_mem _ hg)
    by_cases hstale : Stale h (path, text)
    · rcases Scripted.write_cases path (Utf8.encode text) h with ⟨hin, -⟩ | ⟨-, hwritten⟩
      · have hnot : path.components ∉ h.readOnly :=
          hwritable (path, text) List.mem_cons_self hstale
        exact absurd hin hnot
      · obtain ⟨t, hw⟩ : ∃ t, Files.write path (Utf8.encode text) h = (.ok (), t) := ⟨_, hwritten⟩
        obtain ⟨hlinks, hreadOnly⟩ := Scripted.write_keeps hw
        have hlead := Scripted.resolve_of_links hlinks
        have hsame : ∀ g ∈ more, (Stale t g ↔ Stale h g) := fun g hg => by
          rw [Stale, Stale, (write_spares hw (hne g hg).symm).1]
        obtain ⟨h', hrun, hb⟩ := ih (h := t) (by simpa only [TargetsApart, hlead] using hmore)
          fun g hg hgstale => by
            rw [hreadOnly]
            exact hwritable' g hg ((hsame g hg).mp hgstale)
        refine ⟨h', ?_, hb.cons_stale hw hstale hne⟩
        rw [convergeTexts, Pass.bind_ok (convergeText_stale hstale hw), Pass.bind_ok hrun,
          anyStale_cons, decide_eq_true hstale]
        rfl
    · obtain ⟨h', hrun, hb⟩ := ih hmore hwritable'
      refine ⟨h', ?_, hb.cons_fresh hstale hne⟩
      rw [convergeTexts, Pass.bind_ok (convergeText_fresh hstale), Pass.bind_ok hrun,
        anyStale_cons, decide_eq_false hstale]
      rfl

/-- **A run stops at the first file that cannot be written**: the files before it are brought to
    their texts, and it and those after it are as they were. -/
theorem convergeTexts_stops (hapart : TargetsApart h (before ++ f :: after)) (hstale : Stale h f)
    (hrefused : f.1.components ∈ h.readOnly)
    (hwritable : ∀ g ∈ before, Stale h g → g.1.components ∉ h.readOnly) :
    ∃ h', convergeTexts (before ++ f :: after) false h = (.error (unwritable f.1), h')
      ∧ Brought before h h'
      ∧ ∀ g ∈ f :: after, h'.fileAt? g.1 = h.fileAt? g.1 ∧ h'.writeCount g.1 = h.writeCount g.1 := by
  obtain ⟨path, text⟩ := f
  obtain ⟨hbefore, -, hacross⟩ := List.pairwise_append.mp hapart
  obtain ⟨h', hrun, hb⟩ := convergeTexts_brings hbefore hwritable
  have hspared : ∀ g ∈ (path, text) :: after,
      h'.fileAt? g.1 = h.fileAt? g.1 ∧ h'.writeCount g.1 = h.writeCount g.1 := fun g hg =>
    hb.spares fun b hbefore => (hacross b hbefore g hg).symm
  have hstale' : Stale h' (path, text) := by
    rw [Stale, (hspared _ List.mem_cons_self).1]
    exact hstale
  have hstopped : convergeText path text false h' = (.error (unwritable path), h') := by
    rcases Scripted.write_cases path (Utf8.encode text) h' with ⟨-, hw⟩ | ⟨hnot, -⟩
    · exact convergeText_stale hstale' hw
    · rw [hb.links.2] at hnot
      exact absurd hrefused hnot
  refine ⟨h', ?_, hb, hspared⟩
  have hrest : convergeTexts ((path, text) :: after) false h' = (.error (unwritable path), h') := by
    rw [convergeTexts, Pass.bind_error hstopped]
  rw [convergeTexts_append, Pass.bind_ok hrun, Pass.bind_error hrest]

/-- Where nothing is stale, a run changes nothing. -/
theorem convergeTexts_rests (hfresh : ∀ f ∈ files, ¬Stale h f) :
    convergeTexts files false h = (.ok false, h) := by
  induction files with
  | nil => rfl
  | cons f more ih =>
    obtain ⟨path, text⟩ := f
    have hmore := ih fun g hg => hfresh g (List.mem_cons_of_mem _ hg)
    rw [convergeTexts, Pass.bind_ok (convergeText_fresh (hfresh _ List.mem_cons_self)),
      Pass.bind_ok hmore]
    rfl

/-- What a run over files has come to when it stopped at one of them. -/
structure StoppedAt (before : List (Path × String)) (f : Path × String)
    (after : List (Path × String)) (h h' : Scripted) : Prop where
  stale : Stale h f
  refused : f.1.components ∈ h.readOnly
  first : ∀ g ∈ before, Stale h g → g.1.components ∉ h.readOnly
  brought : Brought before h h'
  untouched : ∀ g ∈ f :: after,
    h'.fileAt? g.1 = h.fileAt? g.1 ∧ h'.writeCount g.1 = h.writeCount g.1

/-- **A run brings all files to their texts, or it stops at the first one that cannot be written.** -/
theorem convergeTexts_cases (hapart : TargetsApart h files) :
    (∃ h', convergeTexts files false h = (.ok (anyStale h files), h') ∧ Brought files h h')
      ∨ ∃ before f after h', files = before ++ f :: after
        ∧ convergeTexts files false h = (.error (unwritable f.1), h')
        ∧ StoppedAt before f after h h' := by
  cases hblocked : files.find? fun f => decide (Stale h f ∧ f.1.components ∈ h.readOnly) with
  | none =>
    refine .inl (convergeTexts_brings hapart fun f hf hstale hrefused => ?_)
    exact List.find?_eq_none.mp hblocked f hf (decide_eq_true ⟨hstale, hrefused⟩)
  | some f =>
    obtain ⟨hf, before, after, rfl, hfirst⟩ := List.find?_eq_some_iff_append.mp hblocked
    obtain ⟨hstale, hrefused⟩ := of_decide_eq_true hf
    have hwritable : ∀ g ∈ before, Stale h g → g.1.components ∉ h.readOnly := by
      intro g hg hgstale hgrefused
      have hnot := hfirst g hg
      rw [decide_eq_true (And.intro hgstale hgrefused)] at hnot
      cases hnot
    obtain ⟨h', hrun, hb, hspared⟩ := convergeTexts_stops hapart hstale hrefused hwritable
    exact .inr ⟨before, f, after, h', rfl, hrun, hstale, hrefused, hwritable, hb, hspared⟩

end

/-! ## 4. The dry run and the run -/

/-- **A dry run tells what a run does.** The dry run never fails and touches nothing. When it finds
    nothing to change, the run changes nothing either. When it does, the run either brings the files
    to their texts, or it stops at the first file that cannot be written, with those before it
    brought to their texts and it and those after it as they were. And after a run that succeeded
    there is nothing to change. -/
theorem dryRun_predicts (paths : NetPaths) (interfaces : String) (dhclient : Option String)
    (h : Scripted)
    (hapart : dhclient.isSome →
      (h.resolve paths.interfaces).components ≠ (h.resolve paths.dhclientConf).components) :
    ∃ changes : Bool,
      writeNetworkConfigs paths interfaces dhclient true h = (.ok changes, h)
      ∧ (changes = true ↔ ∃ f ∈ configTexts paths interfaces dhclient, Stale h f)
      ∧ (changes = false →
        writeNetworkConfigs paths interfaces dhclient false h = (.ok false, h))
      ∧ (changes = true →
        (∃ h', writeNetworkConfigs paths interfaces dhclient false h = (.ok true, h')
          ∧ Brought (configTexts paths interfaces dhclient) h h')
        ∨ ∃ before f after h', configTexts paths interfaces dhclient = before ++ f :: after
          ∧ writeNetworkConfigs paths interfaces dhclient false h = (.error (unwritable f.1), h')
          ∧ StoppedAt before f after h h')
      ∧ ∀ changed h', writeNetworkConfigs paths interfaces dhclient false h = (.ok changed, h') →
        writeNetworkConfigs paths interfaces dhclient true h' = (.ok false, h') := by
  simp only [writeNetworkConfigs_eq]
  have hfiles : TargetsApart h (configTexts paths interfaces dhclient) := by
    cases dhclient with
    | none => exact List.pairwise_singleton _ _
    | some text => exact List.pairwise_pair.mpr (hapart rfl)
  generalize configTexts paths interfaces dhclient = files at hfiles ⊢
  refine ⟨anyStale h files, convergeTexts_looks files h, anyStale_eq_true, fun hfresh => ?_,
    fun hstale => ?_, fun changed h' hrun => ?_⟩
  · exact convergeTexts_rests (anyStale_eq_false.mp hfresh)
  · have hcases := convergeTexts_cases hfiles
    rwa [hstale] at hcases
  · rcases convergeTexts_cases hfiles with ⟨t, hbrought, hb⟩ | ⟨_, _, _, _, -, hstopped, -⟩
    · obtain rfl := (Prod.mk.inj (hbrought.symm.trans hrun)).2
      have hfresh : anyStale t files = false :=
        anyStale_eq_false.mpr fun f hf hstale => hstale (hb.reads f hf)
      rw [convergeTexts_looks, hfresh]
    · cases hstopped.symm.trans hrun

/-- A host on which the first file is a link to one that is not there, and the second one holds its
    text already. -/
def redirectedHost : Scripted :=
  (({} : Scripted).putLink ⟨"/run/interfaces"⟩ ⟨"/etc/network/interfaces"⟩).putFile
    ⟨"/etc/dhcp/dhclient.conf"⟩ (Utf8.encode "retry 1;\n")

/-- The file behind the link is written, and a second look finds nothing to do. -/
theorem dryRun_predicts_redirected :
    (redirectedHost.resolve ⟨"/etc/network/interfaces"⟩).components
        ≠ (redirectedHost.resolve ⟨"/etc/dhcp/dhclient.conf"⟩).components
      ∧ ∃ h', writeNetworkConfigs {} "auto lo\n" (some "retry 1;\n") false redirectedHost
          = (.ok true, h')
        ∧ Brought (configTexts {} "auto lo\n" (some "retry 1;\n")) redirectedHost h'
        ∧ writeNetworkConfigs {} "auto lo\n" (some "retry 1;\n") true h' = (.ok false, h') := by
  have hapart : (redirectedHost.resolve ⟨"/etc/network/interfaces"⟩).components
      ≠ (redirectedHost.resolve ⟨"/etc/dhcp/dhclient.conf"⟩).components := by
    decide +kernel
  have hstale : Stale redirectedHost (⟨"/etc/network/interfaces"⟩, "auto lo\n") := by
    decide +kernel
  obtain ⟨changes, -, hsome, -, hrun, hagain⟩ :=
    dryRun_predicts {} "auto lo\n" (some "retry 1;\n") redirectedHost fun _ => hapart
  have hchanges : changes = true := hsome.mpr ⟨_, List.mem_cons_self, hstale⟩
  rcases hrun hchanges with ⟨h', hdone, hbrought⟩ | ⟨_, _, _, _, -, -, hstopped⟩
  · exact ⟨hapart, h', hdone, hbrought, hagain true h' hdone⟩
  · -- every path of this host can be written
    cases hstopped.refused

end HostAgent.Net
