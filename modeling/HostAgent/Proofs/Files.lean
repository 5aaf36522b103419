import HostAgent.Proofs.Log

/-!
# Files under a log

Which files of a scripted host a log of requests may change. Links make a write end somewhere else,
so this is said for places that are plain: nothing is a link there, and a log that puts links at
other places only keeps it so.

* `Leads.stays_plain` -- plain places stay plain;
* `Leads.link_kept` -- links stay where a log puts none;
* `Leads.file_kept`, `Leads.writeCount_kept` -- a file that no request of the log is about stays as
  it is, and is not written;
* `RanOnly.host` -- commands change no files.
-/

namespace HostAgent

/-! ## 1. Requests and places -/

/-- The request writes to plain places only, and puts links at other ones. -/
def Event.Respects (plain : Place → Prop) : Event → Prop
  | .wrote path _ _ => plain path.components
  | .copied _ target _ => plain target.components
  | .linked _ path _ => ¬ plain path.components
  | .ran _ _ => True
  | .slept _ => True

/-- The request is not about the file at a place. -/
def Event.Spares (place : Place) : Event → Prop
  | .wrote path _ _ => path.components ≠ place
  | .copied _ target _ => target.components ≠ place
  | .linked _ path _ => path.components ≠ place
  | .ran _ _ => True
  | .slept _ => True

namespace Scripted

/-- Nothing is a link at the places. -/
def Plain (plain : Place → Prop) (h : Scripted) : Prop :=
  ∀ place, plain place → Assoc.get? place h.links = none

/-- A path that is no link leads to itself. -/
theorem resolve_of_plain {h : Scripted} {p : Path} (hp : Assoc.get? p.components h.links = none) :
    h.resolve p = p := by
  unfold resolve follow
  rw [hp]

theorem fileAt?_of_plain {h : Scripted} {p : Path} (hp : Assoc.get? p.components h.links = none) :
    h.fileAt? p = Assoc.get? p.components h.files := by
  rw [fileAt?, resolve_of_plain hp]

/-- What a path that is no link holds is what is at its place. -/
theorem fileAt?_congr {h h' : Scripted} {p : Path} (hp : Assoc.get? p.components h.links = none)
    (hp' : Assoc.get? p.components h'.links = none)
    (hfile : Assoc.get? p.components h'.files = Assoc.get? p.components h.files) :
    h'.fileAt? p = h.fileAt? p := by
  rw [fileAt?_of_plain hp', fileAt?_of_plain hp, hfile]

/-- A write that goes to the path itself changes no other file, and no link. -/
theorem writeAt_of_plain {h : Scripted} {p : Path} (bs : Bytes)
    (hp : Assoc.get? p.components h.links = none) :
    (h.writeAt p bs).2.links = h.links
      ∧ ∀ place, p.components ≠ place →
        Assoc.get? place (h.writeAt p bs).2.files = Assoc.get? place h.files := by
  unfold writeAt
  rw [resolve_of_plain hp]
  split
  · exact ⟨rfl, fun _ _ => rfl⟩
  · refine ⟨rfl, fun place hne => ?_⟩
    rw [Assoc.get?_set, if_neg hne]

theorem copyAt_of_plain {h : Scripted} {target : Path} (source : Path)
    (hp : Assoc.get? target.components h.links = none) :
    (h.copyAt source target).2.links = h.links
      ∧ ∀ place, target.components ≠ place →
        Assoc.get? place (h.copyAt source target).2.files = Assoc.get? place h.files := by
  unfold copyAt
  split
  · exact writeAt_of_plain _ hp
  · exact ⟨rfl, fun _ _ => rfl⟩

end Scripted

/-! ## 2. One request -/

section

variable {plain : Place → Prop} {h h' : Scripted}

open Scripted

/-- A request that respects plain places keeps them plain, and it changes only the file that it is
    about. -/
theorem Event.Moves.files {e : Event} (he : e.Moves h h') (hplain : Plain plain h)
    (hr : e.Respects plain) :
    Plain plain h' ∧ ∀ place, plain place → e.Spares place →
      Assoc.get? place h'.files = Assoc.get? place h.files := by
  cases e with
  | ran c r =>
    obtain ⟨queued, hq⟩ := run_snd c h
    have hh : (Commands.run c h).2 = h' := congrArg Prod.snd he
    rw [← hh, hq]
    exact ⟨hplain, fun _ _ _ => rfl⟩
  | slept ms =>
    have hh : Clock.sleep ms h = h' := he
    rw [← hh]
    exact ⟨hplain, fun _ _ _ => rfl⟩
  | wrote p bs r =>
    have hh : (h.writeAt p bs).2 = h' := congrArg Prod.snd he
    obtain ⟨hlinks, hfiles⟩ := writeAt_of_plain bs (hplain _ hr)
    rw [← hh]
    refine ⟨fun place hp => ?_, fun place _ hs => hfiles place hs⟩
    rw [hlinks]
    exact hplain place hp
  | copied source target r =>
    have hh : (h.copyAt source target).2 = h' := congrArg Prod.snd he
    obtain ⟨hlinks, hfiles⟩ := copyAt_of_plain source (hplain _ hr)
    rw [← hh]
    refine ⟨fun place hp => ?_, fun place _ hs => hfiles place hs⟩
    rw [hlinks]
    exact hplain place hp
  | linked target p r =>
    have hh : (linkAt target p h).2 = h' := congrArg Prod.snd he
    rw [← hh]
    refine ⟨fun place hp => ?_, fun place _ hs => ?_⟩
    · -- the link is at a place that is not plain
      have hne : p.components ≠ place := by
        intro heq
        subst heq
        exact hr hp
      show Assoc.get? place (Assoc.set p.components target h.links) = none
      rw [Assoc.get?_set, if_neg hne]
      exact hplain place hp
    · show Assoc.get? place (Assoc.erase p.components h.files) = _
      rw [Assoc.get?_erase, if_neg hs]

/-- A file that a request is not about stays as it is. -/
theorem Event.Moves.file_kept {e : Event} (he : e.Moves h h') (hplain : Plain plain h)
    (hr : e.Respects plain) {p : Path} (hp : plain p.components) (hs : e.Spares p.components) :
    h'.fileAt? p = h.fileAt? p := by
  obtain ⟨hplain', hfiles⟩ := he.files hplain hr
  exact fileAt?_congr (hplain _ hp) (hplain' _ hp) (hfiles _ hp hs)

/-! ## 3. A log -/

theorem Leads.stays_plain {log : List Event} (hl : Leads log h h') (hplain : Plain plain h)
    (hr : ∀ e ∈ log, e.Respects plain) : Plain plain h' :=
  hl.keeps hplain fun e he _ _ hm hp => (hm.files hp (hr e he)).1

/-- **A file that no request of a log is about stays as it is.** -/
theorem Leads.file_kept {log : List Event} (hl : Leads log h h') (hplain : Plain plain h)
    (hr : ∀ e ∈ log, e.Respects plain) {p : Path} (hp : plain p.components)
    (hs : ∀ e ∈ log, e.Spares p.components) : h'.fileAt? p = h.fileAt? p := by
  have hkept : Plain plain h' ∧ h'.fileAt? p = h.fileAt? p := by
    refine hl.keeps (I := fun s => Plain plain s ∧ s.fileAt? p = h.fileAt? p) ⟨hplain, rfl⟩ ?_
    intro e he s t hm h
    obtain ⟨hps, hfile⟩ := h
    exact ⟨(hm.files hps (hr e he)).1, (hm.file_kept hps (hr e he) hp (hs e he)).trans hfile⟩
  exact hkept.2

/-- **Where a log puts no link, links stay as they are.** -/
theorem Leads.link_kept {log : List Event} (hl : Leads log h h') {p : Path}
    (hno : ∀ target path answer, .linked target path answer ∈ log → path.components ≠ p.components) :
    h'.linkAt? p = h.linkAt? p := by
  refine hl.keeps (I := fun s => s.linkAt? p = h.linkAt? p) rfl ?_
  intro e he s t hm hs
  rw [← hs]
  cases e with
  | ran c r =>
    obtain ⟨queued, hq⟩ := run_snd c s
    have ht : (Commands.run c s).2 = t := congrArg Prod.snd hm
    rw [← ht, hq]
    rfl
  | slept ms =>
    have ht : Clock.sleep ms s = t := hm
    rw [← ht]
    rfl
  | wrote path bs r =>
    obtain ⟨files, writes, hw⟩ := writeAt_snd path bs s
    have ht : (s.writeAt path bs).2 = t := congrArg Prod.snd hm
    rw [← ht, hw]
    rfl
  | copied source target r =>
    obtain ⟨files, writes, hw⟩ := copyAt_snd source target s
    have ht : (s.copyAt source target).2 = t := congrArg Prod.snd hm
    rw [← ht, hw]
    rfl
  | linked target path r =>
    have ht : (linkAt target path s).2 = t := congrArg Prod.snd hm
    rw [← ht]
    show Assoc.get? p.components (Assoc.set path.components target s.links) = _
    rw [Assoc.get?_set, if_neg (hno target path r he)]
    rfl

/-- A write counts for its own path alone. -/
theorem writeCount_writeAt {q p : Path} (bs : Bytes) (hne : q.components ≠ p.components) :
    (h.writeAt q bs).2.writeCount p = h.writeCount p := by
  unfold writeAt
  split
  · rfl
  · show (Assoc.get? p.components (Assoc.set q.components _ h.writes)).getD 0 = _
    rw [Assoc.get?_set, if_neg hne]
    rfl

/-- **A file that no request of a log is about is not written.** -/
theorem Leads.writeCount_kept {log : List Event} (hl : Leads log h h') {p : Path}
    (hs : ∀ e ∈ log, e.Spares p.components) : h'.writeCount p = h.writeCount p := by
  refine hl.keeps (I := fun s => s.writeCount p = h.writeCount p) rfl ?_
  intro e he s t hm hcount
  rw [← hcount]
  cases e with
  | ran c r =>
    obtain ⟨queued, hq⟩ := run_snd c s
    have ht : (Commands.run c s).2 = t := congrArg Prod.snd hm
    rw [← ht, hq]
    rfl
  | slept ms =>
    have ht : Clock.sleep ms s = t := hm
    rw [← ht]
    rfl
  | wrote path bs r =>
    have ht : (s.writeAt path bs).2 = t := congrArg Prod.snd hm
    rw [← ht]
    exact writeCount_writeAt bs (hs _ he)
  | copied source target r =>
    have ht : (s.copyAt source target).2 = t := congrArg Prod.snd hm
    rw [← ht]
    unfold copyAt
    split
    · exact writeCount_writeAt _ (hs _ he)
    · rfl
  | linked target path r =>
    have ht : (linkAt target path s).2 = t := congrArg Prod.snd hm
    rw [← ht]
    rfl

/-- **Commands change the script and the record alone.** -/
theorem RanOnly.host {commands : List CommandLine} {log : List Event}
    (hran : RanOnly commands log) (hl : Leads log h h') :
    ∃ recorded queued, h' = { h with commands := recorded, queued } := by
  refine hl.keeps (I := fun s => ∃ recorded queued,
    s = { h with commands := recorded, queued }) ⟨h.commands, h.queued, rfl⟩ ?_
  intro e he s t hm h
  obtain ⟨recorded, queued, rfl⟩ := h
  obtain ⟨c, -, answer, rfl⟩ := hran.ran he
  obtain ⟨queued', hq⟩ := run_snd c { h with commands := recorded, queued }
  have ht : (Commands.run c { h with commands := recorded, queued }).2 = t := congrArg Prod.snd hm
  exact ⟨_, _, ht.symm.trans hq⟩

end

end HostAgent
