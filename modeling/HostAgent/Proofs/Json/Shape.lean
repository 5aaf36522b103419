import HostAgent.Json.Shape
import HostAgent.Proofs.Json.Print
import HostAgent.Proofs.NameMap

/-!
# What is written is read again

A writer of typed values goes with a reader when its values print in full and the reader restores
what was written. Writers and readers of larger values go together when those of their parts do.

* `Restores` -- the reader goes with the writer;
* `Restores.list`, `Restores.choice`, `Restores.nameMap` -- lists, choices by name, and maps;
* `members_ofMembers`, `members_of_subset` -- the members of a structure, and some of them;
* `HoldsKept` -- an object that holds some members of another one, and members of other names;
* `Restores.document` -- the bytes of a whole document.
-/

namespace HostAgent.Json.Value

/-! ## 1. Members -/

theorem namedMembers_named (l : List (String × Value)) : namedMembers (named l) = some l := by
  induction l with
  | nil => rfl
  | cons m ms ih => exact congrArg (Option.map (m :: ·)) ih

theorem distinctNames_iff {l : List (String × Value)} :
    distinctNames l = true ↔ (l.map Prod.fst).Nodup := by
  induction l with
  | nil => exact ⟨fun _ => .nil, fun _ => rfl⟩
  | cons m ms ih =>
    have hfirst : (!ms.any fun x => x.1 = m.1) = true ↔ m.1 ∉ ms.map Prod.fst := by
      simp only [Bool.not_eq_true', List.any_eq_false, decide_eq_true_eq, List.mem_map, not_exists,
        not_and]
    rw [distinctNames, Bool.and_eq_true, hfirst, ih, List.map_cons, List.nodup_cons]

/-- The members of a structure are those of known names, when none of these occurs twice. -/
theorem members_distinct {names : List String} {l : List (String × Value)}
    (h : ((l.filter fun m => names.contains m.1).map Prod.fst).Nodup) :
    (ofMembers l).members names = some (l.filter fun m => names.contains m.1) := by
  show Option.bind (namedMembers (named l)) _ = _
  rw [namedMembers_named, Option.bind_some]
  exact if_pos (distinctNames_iff.mpr h)

/-- **The members of a structure are those that were written**, when they have known names. -/
theorem members_ofMembers {names : List String} {l : List (String × Value)}
    (hknown : (l.map Prod.fst).Sublist names) (hnames : names.Nodup) :
    (ofMembers l).members names = some l := by
  have hall : (l.filter fun m => names.contains m.1) = l := by
    rw [List.filter_eq_self]
    intro m hm
    exact List.contains_iff_mem.mpr (hknown.subset (List.mem_map_of_mem hm))
  rw [members_distinct (by rw [hall]; exact hnames.sublist hknown), hall]

theorem lookup_filter {p : String → Bool} {name : String} (h : p name = true)
    (l : List (String × Value)) : (l.filter fun m => p m.1).lookup name = l.lookup name := by
  induction l with
  | nil => rfl
  | cons m l ih =>
    rw [List.filter_cons]
    by_cases hname : name = m.1
    · rw [← hname, if_pos h, List.lookup_cons, List.lookup_cons, hname, beq_self_eq_true]
    · have hne : (name == m.1) = false := beq_eq_false_iff_ne.mpr hname
      split
      · rw [List.lookup_cons, List.lookup_cons, hne, ih]
      · rw [List.lookup_cons, hne, ih]

/-- **A reader that knows fewer members skips the others**: where a reader that knows more accepts
    an object, it does so too, and finds the same under each name that it knows. -/
theorem members_of_subset {names fewer : List String} (hfewer : ∀ name ∈ fewer, name ∈ names)
    {ms : List (Option String × Value)} {l : List (String × Value)}
    (h : (object ms).members names = some l) :
    ∃ l', (object ms).members fewer = some l' ∧ ∀ name ∈ fewer, l'.lookup name = l.lookup name := by
  obtain ⟨named, hnamed, hl⟩ := Option.bind_eq_some_iff.mp h
  dsimp only at hl
  split at hl
  · rename_i hdistinct
    cases hl
    refine ⟨named.filter fun m => fewer.contains m.1, ?_, fun name hname => ?_⟩
    · have hsub : (named.filter fun m => fewer.contains m.1).Sublist
          (named.filter fun m => names.contains m.1) :=
        List.monotone_filter_right named fun m hm =>
          List.contains_iff_mem.mpr (hfewer m.1 (List.contains_iff_mem.mp hm))
      have hnodup := (distinctNames_iff.mp hdistinct).sublist (hsub.map Prod.fst)
      exact Option.bind_eq_some_iff.mpr ⟨named, hnamed, if_pos (distinctNames_iff.mpr hnodup)⟩
    · have hin : fewer.contains name = true := List.contains_iff_mem.mpr hname
      have hall : names.contains name = true := List.contains_iff_mem.mpr (hfewer name hname)
      rw [lookup_filter (p := fewer.contains) hin, lookup_filter (p := names.contains) hall]
  · cases hl

section

variable {α β : Type} {names : List String} {l : List (String × Value)}

/-- The reader of a structure goes on with the members that were written. -/
theorem members_bind {next : List (String × Value) → Option β}
    (hknown : (l.map Prod.fst).Sublist names) (hnames : names.Nodup) :
    ((ofMembers l).members names).bind next = next l := by
  rw [members_ofMembers hknown hnames, Option.bind_some]

variable {name : String} {missing a : α} {item : Value → Option α}
  {ms : List (String × Value)} {v : Value} {next : α → Option β}

/-- It goes on with a member that it finds. -/
theorem optional_bind (hlookup : ms.lookup name = some v) (hitem : item v = some a) :
    (optional name missing item ms).bind next = next a := by
  rw [optional, hlookup]
  exact (congrArg (Option.bind · next) hitem).trans (Option.bind_some _ _)

theorem required_bind (hlookup : ms.lookup name = some v) (hitem : item v = some a) :
    (required name item ms).bind next = next a := by
  rw [required, hlookup, Option.bind_some, hitem, Option.bind_some]

end

/-! ## 2. Parts of an object -/

theorem ofMembers_injective : Function.Injective ofMembers := by
  intro l l' h
  exact Function.Injective.list_map (fun m m' h => by simpa [Prod.ext_iff] using h)
    (Value.object.inj h)

/-- An object that holds exactly the kept members of another one, in any order, among any members
    of names that the other one does not have. -/
def HoldsKept (v : Value) (keeps : String → Bool) (w : Value) : Prop :=
  ∃ full held others, w = ofMembers full ∧ v = ofMembers held
    ∧ held.Perm ((full.filter fun m => keeps m.1) ++ others)
    ∧ ∀ m ∈ others, m.1 ∉ full.map Prod.fst

/-- The members of one object are a part of it, whichever are kept. -/
theorem holdsKept_filter (keeps : String → Bool) (l : List (String × Value)) :
    (ofMembers (l.filter fun m => keeps m.1)).HoldsKept keeps (ofMembers l) :=
  ⟨l, _, [], rfl, rfl, by rw [List.append_nil], fun _ h => absurd h List.not_mem_nil⟩

theorem holdsKept_all {keeps : String → Bool} (h : ∀ name, keeps name = true)
    (l : List (String × Value)) : (ofMembers l).HoldsKept keeps (ofMembers l) := by
  have hall : (l.filter fun m => keeps m.1) = l := List.filter_eq_self.mpr fun m _ => h m.1
  have hheld := holdsKept_filter keeps l
  rwa [hall] at hheld

/-- With distinct names the place of a member does not matter. -/
theorem lookup_of_mem {l : List (String × Value)} (hnodup : (l.map Prod.fst).Nodup) {name : String}
    {v : Value} (h : (name, v) ∈ l) : l.lookup name = some v := by
  induction l with
  | nil => cases h
  | cons m l ih =>
    obtain ⟨hfirst, hrest⟩ := List.nodup_cons.mp hnodup
    rcases List.mem_cons.mp h with rfl | hin
    · exact List.lookup_cons_self
    · have hne : name ≠ m.1 := by
        rintro rfl
        exact hfirst (List.mem_map.mpr ⟨_, hin, rfl⟩)
      rw [List.lookup_cons, beq_eq_false_iff_ne.mpr hne, ih hrest hin]

/-- **The reader of a structure finds the kept members and no other**, wherever they stand and
    whatever else there is. -/
theorem HoldsKept.members {v : Value} {keeps : String → Bool} {full : List (String × Value)}
    (h : v.HoldsKept keeps (ofMembers full)) (names : List String)
    (hnames : full.map Prod.fst = names) (hnodup : names.Nodup) :
    ∃ ms, v.members names = some ms
      ∧ ∀ m ∈ full, ms.lookup m.1 = if keeps m.1 then some m.2 else none := by
  obtain ⟨full', held, others, hfull, rfl, horder, hothers⟩ := h
  cases ofMembers_injective hfull
  subst hnames
  let known (m : String × Value) : Bool := (full.map Prod.fst).contains m.1
  -- only the kept ones among the members have known names, and so no two have the same
  have hknown : (held.filter known).Perm (full.filter fun m => keeps m.1) := by
    have hkept : (full.filter fun m => keeps m.1).filter known = full.filter fun m => keeps m.1 :=
      List.filter_eq_self.mpr fun m hm =>
        List.contains_iff_mem.mpr (List.mem_map_of_mem (List.mem_of_mem_filter hm))
    have hnone : others.filter known = [] := List.filter_eq_nil_iff.mpr fun m hm hc =>
      hothers m hm (List.contains_iff_mem.mp hc)
    have hboth := horder.filter known
    rw [List.filter_append, hkept, hnone, List.append_nil] at hboth
    exact hboth
  have hdistinct : ((held.filter known).map Prod.fst).Nodup :=
    (hknown.map Prod.fst).nodup_iff.mpr (hnodup.sublist (List.filter_sublist.map Prod.fst))
  refine ⟨held.filter known, members_distinct hdistinct, fun m hm => ?_⟩
  split
  · rename_i hkeeps
    exact lookup_of_mem hdistinct (hknown.mem_iff.mpr (List.mem_filter.mpr ⟨hm, hkeeps⟩))
  · rename_i hdrops
    refine List.lookup_eq_none_iff.mpr fun x hx => bne_iff_ne.mpr fun hname => hdrops ?_
    rw [hname]
    exact (List.mem_filter.mp (hknown.mem_iff.mp hx)).2

/-- A member that may be missing is what was kept, or else its default. -/
theorem optional_kept {α β : Type} {name : String} {missing a : α} {item : Value → Option α}
    {ms : List (String × Value)} {v : Value} {next : α → Option β} {kept : Bool}
    (hlookup : ms.lookup name = if kept then some v else none) (hitem : item v = some a) :
    (optional name missing item ms).bind next = next (if kept then a else missing) := by
  cases kept with
  | true => exact optional_bind hlookup hitem
  | false =>
    rw [optional, hlookup]
    rfl

/-! ## 3. Readers and writers -/

/-- What is written prints in full, and the reader restores it. -/
structure Restores {α : Type} (read : Value → Option α) (write : α → Value) : Prop where
  readable (a : α) : (write a).Readable
  restored (a : α) : read (write a) = some a

namespace Restores

variable {α : Type} {read : Value → Option α} {write : α → Value}

theorem text : Restores asText ofText where
  readable := .text
  restored _ := rfl

theorem bool : Restores asBool Value.bool where
  readable := .bool
  restored _ := rfl

theorem asNatural_ofNat {bound n : Nat} (h : n ≤ bound) : (ofNat n).asNatural bound = some n :=
  if_pos h

theorem uint32 : Restores asUInt32 fun n => ofNat n.toNat where
  readable n := .natural n.toNat
  restored n := by
    have hle : n.toNat ≤ Decimal.max32 := Nat.le_sub_one_of_lt n.toNat_lt
    rw [asUInt32, asNatural_ofNat hle, Option.map_some, UInt32.ofNat_toNat]

theorem uint64 : Restores asUInt64 fun n => ofNat n.toNat where
  readable n := .natural n.toNat
  restored n := by
    rw [asUInt64, asNatural_ofNat (Decimal.toNat_le_max64 n), Option.map_some, UInt64.ofNat_toNat]

/-- A choice by its name, when no other choice goes by it first. -/
theorem choice {choices : List (String × α)} {name : α → String}
    (h : ∀ a, choices.lookup (name a) = some a) :
    Restores (asChoice choices) fun a => ofText (name a) where
  readable a := .text (name a)
  restored := h

theorem mapM_restored (h : Restores read write) (l : List α) : (l.map write).mapM read = some l := by
  induction l with
  | nil => rfl
  | cons a l ih => rw [List.map_cons, List.mapM_cons, h.restored, ih]; rfl

theorem list (h : Restores read write) : Restores (asList read) fun l => .array (l.map write) where
  readable _ := .array (List.forall_mem_map.mpr fun a _ => h.readable a)
  restored := h.mapM_restored

/-- A value that may be null, when it is none. -/
theorem asOption_restored (h : Restores read write) {a : α} (hnull : write a ≠ .null) :
    asOption read (write a) = some (some a) := by
  have hsome : asOption read (write a) = (read (write a)).map some := by
    unfold asOption
    split
    · rename_i hwrite
      exact absurd hwrite hnull
    · rfl
  rw [hsome, h.restored, Option.map_some]

theorem nameMap (h : Restores read write) :
    Restores (asMap read) fun m => ofMembers (m.entries.map fun e => (e.1, write e.2)) where
  readable _ := .object (List.forall_mem_map.mpr fun e _ => h.readable e.2)
  restored m := by
    have hitems : (m.entries.map fun e => (e.1, write e.2)).mapM
        (fun x => (read x.2).map fun a => (x.1, a)) = some m.entries := by
      induction m.entries with
      | nil => rfl
      | cons e l ih => rw [List.map_cons, List.mapM_cons, ih, h.restored]; rfl
    show Option.bind (namedMembers (named _)) _ = _
    rw [namedMembers_named, Option.bind_some]
    show Option.bind (List.mapM (m := Option) _ _) _ = _
    rw [hitems]
    exact congrArg some (NameMap.ofList_entries m)

/-- **What is written as a document is restored from its bytes.** -/
theorem document (h : Restores read write) (a : α) :
    (readBytes (Utf8.encode (write a).compact)).bind read = some a := by
  rw [readBytes_compact (h.readable a), Option.bind_some, h.restored]

end Restores

end HostAgent.Json.Value
