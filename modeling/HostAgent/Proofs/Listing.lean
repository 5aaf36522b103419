import HostAgent.Host.Scripted
import HostAgent.Proofs.Text

/-!
# Entries of a directory

A directory of a scripted host has an entry for each place that was made below it. The entries come
once each and in the order of their names, however often and in whatever order places below them were
made.

* `Path.components_join` -- the place of an entry;
* `Component.before_trans`, `Component.before_total` -- the order of components;
* `Scripted.children_pairwise`, `Scripted.mem_children` -- the entries, in order, each once.
-/

namespace HostAgent

/-! ## 1. Places of entries -/

/-- The name is one component of a path, and not a dot or a double dot. -/
structure IsEntryName (name : String) : Prop where
  noSeparator : '/' ∉ name.toList
  isName : name ∉ ["", ".", ".."]

instance (name : String) : Decidable (IsEntryName name) :=
  decidable_of_iff ('/' ∉ name.toList ∧ name ∉ ["", ".", ".."])
    ⟨fun h => ⟨h.1, h.2⟩, fun h => ⟨h.1, h.2⟩⟩

/-- The component may stand anywhere in a path: it is a name, or a double dot. -/
def Component.IsInner : Component → Prop
  | .up => True
  | .name s => IsEntryName s
  | .root => False
  | .here => False

namespace Path

theorem component?_name {name : String} (h : IsEntryName name) :
    component? name.toList = some (.name name) := by
  have hnot : ∀ other ∈ ["", ".", ".."], name.toList ≠ other.toList := fun other hother heq =>
    h.isName (String.toList_inj.mp heq ▸ hother)
  unfold component?
  split
  · rename_i heq
    exact absurd heq (hnot "" (by decide))
  · rename_i heq
    exact absurd heq (hnot "." (by decide))
  · rename_i heq
    exact absurd heq (hnot ".." (by decide))
  · rw [String.ofList_toList]

/-- The text of such a component is one piece between separators, and no dot. -/
theorem component?_text {c : Component} (h : c.IsInner) :
    '/' ∉ c.text.toList ∧ c.text ≠ "." ∧ component? c.text.toList = some c := by
  cases c with
  | root => cases h
  | here => cases h
  | up => decide
  | name s =>
    refine ⟨h.noSeparator, fun heq => ?_, component?_name h⟩
    have hin := h.isName
    rw [show s = "." from heq] at hin
    exact hin (by decide)

theorem relativeComponents_cons {piece : List Char} (h : piece ≠ ['.']) (pieces : List (List Char)) :
    relativeComponents (piece :: pieces) = (piece :: pieces).filterMap component? := by
  unfold relativeComponents
  split
  · rename_i heq
    exact absurd (List.cons.inj heq).1 h
  · rfl

theorem relativeComponents_append {pieces : List (List Char)} (h : pieces ≠ [])
    (more : List (List Char)) :
    relativeComponents (pieces ++ more) = relativeComponents pieces ++ more.filterMap component? := by
  cases pieces with
  | nil => exact absurd rfl h
  | cons piece pieces =>
    by_cases hdot : piece = ['.']
    · rw [hdot, List.cons_append]
      exact congrArg (Component.here :: ·) List.filterMap_append
    · rw [List.cons_append, relativeComponents_cons hdot, relativeComponents_cons hdot,
        ← List.cons_append, List.filterMap_append]

/-- The components of a text. -/
def componentsOf (t : List Char) : Place := (Path.mk (String.ofList t)).components

theorem componentsOf_eq (t : List Char) : componentsOf t
    = if t.head? = some '/' then .root :: (Text.splitOn '/' t).filterMap component?
      else relativeComponents (Text.splitOn '/' t) := by
  unfold componentsOf components isAbsolute
  rw [String.toList_ofList]
  by_cases h : t.head? = some '/' <;> simp [h]

/-- **What follows a separator adds its components.** -/
theorem componentsOf_append (t more : List Char) :
    componentsOf (t ++ '/' :: more)
      = componentsOf (t ++ ['/']) ++ (Text.splitOn '/' more).filterMap component? := by
  have hhead : (t ++ '/' :: more).head? = (t ++ ['/']).head? := by cases t <;> rfl
  have hvoid : (Text.splitOn '/' []).filterMap component? = [] := rfl
  have hpieces := Text.splitOn_ne_nil '/' t
  rw [componentsOf_eq, componentsOf_eq, hhead, Text.splitOn_append_sep, Text.splitOn_append_sep,
    List.filterMap_append, List.filterMap_append, relativeComponents_append hpieces,
    relativeComponents_append hpieces, hvoid]
  split
  · rw [List.append_nil, List.cons_append]
  · rw [List.append_nil]

/-- A separator at the end of a text adds nothing. -/
theorem componentsOf_separator {t : List Char} (h : t ≠ []) :
    componentsOf (t ++ ['/']) = componentsOf t := by
  have hhead : (t ++ ['/']).head? = t.head? := List.head?_append_of_ne_nil t h
  have hvoid : (Text.splitOn '/' []).filterMap component? = [] := rfl
  rw [componentsOf_eq, componentsOf_eq, hhead, Text.splitOn_append_sep, List.filterMap_append,
    relativeComponents_append (Text.splitOn_ne_nil '/' t), hvoid, List.append_nil, List.append_nil]

/-- **An entry of a directory is one component below it**, however the directory is spelled. -/
theorem components_join_inner (d : Path) {c : Component} (h : c.IsInner) :
    (d.join c.text).components = d.components ++ [c] := by
  obtain ⟨hseparator, hdot, hcomponent⟩ := component?_text h
  have hpiece : (Text.splitOn '/' c.text.toList).filterMap component? = [c] := by
    rw [Text.splitOn_of_not_mem hseparator, List.filterMap_cons_some hcomponent, List.filterMap_nil]
  have hhead : c.text.toList.head? ≠ some '/' := fun heq => hseparator (List.mem_of_mem_head? heq)
  have hof : ∀ text : String, (Path.mk text).components = componentsOf text.toList := fun text => by
    rw [componentsOf, String.ofList_toList]
  obtain ⟨text⟩ := d
  unfold join
  rw [if_neg hhead]
  dsimp only
  rw [hof text]
  split
  · -- the empty path has no components, and what is joined to it stands alone
    rename_i hlast
    have hdots : c.text.toList ≠ ".".toList := fun heq => hdot (String.toList_inj.mp heq)
    rw [hof c.text, List.getLast?_eq_none_iff.mp hlast, componentsOf_eq, if_neg hhead,
      Text.splitOn_of_not_mem hseparator, relativeComponents_cons hdots]
    rw [Text.splitOn_of_not_mem hseparator] at hpiece
    exact hpiece
  · rename_i hlast
    obtain ⟨t, ht⟩ := List.getLast?_eq_some_iff.mp hlast
    rw [hof, String.toList_append, ht, List.append_assoc, List.singleton_append,
      componentsOf_append, hpiece]
  · rename_i slash hslash hlast
    have hne : text.toList ≠ [] := fun heq => by rw [heq] at hlast; cases hlast
    have hsingle : ("/" : String).toList = ['/'] := rfl
    rw [hof, String.toList_append, String.toList_append, hsingle, List.append_assoc,
      List.singleton_append, componentsOf_append, componentsOf_separator hne, hpiece]

theorem components_join (d : Path) {name : String} (h : IsEntryName name) :
    (d.join name).components = d.components ++ [.name name] :=
  components_join_inner d (c := .name name) h

/-- A piece that is not empty, and no dot, stands for a component, which it is the text of. -/
theorem component?_inner {piece : List Char} (h : '/' ∉ piece) {c : Component}
    (hc : component? piece = some c) : c.IsInner := by
  unfold component? at hc
  split at hc
  · cases hc
  · cases hc
  · cases hc
    trivial
  · rename_i hempty hdot hdots
    cases hc
    refine ⟨by rwa [String.toList_ofList], fun hin => ?_⟩
    simp only [List.mem_cons, List.not_mem_nil, or_false, ← String.toList_inj,
      String.toList_ofList] at hin
    rcases hin with heq | heq | heq
    · exact hempty heq
    · exact hdot heq
    · exact hdots heq

/-- **The components of a path**: one that a path can only start with, if any, and then any others. -/
theorem components_cases (p : Path) :
    ∃ start inner, p.components = start ++ inner ∧ start ∈ [[], [.root], [.here]]
      ∧ ∀ c ∈ inner, c.IsInner := by
  have hinner : ∀ pieces : List (List Char), (∀ piece ∈ pieces, '/' ∉ piece) →
      ∀ c ∈ pieces.filterMap component?, c.IsInner := by
    intro pieces hpieces c hc
    obtain ⟨piece, hpiece, hsome⟩ := List.mem_filterMap.mp hc
    exact component?_inner (hpieces piece hpiece) hsome
  have hpieces : ∀ piece ∈ Text.splitOn '/' p.text.toList, '/' ∉ piece := fun piece hpiece =>
    Text.not_mem_of_mem_splitOn hpiece
  unfold components
  split
  · exact ⟨[.root], _, rfl, by simp, hinner _ hpieces⟩
  · unfold relativeComponents
    split
    · rename_i pieces heq
      rw [heq] at hpieces
      exact ⟨[.here], _, rfl, by simp,
        hinner _ fun piece hpiece => hpieces piece (List.mem_cons_of_mem _ hpiece)⟩
    · exact ⟨[], _, rfl, by simp, hinner _ hpieces⟩

/-- Only the empty path has no components. -/
theorem eq_empty_of_components {p : Path} (h : p.components = []) : p = ⟨""⟩ := by
  obtain ⟨text⟩ := p
  rw [components] at h
  split at h
  · cases h
  · rename_i hrelative
    cases htext : text.toList with
    | nil => rw [String.toList_eq_nil_iff.mp htext]
    | cons x t =>
      exfalso
      have hx : x ≠ '/' := fun heq => hrelative (by simp [isAbsolute, htext, heq])
      obtain ⟨piece, more, hsplit⟩ :
          ∃ piece more, Text.splitOn '/' (x :: t) = (x :: piece) :: more := by
        rw [Text.splitOn, if_neg hx]
        split
        · exact ⟨[], [], rfl⟩
        · exact ⟨_, _, rfl⟩
      rw [htext, hsplit] at h
      by_cases hdot : x :: piece = ['.']
      · rw [hdot] at h
        cases h
      · rw [relativeComponents_cons hdot, List.filterMap_eq_nil_iff] at h
        have hnone := h _ List.mem_cons_self
        unfold component? at hnone
        split at hnone
        · rename_i heq
          cases heq
        · rename_i heq
          exact hdot heq
        · cases hnone
        · cases hnone

/-- **What is one component below a directory is an entry of it**, when it is on the way to a
    path. -/
theorem components_join_below {d p : Path} {c : Component}
    (h : d.components ++ [c] <+: p.components) :
    (d.join c.text).components = d.components ++ [c] := by
  obtain ⟨rest, hrest⟩ := h
  obtain ⟨start, inner, hp, hstart, hinner⟩ := p.components_cases
  rw [hp, List.append_assoc, List.singleton_append] at hrest
  simp only [List.mem_cons, List.not_mem_nil, or_false] at hstart
  cases hd : d.components with
  | nil =>
    obtain rfl := eq_empty_of_components hd
    rw [hd, List.nil_append] at hrest
    rcases hstart with rfl | rfl | rfl
    · have hall : c :: rest = inner := hrest
      exact components_join_inner _ (hinner c (hall ▸ List.mem_cons_self))
    · obtain rfl := (List.cons.inj hrest).1
      rfl
    · obtain rfl := (List.cons.inj hrest).1
      rfl
  | cons first others =>
    rw [hd, List.cons_append] at hrest
    have hc : c ∈ others ++ c :: rest := List.mem_append_right _ List.mem_cons_self
    rw [← hd]
    refine components_join_inner d (hinner c ?_)
    rcases hstart with rfl | rfl | rfl
    · have hall : first :: (others ++ c :: rest) = inner := hrest
      exact hall ▸ List.mem_cons_of_mem _ hc
    · have hall : others ++ c :: rest = inner := (List.cons.inj hrest).2
      exact hall ▸ hc
    · have hall : others ++ c :: rest = inner := (List.cons.inj hrest).2
      exact hall ▸ hc

end Path

/-! ## 2. The order of components -/

namespace Component

/-- The name, when it is one. -/
def nameText : Component → String
  | .name s => s
  | _ => ""

theorem before_iff {a b : Component} : a.before b = true
    ↔ a.rank < b.rank ∨ a.rank = b.rank ∧ a.nameText < b.nameText := by
  cases a <;> cases b <;> simp [before, rank, nameText]

theorem before_trans {a b c : Component} (hab : a.before b = true) (hbc : b.before c = true) :
    a.before c = true := by
  rw [before_iff] at *
  rcases hab with hab | ⟨hab, hab'⟩ <;> rcases hbc with hbc | ⟨hbc, hbc'⟩
  · left; omega
  · left; omega
  · left; omega
  · exact Or.inr ⟨hab.trans hbc, String.lt_trans hab' hbc'⟩

theorem ext_rank {a b : Component} (hrank : a.rank = b.rank) (hname : a.nameText = b.nameText) :
    a = b := by
  cases a <;> cases b <;> simp_all [rank, nameText]

theorem before_total {a b : Component} (hne : a ≠ b) (h : a.before b = false) :
    b.before a = true := by
  rw [Bool.eq_false_iff, ne_eq, before_iff, not_or] at h
  rw [before_iff]
  by_cases hrank : b.rank < a.rank
  · exact Or.inl hrank
  · have hsame : a.rank = b.rank := by omega
    have hle : b.nameText ≤ a.nameText := String.not_lt.mp fun hlt => h.2 ⟨hsame, hlt⟩
    exact Or.inr ⟨hsame.symm, Std.lt_of_le_of_ne hle fun heq => hne (ext_rank hsame heq.symm)⟩

theorem not_before_self (a : Component) : a.before a = false := by
  cases a <;> simp [before, rank]

end Component

namespace Place

theorem below?_eq_some_iff {a p r : Place} : below? a p = some r ↔ p = a ++ r := by
  induction a generalizing p with
  | nil => simp [below?, eq_comm]
  | cons x a ih =>
    cases p with
    | nil => simp [below?]
    | cons y p =>
      by_cases h : x = y
      · simp [below?, h, ih]
      · simp [below?, h, Ne.symm h]

end Place

/-! ## 3. Entries in order -/

theorem Assoc.mem_keys_set {K V : Type} [DecidableEq K] {key other : K} {value : V}
    {l : List (K × V)} : other ∈ keys (set key value l) ↔ other = key ∨ other ∈ keys l := by
  unfold keys set erase
  rw [List.map_cons, List.mem_cons]
  by_cases h : other = key
  · simp [h]
  · simp only [h, false_or, List.mem_map, List.mem_filter, decide_eq_true_eq]
    constructor
    · rintro ⟨e, ⟨he, -⟩, rfl⟩
      exact ⟨e, he, rfl⟩
    · rintro ⟨e, he, rfl⟩
      exact ⟨e, ⟨he, h⟩, rfl⟩

namespace Scripted

variable {c : Component} {l : List Component}

theorem mem_insertComponent {x : Component} : x ∈ insertComponent c l ↔ x = c ∨ x ∈ l := by
  induction l with
  | nil => simp [insertComponent]
  | cons y l ih =>
    unfold insertComponent
    split
    · rename_i heq
      subst heq
      simp
    · split
      · simp
      · rw [List.mem_cons, ih, List.mem_cons]
        exact or_left_comm

theorem insertComponent_pairwise (h : l.Pairwise fun a b => a.before b = true) :
    (insertComponent c l).Pairwise fun a b => a.before b = true := by
  induction l with
  | nil => simp [insertComponent]
  | cons x l ih =>
    obtain ⟨hx, hl⟩ := List.pairwise_cons.mp h
    unfold insertComponent
    split
    · exact h
    · rename_i hne
      split
      · rename_i hbefore
        refine List.pairwise_cons.mpr ⟨fun y hy => ?_, h⟩
        rcases List.mem_cons.mp hy with rfl | hy
        · exact hbefore
        · exact Component.before_trans hbefore (hx y hy)
      · rename_i hafter
        refine List.pairwise_cons.mpr ⟨fun y hy => ?_, ih hl⟩
        rcases mem_insertComponent.mp hy with rfl | hy
        · exact Component.before_total hne (Bool.eq_false_iff.mpr hafter)
        · exact hx y hy

/-- **The entries of a directory are in order, each of them once.** -/
theorem children_pairwise (h : Scripted) (p : Place) :
    (h.children p).Pairwise fun a b => a.before b = true := by
  unfold children
  induction h.places.filterMap fun q => (Place.below? p q).bind List.head? with
  | nil => exact .nil
  | cons c l ih => exact insertComponent_pairwise ih

theorem children_nodup (h : Scripted) (p : Place) : (h.children p).Nodup :=
  (h.children_pairwise p).imp fun {a b} hbefore heq => by
    rw [heq, Component.not_before_self] at hbefore
    cases hbefore

/-- **A directory has an entry for each place below it.** -/
theorem mem_children {h : Scripted} {p : Place} :
    c ∈ h.children p ↔ ∃ q ∈ h.places, p ++ [c] <+: q := by
  have hfold : ∀ l : List Component, c ∈ l.foldr insertComponent [] ↔ c ∈ l := by
    intro l
    induction l with
    | nil => rfl
    | cons x l ih => rw [List.foldr_cons, mem_insertComponent, ih, List.mem_cons]
  rw [children, hfold, List.mem_filterMap]
  refine exists_congr fun q => and_congr_right fun _ => ?_
  constructor
  · intro hq
    obtain ⟨r, hr, hc⟩ := Option.bind_eq_some_iff.mp hq
    obtain ⟨r, rfl⟩ := List.head?_eq_some_iff.mp hc
    exact ⟨r, by rw [Place.below?_eq_some_iff.mp hr, List.append_assoc, List.singleton_append]⟩
  · intro hq
    obtain ⟨r, rfl⟩ := hq
    refine Option.bind_eq_some_iff.mpr ⟨c :: r, Place.below?_eq_some_iff.mpr ?_, rfl⟩
    rw [List.append_assoc, List.singleton_append]

theorem presentAt_iff {h : Scripted} {p : Place} : h.presentAt p = true ↔ ∃ q ∈ h.places, p <+: q := by
  unfold presentAt
  rw [List.any_eq_true]
  simp only [List.isPrefixOf_iff_prefix]

end Scripted

end HostAgent
