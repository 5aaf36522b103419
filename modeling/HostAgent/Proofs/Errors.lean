import HostAgent.Proofs.Logged

/-!
# Which errors there can be

`Errors P r`: if the result is an error, then one with the property `P`; `p.Errors P`: however the
pass ends, its result is so. There is one rule per way in which results and passes are put together.

* `bind_eq_ok`, `foldlM_keeps`, `foldlM_congr` -- results one after another;
* `mapM_eq_ok_iff` -- a list of results is a result for each member;
* `Pass.Errors.bind`, `Pass.Errors.within` -- the rules for passes;
* `Error.inOrder` -- the error is not about phases that were entered out of order;
* `Orderly` -- no request to the host ends in such an error, as on a scripted host.
-/

namespace HostAgent

variable {P Q : Error → Prop} {α β : Type}

/-! ## 1. Results -/

/-- The result, if it is an error, is one with the property. -/
def Errors (P : Error → Prop) (r : Except Error α) : Prop := ∀ e, r = .error e → P e

theorem Errors.ok (a : α) : Errors P (.ok a : Except Error α) := fun _ h => by cases h

theorem Errors.error {e : Error} (h : P e) : Errors P (.error e : Except Error α) := fun _ he => by
  cases he
  exact h

theorem Errors.bind {r : Except Error α} {f : α → Except Error β} (hr : Errors P r)
    (hf : ∀ a, Errors P (f a)) : Errors P (r >>= f) := by
  cases r with
  | ok a => exact hf a
  | error e => exact .error (hr e rfl)

theorem Errors.map {r : Except Error α} (hr : Errors P r) (f : α → β) : Errors P (r.map f) := by
  cases r with
  | ok a => exact .ok (f a)
  | error e => exact .error (hr e rfl)

theorem Errors.mapError {r : Except Error α} {f : Error → Error} (hr : Errors P r)
    (hf : ∀ e, P e → Q (f e)) : Errors Q (r.mapError f) := by
  cases r with
  | ok a => exact .ok a
  | error e => exact .error (hf e (hr e rfl))

theorem Errors.mapM {f : α → Except Error β} (hf : ∀ a, Errors P (f a)) (l : List α) :
    Errors P (l.mapM f) := by
  induction l with
  | nil => exact .ok []
  | cons a l ih =>
    rw [List.mapM_cons]
    exact (hf a).bind fun b => ih.bind fun bs => .ok (b :: bs)

theorem Errors.foldlM {f : β → α → Except Error β} (hf : ∀ b a, Errors P (f b a)) (l : List α)
    (b : β) : Errors P (l.foldlM f b) := by
  induction l generalizing b with
  | nil => exact .ok b
  | cons a l ih =>
    rw [List.foldlM_cons]
    exact (hf b a).bind ih

theorem bind_eq_ok {r : Except Error α} {f : α → Except Error β} {b : β}
    (h : r >>= f = .ok b) : ∃ a, r = .ok a ∧ f a = .ok b := by
  cases r with
  | error e => cases h
  | ok a => exact ⟨a, rfl, h⟩

/-- What each step of a fold keeps, the fold keeps. -/
theorem foldlM_keeps {P : β → Prop} {f : β → α → Except Error β}
    (hstep : ∀ b a b', P b → f b a = .ok b' → P b') {l : List α} {b b' : β} (hb : P b)
    (h : l.foldlM f b = .ok b') : P b' := by
  induction l generalizing b with
  | nil => cases h; exact hb
  | cons a l ih =>
    rw [List.foldlM_cons] at h
    obtain ⟨c, hc, h⟩ := bind_eq_ok h
    exact ih (hstep b a c hb hc) h

theorem foldlM_congr {f g : β → α → Except Error β} {l : List α}
    (h : ∀ b, ∀ a ∈ l, f b a = g b a) (b : β) : l.foldlM f b = l.foldlM g b := by
  induction l generalizing b with
  | nil => rfl
  | cons a l ih =>
    have hrest : (fun c => l.foldlM f c) = fun c => l.foldlM g c :=
      funext fun c => ih (fun c a' ha' => h c a' (List.mem_cons_of_mem a ha')) c
    rw [List.foldlM_cons, List.foldlM_cons, h b a List.mem_cons_self]
    exact congrArg (g b a >>= ·) hrest

/-- A list of results is a result for each member. -/
theorem mapM_eq_ok_iff {f : α → Except Error β} {l : List α} {bs : List β} :
    l.mapM f = .ok bs ↔ List.Forall₂ (fun a b => f a = .ok b) l bs := by
  constructor
  · intro h
    induction l generalizing bs with
    | nil =>
      cases h
      exact .nil
    | cons a l ih =>
      rw [List.mapM_cons] at h
      cases ha : f a with
      | error e => rw [ha] at h; cases h
      | ok b =>
        cases hrest : l.mapM f with
        | error e => rw [ha, hrest] at h; cases h
        | ok rest =>
          rw [ha, hrest] at h
          cases h
          exact .cons ha (ih hrest)
  · intro h
    induction h with
    | nil => rfl
    | cons ha _ ih =>
      rw [List.mapM_cons, ha, ih]
      rfl

/-! ## 2. Passes -/

namespace Pass

variable {S : Type}

/-- Every error that the pass may end in has the property. -/
def Errors (P : Error → Prop) (p : Pass S α) : Prop := ∀ s, HostAgent.Errors P (p s).1

theorem Errors.done (a : α) : (pure a : Pass S α).Errors P := fun _ => .ok a

theorem Errors.fail {e : Error} (h : P e) : (Pass.fail e : Pass S α).Errors P := fun _ => .error h

theorem Errors.ofResult {r : Except Error α} (h : HostAgent.Errors P r) :
    (Pass.ofResult r : Pass S α).Errors P := fun _ => h

theorem Errors.look (f : S → α) : (Pass.look f).Errors P := fun s => .ok (f s)

theorem Errors.bind {p : Pass S α} {f : α → Pass S β} (hp : p.Errors P)
    (hf : ∀ a, (f a).Errors P) : (p >>= f).Errors P := by
  intro s
  rcases hps : p s with ⟨r, t⟩
  cases r with
  | ok a =>
    rw [bind_ok hps]
    exact hf a t
  | error e =>
    rw [bind_error hps]
    exact .error (hp s e (by rw [hps]))

theorem Errors.within {p : Pass S α} (step : String) (hp : p.Errors P)
    (hstep : ∀ e, P e → Q (.context step e)) : (p.within step).Errors Q := by
  intro s
  rw [within_apply]
  exact (hp s).mapError hstep

theorem Errors.forEach {f : α → Pass S Unit} (hf : ∀ a, (f a).Errors P) (l : List α) :
    (Pass.forEach l f).Errors P := by
  induction l with
  | nil => exact .done ()
  | cons a l ih => exact (hf a).bind fun _ => ih

/-- What is known of the errors of a pass is known of the error that it ends in. -/
theorem EndsOn.errors {H : Type} [Host H] {view : S → H} {s : S} {p : Pass S α}
    {R : List Event → Except Error α → S → Prop} (h : p.EndsOn view s R) (he : p.Errors P) :
    p.EndsOn view s fun log r t => R log r t ∧ HostAgent.Errors P r := by
  obtain ⟨log, hl, hr⟩ := h
  exact ⟨log, hl, hr, he s⟩

end Pass

/-! ## 3. Errors about phases -/

namespace Error

/-- The error is not about phases that were entered out of order. -/
def inOrder : Error → Bool
  | .invalidTransition _ _ => false
  | .retriesExhausted _ source => source.inOrder
  | .context _ source => source.inOrder
  | _ => true

/-- No failure that such an error wraps is about phases. -/
theorem not_mem_causes_of_inOrder {e : Error} (h : e.inOrder = true) (source target : String) :
    .invalidTransition source target ∉ e.causes := by
  induction e with
  | retriesExhausted attempts e ih =>
    intro hmem
    rcases List.mem_cons.mp hmem with heq | hmem
    · cases heq
    · exact ih h hmem
  | context step e ih =>
    intro hmem
    rcases List.mem_cons.mp hmem with heq | hmem
    · cases heq
    · exact ih h hmem
  | invalidTransition _ _ => cases h
  | _ =>
    intro hmem
    cases List.mem_singleton.mp hmem

end Error

/-- No error of the result is about phases. -/
abbrev InOrder (r : Except Error α) : Prop := Errors (fun e => e.inOrder = true) r

/-- No error that the pass may end in is about phases. -/
abbrev Pass.InOrder {S : Type} (p : Pass S α) : Prop := p.Errors fun e => e.inOrder = true

theorem Pass.InOrder.named {S : Type} {p : Pass S α} (h : p.InOrder) (step : String) :
    (p.within step).InOrder := h.within step fun _ he => he

/-! ## 4. Requests -/

/-- No request to the host ends in an error about phases. -/
class Orderly (H : Type) [Host H] : Prop where
  run : ∀ (c : CommandLine) (h : H), InOrder (Commands.run c h).1
  write : ∀ (path : Path) (contents : Bytes) (h : H), InOrder (Files.write path contents h).1
  link : ∀ (target path : Path) (h : H), InOrder (Files.link target path h).1
  copy : ∀ (source target : Path) (h : H), InOrder (Files.copy source target h).1

theorem Reply.result_inOrder (r : Reply) (command : String) : InOrder (r.result command) := by
  unfold Reply.result
  split
  · exact .error rfl
  · split
    · exact .error rfl
    · exact .ok _

theorem Scripted.writeAt_inOrder (path : Path) (contents : Bytes) (h : Scripted) :
    InOrder (h.writeAt path contents).1 := by
  unfold Scripted.writeAt
  split
  · exact .error rfl
  · exact .ok ()

theorem Scripted.copyAt_inOrder (source target : Path) (h : Scripted) :
    InOrder (h.copyAt source target).1 := by
  unfold Scripted.copyAt
  split
  · exact writeAt_inOrder _ _ _
  · exact .error rfl

instance : Orderly Scripted where
  run _ _ := Reply.result_inOrder _ _
  write path contents h := h.writeAt_inOrder path contents
  link _ _ _ := .ok ()
  copy source target h := h.copyAt_inOrder source target

section

variable {H : Type} [Host H] [Orderly H]

instance : Orderly (Logged H) where
  run c l := Orderly.run c l.host
  write path contents l := Orderly.write path contents l.host
  link target path l := Orderly.link target path l.host
  copy source target l := Orderly.copy source target l.host

instance : Orderly (Agent H) where
  run c a := Orderly.run c a.host
  write path contents a := Orderly.write path contents a.host
  link target path a := Orderly.link target path a.host
  copy source target a := Orderly.copy source target a.host

theorem runCommand_inOrder (name : String) (args : List String) :
    (runCommand name args : Pass H Output).InOrder := Orderly.run _

theorem writeFile_inOrder (path : Path) (contents : Bytes) :
    (writeFile path contents : Pass H Unit).InOrder := Orderly.write path contents

theorem makeLink_inOrder (target link : Path) :
    (makeLink target link : Pass H Unit).InOrder := Orderly.link target link

theorem copyFile_inOrder (source target : Path) :
    (copyFile source target : Pass H Unit).InOrder := Orderly.copy source target

end

/-! ## 5. Files -/

theorem atPath_inOrder (path : Path) (r : Except Fault α) : InOrder (atPath path r) := by
  cases r with
  | ok a => exact .ok a
  | error fault => exact .error rfl

theorem textOf_inOrder (path : Path) (contents : Bytes) : InOrder (textOf path contents) := by
  unfold textOf
  split
  · exact .ok _
  · exact .error rfl

theorem readText_inOrder {S : Type} [Files S] (path : Path) :
    (readText path : Pass S String).InOrder :=
  Pass.Errors.bind (fun _ => atPath_inOrder _ _) fun contents =>
    .ofResult (textOf_inOrder path contents)

theorem convergeFile_inOrder {H : Type} [Host H] [Orderly H] (path : Path) (contents : Bytes)
    (dryRun : Bool) : (convergeFile path contents dryRun : Pass H Bool).InOrder := by
  refine (Pass.Errors.look _).bind fun held => ?_
  split
  · exact .done _
  · split
    · exact .done _
    · exact (writeFile_inOrder path contents).bind fun _ => .done _

end HostAgent
