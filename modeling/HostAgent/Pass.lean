import HostAgent.Error

/-!
# Passes

A pass is work on a state that ends in a value or in an error; what it did to the state stays done
either way. This file fixes the type and its combinators.

* `bind_apply` -- a pass goes on exactly when the one before it ended in a value;
* `tried_apply` -- `tried` never ends in an error;
* `within_apply` -- `within` changes the error alone.
-/

namespace HostAgent

/-- Work on a state. -/
def Pass (S : Type) (α : Type) : Type := S → Except Error α × S

namespace Pass

variable {S α β : Type}

/-! ## 1. The monad -/

/-- The pass that ends in a value at once. -/
def done (a : α) : Pass S α := fun s => (.ok a, s)

/-- One pass after another. -/
def andThen (p : Pass S α) (f : α → Pass S β) : Pass S β := fun s =>
  match p s with
  | (.ok a, s') => f a s'
  | (.error e, s') => (.error e, s')

instance : Monad (Pass S) where
  pure := done
  bind := andThen

theorem pure_apply (a : α) (s : S) : (pure a : Pass S α) s = (.ok a, s) := rfl

theorem bind_apply (p : Pass S α) (f : α → Pass S β) (s : S) :
    (p >>= f) s = match p s with
      | (.ok a, s') => f a s'
      | (.error e, s') => (.error e, s') := rfl

theorem bind_ok {p : Pass S α} {f : α → Pass S β} {s s' : S} {a : α} (h : p s = (.ok a, s')) :
    (p >>= f) s = f a s' := by
  rw [bind_apply, h]

theorem bind_error {p : Pass S α} {f : α → Pass S β} {s s' : S} {e : Error}
    (h : p s = (.error e, s')) : (p >>= f) s = (.error e, s') := by
  rw [bind_apply, h]

instance : LawfulMonad (Pass S) := by
  refine LawfulMonad.mk' (Pass S) ?_ ?_ ?_
  · intro α p
    funext s
    change (p >>= fun a => pure a) s = p s
    rw [bind_apply]
    rcases p s with ⟨_ | _, _⟩ <;> rfl
  · exact fun _ _ => rfl
  · intro α β γ p f g
    funext s
    simp only [bind_apply]
    rcases p s with ⟨_ | _, _⟩ <;> rfl

/-! ## 2. Combinators -/

/-- The pass that ends in an error at once. -/
def fail (e : Error) : Pass S α := fun s => (.error e, s)

/-- The pass that ends as a result says. -/
def ofResult (r : Except Error α) : Pass S α := fun s => (r, s)

/-- What the state says. -/
def look (f : S → α) : Pass S α := fun s => (.ok (f s), s)

/-- A change of the state. -/
def change (f : S → S) : Pass S Unit := fun s => (.ok (), f s)

/-- How a pass ends, as a value. -/
def tried (p : Pass S α) : Pass S (Except Error α) := fun s => (.ok (p s).1, (p s).2)

/-- A pass whose outcome nobody waits for. -/
def ignored (p : Pass S α) : Pass S Unit := fun s => (.ok (), (p s).2)

/-- A pass as a step of a larger one, which its error names. -/
def within (step : String) (p : Pass S α) : Pass S α := fun s =>
  match p s with
  | (.ok a, s') => (.ok a, s')
  | (.error e, s') => (.error (.context step e), s')

theorem tried_apply (p : Pass S α) (s : S) : p.tried s = (.ok (p s).1, (p s).2) := rfl

theorem ignored_apply (p : Pass S α) (s : S) : p.ignored s = (.ok (), (p s).2) := rfl

theorem within_apply (step : String) (p : Pass S α) (s : S) :
    p.within step s = ((p s).1.mapError (.context step), (p s).2) := by
  unfold within
  rcases p s with ⟨_ | _, _⟩ <;> rfl

/-- A pass for each member of a list, in order, until one ends in an error. -/
def forEach (l : List α) (f : α → Pass S Unit) : Pass S Unit :=
  match l with
  | [] => pure ()
  | a :: l => do
    f a
    forEach l f

end Pass

end HostAgent
