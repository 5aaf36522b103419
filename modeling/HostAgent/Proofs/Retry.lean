import HostAgent.Retry

/-!
# How often an operation is tried

An operation is called until it succeeds, fails for good, or has been called as often as the policy
allows. Calls and pauses take turns, and the first and the last of them are calls.

* `Trial.record` -- the calls and pauses of one use of a policy;
* `attemptsFrom_call` -- attempts end at the first outcome that ends them, or with the last attempt;
* `countedAttempts` -- the same attempts by a counter of 32 bits; it never leaves its range;
* `retry_uses` -- what one use of a policy does, whatever has happened before.
-/

namespace HostAgent

variable {S α : Type}

/-! ## 1. Outcomes -/

/-- What attempts end in with this outcome, unless another attempt may help. -/
def Attempt.final? : Attempt α → Option (Except Error α)
  | .success a => some (.ok a)
  | .transient _ => none
  | .fatal e => some (.error e)

/-- What attempts end in with this outcome when no attempt is left. -/
def Attempt.last (number : Nat) : Attempt α → Except Error α
  | .success a => .ok a
  | .transient e => .error (.retriesExhausted number e)
  | .fatal e => .error e

theorem Attempt.last_of_final? {a : Attempt α} {r : Except Error α} (h : a.final? = some r)
    (number : Nat) : a.last number = r := by
  cases a with
  | success _ => exact Option.some.inj h
  | transient _ => cases h
  | fatal _ => exact Option.some.inj h

theorem Attempt.final?_eq_none_iff {a : Attempt α} : a.final? = none ↔ ∃ e, a = .transient e := by
  cases a with
  | success _ => exact ⟨nofun, nofun⟩
  | transient e => exact ⟨fun _ => ⟨e, rfl⟩, fun _ => rfl⟩
  | fatal _ => exact ⟨nofun, nofun⟩

/-! ## 2. Trials -/

namespace Trial

/-- The outcome of the call that comes after so many more. -/
def outcome (t : Trial α) (k : Nat) : Attempt α := t.outcomes (t.calls + k)

/-- Calls with a pause between any two of them, so many pauses in all. -/
def record (delayMs : UInt64) : (pauses : Nat) → List RetryEvent
  | 0 => [.call]
  | pauses + 1 => .call :: .pause delayMs :: record delayMs pauses

/-- The trial once more such calls and pauses have happened. -/
def after (t : Trial α) (delayMs : UInt64) (pauses : Nat) : Trial α :=
  { t with events := t.events ++ record delayMs pauses }

/-- The trial after one call and the pause that follows it. -/
def paused (t : Trial α) (delayMs : UInt64) : Trial α := Clock.sleep delayMs (call t).2

theorem call_fst (t : Trial α) : (call t).1 = t.outcome 0 := rfl

theorem events_paused (t : Trial α) (delayMs : UInt64) :
    (t.paused delayMs).events = t.events ++ [.call] ++ [.pause delayMs] := rfl

theorem calls_paused (t : Trial α) (delayMs : UInt64) : (t.paused delayMs).calls = t.calls + 1 := by
  unfold calls
  rw [events_paused]
  simp

theorem pauses_paused (t : Trial α) (delayMs : UInt64) :
    (t.paused delayMs).pauses = t.pauses ++ [delayMs] := by
  unfold pauses
  rw [events_paused]
  simp

theorem outcome_paused (t : Trial α) (delayMs : UInt64) (k : Nat) :
    (t.paused delayMs).outcome k = t.outcome (k + 1) := by
  show t.outcomes ((t.paused delayMs).calls + k) = t.outcomes (t.calls + (k + 1))
  rw [calls_paused, Nat.add_assoc, Nat.add_comm 1 k]

theorem after_paused (t : Trial α) (delayMs : UInt64) (k : Nat) :
    (t.paused delayMs).after delayMs k = t.after delayMs (k + 1) := by
  unfold after
  rw [events_paused, record, List.append_assoc, List.append_assoc]
  rfl

theorem calls_after (t : Trial α) (delayMs : UInt64) (k : Nat) :
    (t.after delayMs k).calls = t.calls + (k + 1) := by
  induction k generalizing t with
  | zero =>
    unfold calls after
    rw [record, List.count_append]
    rfl
  | succ k ih => rw [← after_paused, ih, calls_paused, Nat.add_assoc, Nat.add_comm 1 (k + 1)]

theorem pauses_after (t : Trial α) (delayMs : UInt64) (k : Nat) :
    (t.after delayMs k).pauses = t.pauses ++ List.replicate k delayMs := by
  induction k generalizing t with
  | zero =>
    unfold pauses after
    rw [record, List.filterMap_append]
    rfl
  | succ k ih =>
    rw [← after_paused, ih, pauses_paused, List.append_assoc, List.replicate_succ]
    rfl

end Trial

/-! ## 3. Attempts -/

/-- An attempt that is the last one allowed. -/
theorem attemptsFrom_zero [Clock S] (delayMs : UInt64) (operation : S → Attempt α × S)
    (number : Nat) (s : S) : attemptsFrom delayMs operation number 0 s
      = ((operation s).1.last number, (operation s).2) := by
  rcases h : operation s with ⟨_ | _ | _, _⟩ <;> simp [attemptsFrom, h, Attempt.last]

/-- An attempt that is not the last one allowed: if another one may help, there is a pause and the
    next attempt. -/
theorem attemptsFrom_succ [Clock S] (delayMs : UInt64) (operation : S → Attempt α × S)
    (number left : Nat) (s : S) : attemptsFrom delayMs operation number (left + 1) s
      = match (operation s).1.final? with
        | some r => (r, (operation s).2)
        | none => attemptsFrom delayMs operation (number + 1) left
            (Clock.sleep delayMs (operation s).2) := by
  rcases h : operation s with ⟨_ | _ | _, _⟩ <;> simp [attemptsFrom, h, Attempt.final?]

/-- **Attempts go on while outcomes are transient**, up to the first outcome that is not, or to the
    last attempt. -/
theorem attemptsFrom_call (delayMs : UInt64) (number : Nat) {left k : Nat} {t : Trial α}
    (hbefore : ∀ j < k, (t.outcome j).final? = none) (hk : k ≤ left)
    (hend : (t.outcome k).final? ≠ none ∨ k = left) :
    attemptsFrom delayMs Trial.call number left t
      = ((t.outcome k).last (number + k), t.after delayMs k) := by
  induction left generalizing number k t with
  | zero =>
    obtain rfl : k = 0 := Nat.le_zero.mp hk
    exact attemptsFrom_zero delayMs Trial.call number t
  | succ left ih =>
    rw [attemptsFrom_succ, Trial.call_fst]
    cases k with
    | zero =>
      cases hfinal : (t.outcome 0).final? with
      | none => exact absurd hfinal (hend.resolve_right (Nat.succ_ne_zero left).symm)
      | some r =>
        rw [Nat.add_zero, Attempt.last_of_final? hfinal]
        rfl
    | succ k =>
      rw [hbefore 0 (Nat.succ_pos k)]
      -- the remaining attempts are those of the trial after this call and its pause
      have hrest := ih (number + 1) (k := k) (t := t.paused delayMs)
        (fun j hj => by
          rw [Trial.outcome_paused]
          exact hbefore (j + 1) (Nat.succ_lt_succ hj))
        (Nat.le_of_succ_le_succ hk)
        (by
          rw [Trial.outcome_paused]
          exact hend.imp_right Nat.succ.inj)
      rw [Trial.outcome_paused, Trial.after_paused, Nat.add_assoc, Nat.add_comm 1 k] at hrest
      exact hrest

/-! ## 4. The counter -/

/-- The number of the next attempt as a word of 32 bits; nothing, when there is no such word. -/
def nextCount? (attempt : UInt32) : Option UInt32 :=
  if attempt.toNat + 1 < UInt32.size then some (attempt + 1) else none

theorem toNat_nextCount? {attempt next : UInt32} (h : nextCount? attempt = some next) :
    next.toNat = attempt.toNat + 1 := by
  unfold nextCount? at h
  split at h
  · rename_i hlt
    cases h
    rw [UInt32.toNat_add]
    exact Nat.mod_eq_of_lt hlt
  · cases h

/-- Attempts counted by a word of 32 bits, which is compared with the greatest number of attempts
    after each that failed for the moment. There is no outcome once the count leaves its range. -/
def countedAttempts [Clock S] (maxAttempts : UInt32) (delayMs : UInt64)
    (operation : S → Attempt α × S) (attempt : UInt32) (s : S) : Option (Except Error α × S) :=
  match operation s with
  | (.success a, s) => some (.ok a, s)
  | (.fatal e, s) => some (.error e, s)
  | (.transient e, s) =>
    if maxAttempts ≤ attempt then some (.error (.retriesExhausted attempt.toNat e), s)
    else
      match h : nextCount? attempt with
      | none => none
      | some next =>
        have _hnext : next.toNat = attempt.toNat + 1 := toNat_nextCount? h
        countedAttempts maxAttempts delayMs operation next (Clock.sleep delayMs s)
termination_by UInt32.size - attempt.toNat
decreasing_by
  have hlt : attempt.toNat < UInt32.size := attempt.toNat_lt
  omega

/-- An operation under a policy, with its attempts counted by a word. -/
def countedRetry [Clock S] (policy : RetryPolicy) (operation : S → Attempt α × S) (s : S) :
    Option (Except Error α × S) :=
  countedAttempts (max 1 policy.maxAttempts) policy.delayMs operation 1 s

/-- The counter stays in its range while it is at most the greatest number of attempts. -/
theorem countedAttempts_eq [Clock S] {maxAttempts attempt : UInt32} (delayMs : UInt64)
    (operation : S → Attempt α × S) {left : Nat}
    (hleft : attempt.toNat + left = maxAttempts.toNat) (s : S) :
    countedAttempts maxAttempts delayMs operation attempt s
      = some (attemptsFrom delayMs operation attempt.toNat left s) := by
  induction left generalizing attempt s with
  | zero =>
    have hlast : maxAttempts ≤ attempt := UInt32.le_iff_toNat_le.mpr (by omega)
    rw [countedAttempts, attemptsFrom_zero]
    rcases operation s with ⟨_ | _ | _, _⟩
    · rfl
    · simp only [if_pos hlast]
      rfl
    · rfl
  | succ left ih =>
    have hmore : ¬ maxAttempts ≤ attempt := fun hle => by
      have := UInt32.le_iff_toNat_le.mp hle
      omega
    have hlt : maxAttempts.toNat < UInt32.size := maxAttempts.toNat_lt
    have hnext : nextCount? attempt = some (attempt + 1) := if_pos (by omega)
    have hcount := toNat_nextCount? hnext
    rw [countedAttempts, attemptsFrom_succ]
    rcases operation s with ⟨_ | _ | _, t⟩
    · rfl
    · simp only [if_neg hmore]
      split
      · rename_i hnone
        rw [hnext] at hnone
        cases hnone
      · rename_i next hsome
        rw [hnext] at hsome
        cases hsome
        rw [ih (by omega), hcount]
        rfl
    · rfl

/-- **The counter never leaves its range**, so the attempts are those of the policy. -/
theorem countedRetry_eq [Clock S] (policy : RetryPolicy) (operation : S → Attempt α × S) (s : S) :
    countedRetry policy operation s = some (retry policy operation s) := by
  have hlimit : (max 1 policy.maxAttempts).toNat = policy.limit := by
    have hmax : max 1 policy.maxAttempts
        = if 1 ≤ policy.maxAttempts then policy.maxAttempts else 1 := rfl
    unfold RetryPolicy.limit
    rw [hmax]
    split
    · rename_i hle
      exact (Nat.max_eq_right (UInt32.le_iff_toNat_le.mp hle)).symm
    · rename_i hnot
      have hzero : policy.maxAttempts.toNat < 1 :=
        Nat.not_le.mp fun hle => hnot (UInt32.le_iff_toNat_le.mpr hle)
      exact (Nat.max_eq_left (Nat.le_of_lt hzero)).symm
  have hone : 1 ≤ policy.limit := Nat.le_max_left _ _
  exact countedAttempts_eq policy.delayMs operation
    (by rw [hlimit]; exact Nat.add_sub_cancel' hone) s

/-! ## 5. One use of a policy -/

/-- **What one use of a policy does**, whatever has happened before it. If an outcome that ends the
    attempts is among the first ones that the policy allows, they end with the first such outcome,
    in its value or its own error. Otherwise they end with the last call that the policy allows, in
    the number of attempts and the error of that call. Before each further call there is one pause
    of the delay, and none after the last one. The counter of the attempts stays in its range. -/
theorem retry_uses (policy : RetryPolicy) (t : Trial α) :
    (∀ k r, k < policy.limit → (∀ j < k, (t.outcome j).final? = none) →
        (t.outcome k).final? = some r →
        retry policy Trial.call t = (r, t.after policy.delayMs k))
      ∧ ((∀ k < policy.limit, (t.outcome k).final? = none) →
        ∃ e, t.outcome (policy.limit - 1) = .transient e
          ∧ retry policy Trial.call t = (.error (.retriesExhausted policy.limit e),
            t.after policy.delayMs (policy.limit - 1)))
      ∧ (∀ k, (t.after policy.delayMs k).events = t.events ++ Trial.record policy.delayMs k
        ∧ (t.after policy.delayMs k).calls = t.calls + (k + 1)
        ∧ (t.after policy.delayMs k).pauses = t.pauses ++ List.replicate k policy.delayMs)
      ∧ countedRetry policy Trial.call t = some (retry policy Trial.call t) := by
  have hone : 1 ≤ policy.limit := Nat.le_max_left _ _
  refine ⟨fun k r hk hbefore hfinal => ?_, fun hnone => ?_, fun k => ?_, countedRetry_eq _ _ _⟩
  · have hend : (t.outcome k).final? ≠ none := by
      rw [hfinal]
      nofun
    unfold retry
    rw [attemptsFrom_call policy.delayMs 1 hbefore (by omega) (Or.inl hend),
      Attempt.last_of_final? hfinal]
  · obtain ⟨e, he⟩ := Attempt.final?_eq_none_iff.mp (hnone (policy.limit - 1) (by omega))
    have hnumber : 1 + (policy.limit - 1) = policy.limit := Nat.add_sub_cancel' hone
    refine ⟨e, he, ?_⟩
    unfold retry
    rw [attemptsFrom_call policy.delayMs 1 (fun j hj => hnone j (by omega)) (Nat.le_refl _)
      (Or.inr rfl), he, hnumber]
    rfl
  · exact ⟨rfl, Trial.calls_after t policy.delayMs k, Trial.pauses_after t policy.delayMs k⟩

/-- An operation that is busy whenever it is called, except for its second call. -/
def busyTrial : Trial Nat :=
  { outcomes := fun i => if i = 1 then .success 7 else .transient (.parse "busy") }

/-- Three attempts are allowed. The first use succeeds with the second call; another use starts from
    the first of its own attempts and makes all three. -/
theorem retry_uses_twice :
    let policy : RetryPolicy := ⟨3, 1000⟩
    let used := busyTrial.after 1000 1
    (1 < policy.limit ∧ (∀ j < 1, (busyTrial.outcome j).final? = none)
        ∧ (busyTrial.outcome 1).final? = some (.ok 7)
        ∧ retry policy Trial.call busyTrial = (.ok 7, used))
      ∧ (∀ k < policy.limit, (used.outcome k).final? = none)
      ∧ retry policy Trial.call used
        = (.error (.retriesExhausted 3 (.parse "busy")), used.after 1000 2)
      ∧ (used.after 1000 2).events = [.call, .pause 1000, .call, .call, .pause 1000, .call,
        .pause 1000, .call] := by
  intro policy used
  have hbefore : ∀ j < 1, (busyTrial.outcome j).final? = none := by
    intro j hj
    obtain rfl : j = 0 := Nat.lt_one_iff.mp hj
    rfl
  have hbusy : ∀ k < policy.limit, (used.outcome k).final? = none := by
    intro k _
    have hne : used.calls + k ≠ 1 := by
      rw [show used.calls = 2 from rfl]
      omega
    show (Attempt.final? (if used.calls + k = 1 then _ else _)) = none
    rw [if_neg hne]
    rfl
  refine ⟨⟨by decide, hbefore, rfl,
    (retry_uses policy busyTrial).1 1 (.ok 7) (by decide) hbefore rfl⟩, hbusy, ?_, rfl⟩
  obtain ⟨e, he, hrun⟩ := (retry_uses policy used).2.1 hbusy
  obtain rfl : e = .parse "busy" := (Attempt.transient.inj he).symm
  exact hrun

end HostAgent
