import HostAgent.Proofs.Ends

/-!
# The log of a retried command

A command that is retried leaves the same command line again and again, with one pause between two
attempts. All attempts but the last one failed, and only the last one that the policy allows may fail
for good.

* `Attempts` -- such a log, with the last answer;
* `retryPass_ends` -- a retried command leaves such a log.
-/

namespace HostAgent

/-- The log of attempts that failed, each with the pause after it. -/
def failures (delayMs : UInt64) (c : CommandLine) (errors : List Error) : List Event :=
  errors.flatMap fun e => [.ran c (.error e), .slept delayMs]

/-- The log of a command under a policy, with its last answer: it is tried again after every failure
    until it succeeds or no attempt is left. -/
def Attempts (policy : RetryPolicy) (c : CommandLine) (log : List Event)
    (answer : Except Error Output) : Prop :=
  ∃ errors, log = failures policy.delayMs c errors ++ [.ran c answer]
    ∧ errors.length < policy.limit
    ∧ ∀ e, answer = .error e → errors.length + 1 = policy.limit

theorem commandsIn_failures (delayMs : UInt64) (c : CommandLine) (errors : List Error) :
    commandsIn (failures delayMs c errors) = List.replicate errors.length c := by
  induction errors with
  | nil => rfl
  | cons e errors ih =>
    rw [failures, List.flatMap_cons, commandsIn_append, ← failures, ih]
    rfl

theorem successesIn_failures (delayMs : UInt64) (c : CommandLine) (errors : List Error) :
    successesIn (failures delayMs c errors) = [] := by
  induction errors with
  | nil => rfl
  | cons e errors ih =>
    rw [failures, List.flatMap_cons, successesIn_append, ← failures, ih]
    rfl

variable {H : Type} [Host H]

/-- The attempts from one of the given number on: there are at most `left` failures before the last
    attempt, and exactly that many when it fails too. -/
theorem attemptsFrom_ends (delayMs : UInt64) (c : CommandLine) (number left : Nat) (s : H) :
    (attemptsFrom delayMs (fun s => (Attempt.ofResult (Commands.run c s).1, (Commands.run c s).2))
        number left : Pass H Output).Ends s fun log r _ =>
      ∃ errors answer, log = failures delayMs c errors ++ [.ran c answer]
        ∧ errors.length ≤ left
        ∧ (∀ e, answer = .error e → errors.length = left)
        ∧ r = answer.mapError (.retriesExhausted (number + left)) := by
  induction left generalizing number s with
  | zero =>
    rcases hc : Commands.run c s with ⟨answer, t⟩
    refine ⟨[.ran c answer], ?_, [], answer, rfl, Nat.le_refl _, fun _ _ => rfl, ?_⟩
    · cases answer <;> simp only [attemptsFrom, hc, Attempt.ofResult] <;> exact .single hc
    · cases answer <;> simp only [attemptsFrom, hc, Attempt.ofResult] <;> rfl
  | succ left ih =>
    rcases hc : Commands.run c s with ⟨answer, t⟩
    cases answer with
    | ok output =>
      refine ⟨[.ran c (.ok output)], ?_, [], .ok output, rfl, Nat.zero_le _, fun e he => ?_, ?_⟩
      · simp only [attemptsFrom, hc, Attempt.ofResult]
        exact .single hc
      · cases he
      · simp only [attemptsFrom, hc, Attempt.ofResult]
        rfl
    | error e =>
      -- one more failure and its pause stand before the log of the remaining attempts
      obtain ⟨log, hl, errors, answer, rfl, hlen, hlast, hr⟩ := ih (number + 1) (Clock.sleep delayMs t)
      have hn : number + (left + 1) = number + 1 + left := by omega
      refine ⟨.ran c (.error e) :: .slept delayMs :: (failures delayMs c errors ++ [.ran c answer]),
        ?_, e :: errors, answer, rfl, Nat.succ_le_succ hlen, fun e' he' => ?_, ?_⟩
      · simp only [attemptsFrom, hc, Attempt.ofResult]
        exact .cons hc (.cons rfl hl)
      · rw [List.length_cons, hlast e' he']
      · simp only [attemptsFrom, hc, Attempt.ofResult]
        rw [hn]
        exact hr

/-- **A retried command leaves the log of its attempts**, and ends as the last one does. -/
theorem retryPass_ends (policy : RetryPolicy) (name : String) (args : List String) (s : H) :
    (retryPass policy (runCommand name args)).Ends s fun log r _ =>
      ∃ answer, Attempts policy ⟨name, args⟩ log answer
        ∧ r = answer.mapError (.retriesExhausted policy.limit) := by
  have hlimit : 1 ≤ policy.limit := Nat.le_max_left _ _
  refine (attemptsFrom_ends policy.delayMs ⟨name, args⟩ 1 (policy.limit - 1) s).mono ?_
  intro log r t h
  obtain ⟨errors, answer, rfl, hlen, hlast, hr⟩ := h
  have hn : 1 + (policy.limit - 1) = policy.limit := by omega
  rw [hn] at hr
  refine ⟨answer, ⟨errors, rfl, by omega, fun e he => ?_⟩, hr⟩
  have := hlast e he
  omega

end HostAgent
