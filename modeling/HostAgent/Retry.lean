import HostAgent.Host

/-!
# Bounded retry

An operation that may fail for the moment is tried again, up to a number of times and with a pause
between two attempts. What is retried must be safe to do more than once.

* `retry` -- the operation under a policy;
* `Trial` -- a record of calls and pauses, to say what a policy does.
-/

namespace HostAgent

/-! ## 1. Policies -/

/-- How often to try, and how long to wait between two attempts. -/
structure RetryPolicy where
  maxAttempts : UInt32 := 20
  delayMs : UInt64 := 3000
  deriving DecidableEq, Repr, Inhabited

/-- The number of attempts: at least one. -/
def RetryPolicy.limit (p : RetryPolicy) : Nat := max 1 p.maxAttempts.toNat

/-- How one attempt ends. -/
inductive Attempt (α : Type) where
  | success (a : α)
  /-- another attempt may help -/
  | transient (e : Error)
  /-- no other attempt will help -/
  | fatal (e : Error)
  deriving Repr

/-- Every error of a pass may pass. -/
def Attempt.ofResult {α : Type} : Except Error α → Attempt α
  | .ok a => .success a
  | .error e => .transient e

variable {S α : Type}

/-- The attempts from one of the given number on, with `left` more after it. -/
def attemptsFrom [Clock S] (delayMs : UInt64) (operation : S → Attempt α × S) (number : Nat) :
    (left : Nat) → Pass S α
  | 0 => fun s =>
    match operation s with
    | (.success a, s) => (.ok a, s)
    | (.fatal e, s) => (.error e, s)
    | (.transient e, s) => (.error (.retriesExhausted number e), s)
  | left + 1 => fun s =>
    match operation s with
    | (.success a, s) => (.ok a, s)
    | (.fatal e, s) => (.error e, s)
    | (.transient _, s) =>
      attemptsFrom delayMs operation (number + 1) left (Clock.sleep delayMs s)

/-- An operation under a policy: its value, or its fatal error, or the last of its transient errors
    with the number of attempts. -/
def retry [Clock S] (policy : RetryPolicy) (operation : S → Attempt α × S) : Pass S α :=
  attemptsFrom policy.delayMs operation 1 (policy.limit - 1)

/-- A pass under a policy, all of whose errors may pass. -/
def retryPass [Clock S] (policy : RetryPolicy) (p : Pass S α) : Pass S α :=
  retry policy fun s => (Attempt.ofResult (p s).1, (p s).2)

/-! ## 2. Trials -/

/-- What happens during retries. -/
inductive RetryEvent where
  | call
  | pause (milliseconds : UInt64)
  deriving DecidableEq, Repr

/-- An operation whose outcomes are known beforehand, and what has happened so far. -/
structure Trial (α : Type) where
  outcomes : Nat → Attempt α
  events : List RetryEvent := []

namespace Trial

/-- The number of calls so far. -/
def calls (t : Trial α) : Nat := t.events.count .call

/-- The pauses so far. -/
def pauses (t : Trial α) : List UInt64 :=
  t.events.filterMap fun
    | .call => none
    | .pause ms => some ms

instance : Clock (Trial α) where
  sleep ms t := { t with events := t.events ++ [.pause ms] }

/-- The next outcome. -/
def call (t : Trial α) : Attempt α × Trial α :=
  (t.outcomes t.calls, { t with events := t.events ++ [.call] })

/-- A policy on trial: how it ends, and the record. -/
def run (policy : RetryPolicy) (outcomes : Nat → Attempt α) : Except Error α × Trial α :=
  retry policy call { outcomes }

/-- The outcomes of a list, the last of which repeats. -/
def outcomesOf (last : Attempt α) (l : List (Attempt α)) (i : Nat) : Attempt α :=
  l.getD i (l.getLastD last)

end Trial

end HostAgent
