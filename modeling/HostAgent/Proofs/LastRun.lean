import HostAgent.Proofs.Attempts
import HostAgent.Proofs.Errors

/-!
# The last command of a pass

An error of a pass may carry what a failed command wrote to its standard error. Whether that is the
last command that the pass ran depends on what comes after a command that fails in vain: as long as
another command does, the words of an error and those of the last command stay the same.

* `lastRun?` -- the last command of a log, with its answer;
* `Closes`, `Tells`, `Reports` -- three ways in which a result goes with the last command, each
  weaker than the one before it, with the rules for passes one after another;
* `LastReply` -- on a scripted host the last command has its reply from the script.
-/

namespace HostAgent

variable {α β : Type} {log more : List Event}

/-! ## 1. The last command of a log -/

/-- The command that the event ran, with its answer. -/
def Event.run? : Event → Option (CommandLine × Except Error Output)
  | .ran command answer => some (command, answer)
  | _ => none

/-- The last command of a log, with its answer. -/
def lastRun? (log : List Event) : Option (CommandLine × Except Error Output) :=
  log.reverse.findSome? Event.run?

theorem lastRun?_append (a b : List Event) : lastRun? (a ++ b) = (lastRun? b).or (lastRun? a) := by
  unfold lastRun?
  rw [List.reverse_append, List.findSome?_append]

theorem Event.run?_eq_none_iff {e : Event} : e.run? = none ↔ e.command? = none := by
  cases e <;> simp [run?, command?]

theorem Event.run?_eq_some_iff {e : Event} {c : CommandLine} {answer : Except Error Output} :
    e.run? = some (c, answer) ↔ e = .ran c answer := by
  cases e <;> simp [run?]

theorem commandsIn_eq_nil_iff : commandsIn log = [] ↔ ∀ e ∈ log, e.run? = none := by
  simp only [commandsIn, List.filterMap_eq_nil_iff, Event.run?_eq_none_iff]

/-- There is none when no command was run. -/
theorem lastRun?_eq_none_iff : lastRun? log = none ↔ commandsIn log = [] := by
  rw [lastRun?, List.findSome?_eq_none_iff, commandsIn_eq_nil_iff]
  simp only [List.mem_reverse]

/-- It is the last one: no command comes after it. -/
theorem lastRun?_eq_some_iff {c : CommandLine} {answer : Except Error Output} :
    lastRun? log = some (c, answer)
      ↔ ∃ before after, log = before ++ .ran c answer :: after ∧ commandsIn after = [] := by
  constructor
  · intro h
    obtain ⟨after, e, before, hlog, he, hnone⟩ := List.findSome?_eq_some_iff.mp h
    obtain rfl := Event.run?_eq_some_iff.mp he
    refine ⟨before.reverse, after.reverse, ?_, commandsIn_eq_nil_iff.mpr fun e' he' => ?_⟩
    · rw [← List.reverse_reverse log, hlog]
      simp
    · exact hnone e' (List.mem_reverse.mp he')
  · intro h
    obtain ⟨before, after, rfl, hnone⟩ := h
    rw [lastRun?_append, ← List.singleton_append, lastRun?_append, lastRun?_eq_none_iff.mpr hnone]
    rfl

/-! ## 2. Words of a failure -/

/-- What the failed command wrote, when the result is an error about one. -/
def wordsOf : Except Error α → Option String
  | .ok _ => none
  | .error e => e.stderr

/-- A step keeps the words. -/
theorem wordsOf_context (step : String) (r : Except Error α) :
    wordsOf (r.mapError (.context step)) = wordsOf r := by
  cases r <;> rfl

/-- The end of all attempts keeps the words. -/
theorem wordsOf_retriesExhausted (attempts : Nat) (r : Except Error α) :
    wordsOf (r.mapError (.retriesExhausted attempts)) = wordsOf r := by
  cases r <;> rfl

/-- No error of the result is about a command that failed. -/
abbrev Wordless (r : Except Error α) : Prop := Errors (fun e => e.stderr = none) r

theorem Wordless.words {r : Except Error α} (h : Wordless r) : wordsOf r = none := by
  cases r with
  | ok a => rfl
  | error e => exact h e rfl

/-- What the last command wrote, when it failed. -/
def lastWords (log : List Event) : Option String := (lastRun? log).bind fun run => wordsOf run.2

theorem lastWords_append_of_run (h : lastRun? more ≠ none) :
    lastWords (log ++ more) = lastWords more := by
  obtain ⟨run, hrun⟩ := Option.ne_none_iff_exists'.mp h
  rw [lastWords, lastRun?_append, lastWords, hrun]
  rfl

/-- After a log whose last command did not fail, the words are those of what comes then. -/
theorem lastWords_append (h : lastWords log = none) : lastWords (log ++ more) = lastWords more := by
  by_cases hmore : lastRun? more = none
  · rw [lastWords, lastRun?_append, hmore, lastWords, hmore]
    exact h
  · exact lastWords_append_of_run hmore

/-! ## 3. Results that go with the last command -/

/-- A command was run, and the words of the result are those of the last one. -/
def Closes (log : List Event) (r : Except Error α) : Prop :=
  lastRun? log ≠ none ∧ wordsOf r = lastWords log

/-- The words of the result are those of the last command, if any was run. -/
def Tells (log : List Event) (r : Except Error α) : Prop := wordsOf r = lastWords log

/-- The result, if it is an error, has the words of the last command. A command in vain may stand
    before a value. -/
def Reports (log : List Event) (r : Except Error α) : Prop :=
  ∀ e, r = .error e → e.stderr = lastWords log

theorem Closes.tells {r : Except Error α} (h : Closes log r) : Tells log r := h.2

theorem Tells.reports {r : Except Error α} (h : Tells log r) : Reports log r := fun e he => by
  rw [← h, he]
  rfl

theorem Closes.after {r : Except Error α} (h : Closes more r) : Closes (log ++ more) r := by
  refine ⟨?_, ?_⟩
  · rw [lastRun?_append]
    intro hnone
    exact h.1 (Option.or_eq_none_iff.mp hnone).1
  · rw [lastWords_append_of_run h.1]
    exact h.2

/-- What comes next may run no command: then the last one stays, and it succeeded. -/
theorem Closes.continued {a : β} {r : Except Error α} (h : Closes log (.ok a : Except Error β))
    (hmore : Tells more r) : Closes (log ++ more) r := by
  refine ⟨?_, ?_⟩
  · rw [lastRun?_append]
    intro hnone
    exact h.1 (Option.or_eq_none_iff.mp hnone).2
  · rw [lastWords_append h.2.symm]
    exact hmore

theorem Reports.continued {a : β} {r : Except Error α} (h : Tells log (.ok a : Except Error β))
    (hmore : Reports more r) : Reports (log ++ more) r := fun e he => by
  rw [lastWords_append h.symm]
  exact hmore e he

/-! ## 4. Passes -/

namespace Pass

variable {H : Type} [Host H] {P : List Event → Except Error α → Prop}
  {Q : List Event → Except Error β → Prop}

/-- From whatever state the pass is run, its log and its result are so. -/
def Always (p : Pass H α) (Q : List Event → Except Error α → Prop) : Prop :=
  ∀ s, p.Ends s fun log r _ => Q log r

theorem Always.mono {p : Pass H α} {Q : List Event → Except Error α → Prop} (hp : p.Always P)
    (h : ∀ log r, P log r → Q log r) : p.Always Q := fun s => (hp s).mono fun log r _ => h log r

/-- One pass after another, by what is known of the parts of the log. -/
theorem Always.bind {R : List Event → Except Error β → Prop} {p : Pass H α} {f : α → Pass H β}
    (hp : p.Always P) (hf : ∀ a, (f a).Always R)
    (ok : ∀ log a more r, P log (.ok a) → R more r → Q (log ++ more) r)
    (error : ∀ log e, P log (.error e) → Q log (.error e)) : (p >>= f).Always Q := fun s =>
  (hp s).bind (fun log a t hlog => (hf a t).mono fun more r _ => ok log a more r hlog)
    fun log e _ => error log e

theorem closes_runCommand (name : String) (args : List String) :
    (runCommand name args : Pass H Output).Always Closes := by
  refine fun s => (ends_runCommand name args s).mono ?_
  rintro log r - rfl
  exact ⟨Option.some_ne_none _, rfl⟩

/-- All attempts but the last one are no more than a part of the log. -/
theorem closes_retry (policy : RetryPolicy) (name : String) (args : List String) :
    (retryPass policy (runCommand name args) : Pass H Output).Always Closes := by
  refine fun s => (retryPass_ends policy name args s).mono ?_
  rintro log r - ⟨answer, ⟨errors, rfl, -⟩, rfl⟩
  refine Closes.after ⟨Option.some_ne_none _, ?_⟩
  exact wordsOf_retriesExhausted policy.limit answer

theorem Always.closes_within {p : Pass H α} (hp : p.Always Closes) (step : String) :
    (p.within step).Always Closes := fun s =>
  (hp s).within fun _ r _ h => ⟨h.1, (wordsOf_context step r).trans h.2⟩

theorem Always.tells_within {p : Pass H α} (hp : p.Always Tells) (step : String) :
    (p.within step).Always Tells := fun s =>
  (hp s).within fun _ r _ h => (wordsOf_context step r).trans h

theorem Always.reports_within {p : Pass H α} (hp : p.Always Reports) (step : String) :
    (p.within step).Always Reports := by
  refine fun s => (hp s).within fun log r _ h e he => ?_
  cases r with
  | ok a => cases he
  | error e' =>
    cases he
    exact h e' rfl

theorem Always.tells {p : Pass H α} (hp : p.Always Closes) : p.Always Tells :=
  hp.mono fun _ _ => Closes.tells

theorem Always.reports {p : Pass H α} (hp : p.Always Tells) : p.Always Reports :=
  hp.mono fun _ _ => Tells.reports

theorem Always.closes_bind {p : Pass H α} {f : α → Pass H β} (hp : p.Always Closes)
    (hf : ∀ a, (f a).Always Tells) : (p >>= f).Always Closes :=
  hp.bind hf (fun _ _ _ _ => Closes.continued) fun _ _ h => h

theorem Always.reports_bind {p : Pass H α} {f : α → Pass H β} (hp : p.Always Tells)
    (hf : ∀ a, (f a).Always Reports) : (p >>= f).Always Reports :=
  hp.bind hf (fun _ _ _ _ => Reports.continued) fun _ _ h e he => by
    cases he
    exact h

/-- What comes after a command that may fail in vain must run a command of its own. -/
theorem Always.reports_closes {p : Pass H α} {f : α → Pass H β} (hp : p.Always Reports)
    (hf : ∀ a, (f a).Always Closes) : (p >>= f).Always Tells :=
  hp.bind hf (fun _ _ _ _ _ h => h.after.tells) fun _ e h => h e rfl

theorem tells_done (a : α) : (pure a : Pass H α).Always Tells := fun _ => .done rfl

theorem tells_ofResult {r : Except Error α} (h : Wordless r) :
    (Pass.ofResult r : Pass H α).Always Tells := fun _ => .ofResult h.words

theorem Always.tells_forEach {f : α → Pass H Unit} (hf : ∀ a, (f a).Always Closes) (l : List α) :
    (Pass.forEach l f).Always Tells := by
  induction l with
  | nil => exact tells_done ()
  | cons a l ih => exact ((hf a).closes_bind fun _ => ih).tells

/-- Each member of a list runs a command, so the whole does unless the list is empty. -/
theorem Always.closes_forEach {f : α → Pass H Unit} (hf : ∀ a, (f a).Always Closes) {l : List α}
    (hl : l ≠ []) : (Pass.forEach l f).Always Closes := by
  cases l with
  | nil => exact absurd rfl hl
  | cons a l => exact (hf a).closes_bind fun _ => tells_forEach hf l

end Pass

/-! ## 5. On a scripted host -/

/-- The words of a reply: a command that could be started and did not succeed has some. -/
theorem Reply.wordsOf_result (reply : Reply) (command : String) :
    wordsOf (reply.result command)
      = if reply.spawnError = false ∧ reply.exitCode ≠ 0 then some reply.stderr else none := by
  unfold Reply.result
  cases hspawn : reply.spawnError with
  | true => simp [wordsOf, Error.stderr]
  | false => by_cases hcode : reply.exitCode = 0 <;> simp [hcode, wordsOf, Error.stderr]

/-- The answer to a command is the reply that the script has for its line then. -/
theorem Scripted.run_fst (c : CommandLine) (h : Scripted) :
    (Commands.run c h).1 = (h.answer c.text).1.result c.text := by
  show (Reply.result _ c.text) = _
  unfold answer
  dsimp only
  split <;> rfl

/-- The last command of a log from `h` is `c`, and `reply` is what the script has for it then. -/
def LastReply (h : Scripted) (log : List Event) (c : CommandLine) (reply : Reply) : Prop :=
  ∃ before after t, log = before ++ .ran c (reply.result c.text) :: after ∧ commandsIn after = []
    ∧ Leads before h t ∧ (t.answer c.text).1 = reply

theorem LastReply.lastRun {h : Scripted} {c : CommandLine} {reply : Reply}
    (hlast : LastReply h log c reply) : lastRun? log = some (c, reply.result c.text) := by
  obtain ⟨before, after, -, hlog, hnone, -⟩ := hlast
  exact lastRun?_eq_some_iff.mpr ⟨before, after, hlog, hnone⟩

/-- When a command was run, there is a last one. -/
theorem Leads.lastReply {h h' : Scripted} (hl : Leads log h h') (hne : commandsIn log ≠ []) :
    ∃ c reply, LastReply h log c reply := by
  obtain ⟨⟨c, answer⟩, hrun⟩ :=
    Option.ne_none_iff_exists'.mp fun hnone => hne (lastRun?_eq_none_iff.mp hnone)
  obtain ⟨before, after, rfl, hnone⟩ := lastRun?_eq_some_iff.mp hrun
  obtain ⟨t, hbefore, hrest⟩ := leads_append.mp hl
  cases hrest with
  | cons hmoves _ =>
    have hanswer : (t.answer c.text).1.result c.text = answer := by
      rw [← Scripted.run_fst]
      exact congrArg Prod.fst hmoves
    rw [← hanswer]
    exact ⟨c, (t.answer c.text).1, before, after, t, rfl, hnone, hbefore, rfl⟩

theorem LastReply.lastWords {h : Scripted} {c : CommandLine} {reply : Reply}
    (hlast : LastReply h log c reply) :
    lastWords log
      = if reply.spawnError = false ∧ reply.exitCode ≠ 0 then some reply.stderr else none := by
  rw [HostAgent.lastWords, hlast.lastRun]
  exact reply.wordsOf_result c.text

/-- There are words when the last command was started and did not succeed. -/
theorem Leads.lastWords_eq_some_iff {h h' : Scripted} (hl : Leads log h h') {words : String} :
    lastWords log = some words ↔ ∃ c reply, LastReply h log c reply
      ∧ reply.spawnError = false ∧ reply.exitCode ≠ 0 ∧ reply.stderr = words := by
  constructor
  · intro hwords
    have hne : commandsIn log ≠ [] := fun hnone => by
      rw [lastWords, lastRun?_eq_none_iff.mpr hnone] at hwords
      cases hwords
    obtain ⟨c, reply, hlast⟩ := hl.lastReply hne
    rw [hlast.lastWords] at hwords
    split at hwords
    · rename_i hfailed
      exact ⟨c, reply, hlast, hfailed.1, hfailed.2, Option.some.inj hwords⟩
    · cases hwords
  · intro h
    obtain ⟨c, reply, hlast, hspawn, hcode, rfl⟩ := h
    rw [hlast.lastWords, if_pos ⟨hspawn, hcode⟩]

/-- There are none when no command was run, or the last one was not started, or it succeeded. -/
theorem Leads.lastWords_eq_none_iff {h h' : Scripted} (hl : Leads log h h') :
    lastWords log = none ↔ commandsIn log = [] ∨ ∃ c reply, LastReply h log c reply
      ∧ (reply.spawnError = true ∨ reply.exitCode = 0) := by
  constructor
  · intro hwords
    by_cases hnone : commandsIn log = []
    · exact Or.inl hnone
    · obtain ⟨c, reply, hlast⟩ := hl.lastReply hnone
      refine Or.inr ⟨c, reply, hlast, ?_⟩
      rw [hlast.lastWords] at hwords
      split at hwords
      · cases hwords
      · rename_i hfailed
        by_cases hspawn : reply.spawnError = true
        · exact Or.inl hspawn
        · refine Or.inr (Classical.byContradiction fun hcode => hfailed ⟨?_, hcode⟩)
          exact Bool.not_eq_true _ ▸ hspawn
  · intro h
    rcases h with hnone | ⟨c, reply, hlast, hended⟩
    · rw [lastWords, lastRun?_eq_none_iff.mpr hnone]
      rfl
    · rw [hlast.lastWords, if_neg]
      intro hfailed
      rcases hended with hspawn | hcode
      · rw [hspawn] at hfailed
        cases hfailed.1
      · exact hfailed.2 hcode

end HostAgent
