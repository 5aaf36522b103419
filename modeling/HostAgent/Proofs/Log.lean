import HostAgent.Agent.State
import HostAgent.Host.Scripted
import Mathlib.Data.List.Forall2

/-!
# What is asked of a host, in order

A pass is a function on states, so what it did on its way is not in its type. This file says it in
another way: a log is a list of requests with their answers, and it leads from one state of a host
to another when the requests, made in order, are answered so.

* `Leads` -- a log leads from one state to another; `leads_append`, `Leads.rest` -- logs in sequence;
* `Throughout` -- what holds of every state on the way;
* `leads_host` -- on an agent a log is a log on its host, and the memory stays;
* `Leads.recorded` -- a scripted host has recorded exactly the commands and pauses of the log.
-/

namespace HostAgent

/-! ## 1. Events and logs -/

/-- A request to a host, with its answer. -/
inductive Event where
  | ran (command : CommandLine) (answer : Except Error Output)
  | wrote (path : Path) (contents : Bytes) (answer : Except Error Unit)
  | linked (target path : Path) (answer : Except Error Unit)
  | copied (source target : Path) (answer : Except Error Unit)
  | slept (milliseconds : UInt64)

/-- The request takes the host from one state to another, with the answer that the event has. -/
def Event.Moves {S : Type} [Host S] : Event → S → S → Prop
  | .ran command answer, s, t => Commands.run command s = (answer, t)
  | .wrote path contents answer, s, t => Files.write path contents s = (answer, t)
  | .linked target path answer, s, t => Files.link target path s = (answer, t)
  | .copied source target answer, s, t => Files.copy source target s = (answer, t)
  | .slept milliseconds, s, t => Clock.sleep milliseconds s = t

/-- The requests of the log, made in order, take the host from one state to another. -/
inductive Leads {S : Type} [Host S] : List Event → S → S → Prop where
  | nil (s : S) : Leads [] s s
  | cons {e : Event} {log : List Event} {s t u : S} (h : e.Moves s t) (rest : Leads log t u) :
      Leads (e :: log) s u

section

variable {S : Type} [Host S] {s t u : S} {a b log : List Event}

theorem Leads.single {e : Event} (h : e.Moves s t) : Leads [e] s t := .cons h (.nil t)

theorem Leads.append (h : Leads a s t) (k : Leads b t u) : Leads (a ++ b) s u := by
  induction h with
  | nil => exact k
  | cons he _ ih => exact .cons he (ih k)

theorem leads_append : Leads (a ++ b) s u ↔ ∃ t, Leads a s t ∧ Leads b t u := by
  constructor
  · intro h
    induction a generalizing s with
    | nil => exact ⟨s, .nil s, h⟩
    | cons e a ih =>
      cases h with
      | cons he hrest =>
        obtain ⟨t, ha, hb⟩ := ih hrest
        exact ⟨t, .cons he ha, hb⟩
  · intro h
    obtain ⟨t, ha, hb⟩ := h
    exact ha.append hb

/-- The same request in the same state leads to the same state. -/
theorem Event.Moves.unique {e : Event} {t' : S} (h : e.Moves s t) (h' : e.Moves s t') : t = t' := by
  cases e with
  | slept ms => exact Eq.trans (Eq.symm h) h'
  | _ => exact congrArg Prod.snd (Eq.trans (Eq.symm h) h')

theorem Leads.unique {t' : S} (h : Leads log s t) (h' : Leads log s t') : t = t' := by
  induction h with
  | nil => cases h'; rfl
  | cons he _ ih =>
    cases h' with
    | cons he' hrest =>
      rw [he.unique he'] at ih
      exact ih hrest

/-- What leads on from where its first part has led. -/
theorem Leads.rest (h : Leads (a ++ b) s u) (ha : Leads a s t) : Leads b t u := by
  obtain ⟨t', hfirst, hsecond⟩ := leads_append.mp h
  rw [ha.unique hfirst]
  exact hsecond

/-- What one event keeps, a log of such events keeps. -/
theorem Leads.keeps {I : S → Prop} (h : Leads log s t) (hs : I s)
    (step : ∀ e ∈ log, ∀ s t, e.Moves s t → I s → I t) : I t := by
  induction h with
  | nil => exact hs
  | cons he _ ih =>
    refine ih (step _ List.mem_cons_self _ _ he hs) fun e hmem => ?_
    exact step e (List.mem_cons_of_mem _ hmem)

/-- The predicate holds of every state on the way of a log, its first and its last one included. -/
def Throughout (I : S → Prop) (log : List Event) (s : S) : Prop :=
  ∀ before after t, log = before ++ after → Leads before s t → I t

theorem Throughout.nil {I : S → Prop} (hs : I s) : Throughout I [] s := by
  intro before after t hsplit hl
  obtain rfl : before = [] := (List.append_eq_nil_iff.mp hsplit.symm).1
  cases hl
  exact hs

theorem Throughout.single {I : S → Prop} {e : Event} (hs : I s) (he : e.Moves s t) (ht : I t) :
    Throughout I [e] s := by
  intro before after u hsplit hl
  cases before with
  | nil =>
    cases hl
    exact hs
  | cons e' before =>
    obtain ⟨rfl, hrest⟩ := List.cons.inj hsplit
    obtain rfl : before = [] := (List.append_eq_nil_iff.mp hrest.symm).1
    rw [hl.unique (.single he)]
    exact ht

theorem Throughout.last {I : S → Prop} (h : Throughout I log s) (hl : Leads log s t) : I t :=
  h log [] t (List.append_nil log).symm hl

theorem Throughout.mono {I J : S → Prop} (h : Throughout I log s) (hIJ : ∀ s, I s → J s) :
    Throughout J log s :=
  fun before after t hsplit hl => hIJ t (h before after t hsplit hl)

theorem Throughout.append {I : S → Prop} (ha : Throughout I a s) (hl : Leads a s t)
    (hb : Throughout I b t) : Throughout I (a ++ b) s := by
  intro before after u hsplit hbefore
  rcases List.append_eq_append_iff.mp hsplit with ⟨more, rfl, hmore⟩ | ⟨more, hmore, -⟩
  · exact hb more after u hmore (hbefore.rest hl)
  · exact ha before more u hmore hbefore

/-- What each event of a log keeps holds throughout it. -/
theorem throughout_of_steps {I : S → Prop} (hs : I s)
    (step : ∀ e ∈ log, ∀ s t, e.Moves s t → I s → I t) : Throughout I log s := by
  intro before after t hsplit hl
  refine hl.keeps hs fun e he => step e ?_
  rw [hsplit]
  exact List.mem_append_left _ he

end

/-! ## 2. What a log says -/

/-- The command that the event ran. -/
def Event.command? : Event → Option CommandLine
  | .ran command _ => some command
  | _ => none

/-- The pause that the event was. -/
def Event.pause? : Event → Option UInt64
  | .slept milliseconds => some milliseconds
  | _ => none

/-- The command that the event ran, if it succeeded. -/
def Event.success? : Event → Option CommandLine
  | .ran command (.ok _) => some command
  | _ => none

/-- The commands of a log, in order. -/
def commandsIn (log : List Event) : List CommandLine := log.filterMap Event.command?

/-- The pauses of a log, in order. -/
def pausesIn (log : List Event) : List UInt64 := log.filterMap Event.pause?

/-- The commands of a log that succeeded, in order. -/
def successesIn (log : List Event) : List CommandLine := log.filterMap Event.success?

/-- The log is of the given commands and nothing else, whatever they were answered. -/
def RanOnly (commands : List CommandLine) (log : List Event) : Prop :=
  List.Forall₂ (fun c e => ∃ answer, e = Event.ran c answer) commands log

@[simp] theorem commandsIn_append (a b : List Event) :
    commandsIn (a ++ b) = commandsIn a ++ commandsIn b := List.filterMap_append

@[simp] theorem pausesIn_append (a b : List Event) : pausesIn (a ++ b) = pausesIn a ++ pausesIn b :=
  List.filterMap_append

@[simp] theorem successesIn_append (a b : List Event) :
    successesIn (a ++ b) = successesIn a ++ successesIn b := List.filterMap_append

/-- What succeeded was run. -/
theorem mem_commandsIn_of_success {log : List Event} {c : CommandLine} (h : c ∈ successesIn log) :
    c ∈ commandsIn log := by
  obtain ⟨e, he, hsuccess⟩ := List.mem_filterMap.mp h
  refine List.mem_filterMap.mpr ⟨e, he, ?_⟩
  cases e with
  | ran command answer =>
    cases answer with
    | ok output => exact hsuccess
    | error _ => cases hsuccess
  | _ => cases hsuccess

/-- A member of the second of two lists that are related member by member. -/
theorem exists_of_forall₂ {α β : Type} {R : α → β → Prop} {l : List α} {m : List β}
    (h : List.Forall₂ R l m) {b : β} (hb : b ∈ m) : ∃ a ∈ l, R a b := by
  induction h with
  | nil => cases hb
  | cons hab _ ih =>
    rcases List.mem_cons.mp hb with rfl | hb
    · exact ⟨_, List.mem_cons_self, hab⟩
    · obtain ⟨a, hmem, hr⟩ := ih hb
      exact ⟨a, List.mem_cons_of_mem _ hmem, hr⟩

theorem RanOnly.ran {commands : List CommandLine} {log : List Event} (h : RanOnly commands log)
    {e : Event} (he : e ∈ log) : ∃ c ∈ commands, ∃ answer, e = .ran c answer :=
  exists_of_forall₂ h he

/-- The commands of such a log are those. -/
theorem RanOnly.commandsIn_eq {commands : List CommandLine} {log : List Event}
    (h : RanOnly commands log) : commandsIn log = commands := by
  induction h with
  | nil => rfl
  | cons hc _ ih =>
    obtain ⟨answer, rfl⟩ := hc
    exact congrArg (_ :: ·) ih

/-! ## 3. On an agent -/

section

variable {H : Type} [Host H]

/-- What an agent is asked its host is asked, and the memory stays. -/
theorem Event.moves_host {e : Event} {a b : Agent H} (h : e.Moves a b) :
    e.Moves a.host b.host ∧ b.phase = a.phase ∧ b.owner = a.owner := by
  cases e with
  | slept ms => cases h; exact ⟨rfl, rfl, rfl⟩
  | ran c r => cases h; exact ⟨rfl, rfl, rfl⟩
  | wrote p bs r => cases h; exact ⟨rfl, rfl, rfl⟩
  | linked q p r => cases h; exact ⟨rfl, rfl, rfl⟩
  | copied q p r => cases h; exact ⟨rfl, rfl, rfl⟩

/-- **A log on an agent is a log on its host**, and the memory stays. -/
theorem leads_host {log : List Event} {a b : Agent H} (h : Leads log a b) :
    Leads log a.host b.host ∧ b.phase = a.phase ∧ b.owner = a.owner := by
  induction h with
  | nil => exact ⟨.nil _, rfl, rfl⟩
  | cons he _ ih =>
    obtain ⟨hm, hp, ho⟩ := Event.moves_host he
    exact ⟨.cons hm ih.1, ih.2.1.trans hp, ih.2.2.trans ho⟩

end

/-! ## 4. On a scripted host -/

/-- A command line with arguments, in characters. -/
theorem CommandLine.text_toList (name arg : String) (args : List String) :
    (CommandLine.mk name (arg :: args)).text.toList
      = name.toList ++ ' ' :: Text.joinWith [' '] ((arg :: args).map String.toList) := by
  show (name ++ " " ++ Text.join " " (arg :: args)).toList = _
  simp [Text.join]

/-- The command lines of a log as they are shown. -/
def linesIn (log : List Event) : List String := (commandsIn log).map CommandLine.text

@[simp] theorem linesIn_append (a b : List Event) : linesIn (a ++ b) = linesIn a ++ linesIn b := by
  rw [linesIn, commandsIn_append, List.map_append]
  rfl

namespace Scripted

/-- An answer changes the script alone, and the record by one line. -/
theorem answer_snd (h : Scripted) (line : String) :
    ∃ queued, (answer h line).2 = { h with queued } := by
  unfold answer
  split
  · exact ⟨_, rfl⟩
  · exact ⟨h.queued, rfl⟩

/-- A command changes the script, and the record by its line; all else stays. -/
theorem run_snd (c : CommandLine) (h : Scripted) :
    ∃ queued, (Commands.run c h).2 = { h with commands := h.commands ++ [c.text], queued } := by
  obtain ⟨queued, hq⟩ := answer_snd { h with commands := h.commands ++ [c.text] } c.text
  exact ⟨queued, hq⟩

/-- A command with its answer: what it leaves behind. -/
theorem run_answered {c : CommandLine} {h : Scripted} {r : Except Error Output}
    (hr : (Commands.run c h).1 = r) :
    ∃ queued, Commands.run c h = (r, { h with commands := h.commands ++ [c.text], queued }) := by
  obtain ⟨queued, hq⟩ := run_snd c h
  exact ⟨queued, Prod.ext hr hq⟩

/-- A write changes files and the count of writes alone. -/
theorem writeAt_snd (p : Path) (bs : Bytes) (h : Scripted) :
    ∃ files writes, (h.writeAt p bs).2 = { h with files, writes } := by
  unfold writeAt
  split
  · exact ⟨h.files, h.writes, rfl⟩
  · exact ⟨_, _, rfl⟩

theorem copyAt_snd (source target : Path) (h : Scripted) :
    ∃ files writes, (h.copyAt source target).2 = { h with files, writes } := by
  unfold copyAt
  split
  · exact writeAt_snd _ _ _
  · exact ⟨h.files, h.writes, rfl⟩

/-- One event is recorded if it is a command or a pause. -/
theorem moves_recorded {e : Event} {h h' : Scripted} (he : e.Moves h h') :
    h'.commands = h.commands ++ linesIn [e] ∧ h'.sleeps = h.sleeps ++ pausesIn [e] := by
  cases e with
  | ran c r =>
    obtain ⟨queued, hq⟩ := run_snd c h
    have hh : (Commands.run c h).2 = h' := congrArg Prod.snd he
    rw [← hh, hq]
    exact ⟨rfl, (List.append_nil _).symm⟩
  | wrote p bs r =>
    have hh : (h.writeAt p bs).2 = h' := congrArg Prod.snd he
    obtain ⟨files, writes, hw⟩ := writeAt_snd p bs h
    rw [← hh, hw]
    exact ⟨(List.append_nil _).symm, (List.append_nil _).symm⟩
  | linked q p r =>
    have hh : (linkAt q p h).2 = h' := congrArg Prod.snd he
    rw [← hh]
    exact ⟨(List.append_nil _).symm, (List.append_nil _).symm⟩
  | copied q p r =>
    have hh : (h.copyAt q p).2 = h' := congrArg Prod.snd he
    obtain ⟨files, writes, hw⟩ := copyAt_snd q p h
    rw [← hh, hw]
    exact ⟨(List.append_nil _).symm, (List.append_nil _).symm⟩
  | slept ms =>
    have hh : Clock.sleep ms h = h' := he
    rw [← hh]
    exact ⟨(List.append_nil _).symm, rfl⟩

/-- With nothing queued, a request leaves the script as it is, and a command gets the reply that
    stands. -/
theorem moves_answered {e : Event} {h h' : Scripted} (he : e.Moves h h') (hqueued : h.queued = []) :
    h'.queued = [] ∧ h'.standing = h.standing ∧ ∀ c answer, e = .ran c answer →
      ((Assoc.get? c.text h.standing).getD {}).result c.text = answer := by
  cases e with
  | ran c r =>
    have hanswer : Commands.run c h = (((Assoc.get? c.text h.standing).getD {}).result c.text,
        { h with commands := h.commands ++ [c.text] }) := by
      change runLine c.text h = _
      unfold runLine answer
      rw [hqueued]
      rfl
    have hmoves : Commands.run c h = (r, h') := he
    rw [hanswer] at hmoves
    cases hmoves
    refine ⟨hqueued, rfl, fun c' answer heq => ?_⟩
    cases heq
    rfl
  | wrote p bs r =>
    have hh : (h.writeAt p bs).2 = h' := congrArg Prod.snd he
    obtain ⟨files, writes, hw⟩ := writeAt_snd p bs h
    rw [← hh, hw]
    exact ⟨hqueued, rfl, fun _ _ heq => by cases heq⟩
  | linked q p r =>
    have hh : (linkAt q p h).2 = h' := congrArg Prod.snd he
    rw [← hh]
    exact ⟨hqueued, rfl, fun _ _ heq => by cases heq⟩
  | copied q p r =>
    have hh : (h.copyAt q p).2 = h' := congrArg Prod.snd he
    obtain ⟨files, writes, hw⟩ := copyAt_snd q p h
    rw [← hh, hw]
    exact ⟨hqueued, rfl, fun _ _ heq => by cases heq⟩
  | slept ms =>
    have hh : Clock.sleep ms h = h' := he
    rw [← hh]
    exact ⟨hqueued, rfl, fun _ _ heq => by cases heq⟩

end Scripted

/-- **A scripted host has recorded the commands and pauses of the log**, and no others. -/
theorem Leads.recorded {log : List Event} {h h' : Scripted} (hl : Leads log h h') :
    h'.commands = h.commands ++ linesIn log ∧ h'.sleeps = h.sleeps ++ pausesIn log := by
  induction hl with
  | nil => exact ⟨(List.append_nil _).symm, (List.append_nil _).symm⟩
  | @cons e log s t u he _ ih =>
    obtain ⟨hc, hs⟩ := Scripted.moves_recorded he
    have hlines : linesIn (e :: log) = linesIn [e] ++ linesIn log := by
      rw [← List.singleton_append, linesIn_append]
    have hpauses : pausesIn (e :: log) = pausesIn [e] ++ pausesIn log := by
      rw [← List.singleton_append, pausesIn_append]
    rw [ih.1, ih.2, hc, hs, hlines, hpauses, List.append_assoc, List.append_assoc]
    exact ⟨rfl, rfl⟩

/-- With nothing queued, every command gets the reply that stands. -/
theorem Leads.answered {log : List Event} {h h' : Scripted} (hl : Leads log h h')
    (hqueued : h.queued = []) {c : CommandLine} {answer : Except Error Output}
    (hran : .ran c answer ∈ log) :
    ((Assoc.get? c.text h.standing).getD {}).result c.text = answer := by
  induction hl with
  | nil => cases hran
  | cons he _ ih =>
    obtain ⟨hnext, hstanding, hanswer⟩ := Scripted.moves_answered he hqueued
    rcases List.mem_cons.mp hran with heq | hran
    · exact hanswer c answer heq.symm
    · rw [← hstanding]
      exact ih hnext hran

end HostAgent
