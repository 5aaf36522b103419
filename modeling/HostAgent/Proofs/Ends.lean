import HostAgent.Proofs.Log

/-!
# How a pass ends

`p.Ends s Q`: run from `s`, the pass leaves a log for which `Q` holds of the log, of the result and of
the last state. There is one rule per combinator of passes and one per request to a host, so that the
log of a pass is put together from the logs of its parts.

A pass of an agent works on more than a host. `p.EndsOn view s Q` says the same of a pass on any
state from which `view` shows a host; `Ends` is the case in which the state is the host.

* `EndsOn.bind` -- the logs of two passes in a row are appended;
* `ends_request` -- a request leaves its own event; `ends_tried_bind` -- a command that may fail, and
  what comes after its answer;
* `Ends.onHost` -- a pass that works alike on every host, run by an agent.
-/

namespace HostAgent

namespace Pass

variable {S H : Type} [Host H] {α β : Type}

/-- The pass, run from `s`, leaves a log on the host that `view` shows, and `Q` holds of the log, of
    the result and of the last state. -/
def EndsOn (view : S → H) (p : Pass S α) (s : S) (Q : List Event → Except Error α → S → Prop) :
    Prop :=
  ∃ log, Leads log (view s) (view (p s).2) ∧ Q log (p s).1 (p s).2

/-- The pass, run from `s`, leaves a log, and `Q` holds of the log, of the result and of the last
    state. -/
abbrev Ends (p : Pass H α) (s : H) (Q : List Event → Except Error α → H → Prop) : Prop :=
  EndsOn id p s Q

/-! ## 1. Combinators -/

section

variable {view : S → H} {s : S}

theorem EndsOn.mono {p : Pass S α} {P Q : List Event → Except Error α → S → Prop}
    (h : p.EndsOn view s P) (hPQ : ∀ log r t, P log r t → Q log r t) : p.EndsOn view s Q := by
  obtain ⟨log, hl, hp⟩ := h
  exact ⟨log, hl, hPQ _ _ _ hp⟩

/-- The log may be used in what is said of it. -/
theorem EndsOn.leads {p : Pass S α} {Q : List Event → Except Error α → S → Prop}
    (h : p.EndsOn view s Q) :
    p.EndsOn view s fun log r t => Leads log (view s) (view t) ∧ Q log r t := by
  obtain ⟨log, hl, hq⟩ := h
  exact ⟨log, hl, hl, hq⟩

/-- A pass whose end is known. -/
theorem EndsOn.known {p : Pass S α} {r : Except Error α} {t : S} {log : List Event}
    {Q : List Event → Except Error α → S → Prop} (h : p s = (r, t))
    (hl : Leads log (view s) (view t)) (hq : Q log r t) : p.EndsOn view s Q := by
  refine ⟨log, ?_, ?_⟩
  · rw [h]; exact hl
  · rw [h]; exact hq

/-- A pass that leaves the state alone leaves no log. -/
theorem EndsOn.still {p : Pass S α} {r : Except Error α}
    {Q : List Event → Except Error α → S → Prop} (h : p s = (r, s)) (hq : Q [] r s) :
    p.EndsOn view s Q := by
  refine ⟨[], ?_, ?_⟩
  · rw [h]; exact .nil _
  · rw [h]; exact hq

/-- A pass that changes nothing of what `view` shows leaves no log. -/
theorem EndsOn.unseen {p : Pass S α} {r : Except Error α} {t : S}
    {Q : List Event → Except Error α → S → Prop} (h : p s = (r, t)) (hv : view t = view s)
    (hq : Q [] r t) : p.EndsOn view s Q := by
  refine ⟨[], ?_, ?_⟩
  · rw [h, hv]; exact .nil _
  · rw [h]; exact hq

theorem EndsOn.done {a : α} {Q : List Event → Except Error α → S → Prop} (hq : Q [] (.ok a) s) :
    (pure a : Pass S α).EndsOn view s Q := .still rfl hq

theorem EndsOn.failed {e : Error} {Q : List Event → Except Error α → S → Prop}
    (hq : Q [] (.error e) s) : (fail e : Pass S α).EndsOn view s Q := .still rfl hq

theorem EndsOn.ofResult {r : Except Error α} {Q : List Event → Except Error α → S → Prop}
    (hq : Q [] r s) : (Pass.ofResult r : Pass S α).EndsOn view s Q := .still rfl hq

/-- **One pass after another**: the logs are appended; an error ends both. -/
theorem EndsOn.bind {p : Pass S α} {f : α → Pass S β} {P : List Event → Except Error α → S → Prop}
    {Q : List Event → Except Error β → S → Prop} (hp : p.EndsOn view s P)
    (ok : ∀ log a t, P log (.ok a) t → (f a).EndsOn view t fun more r u => Q (log ++ more) r u)
    (error : ∀ log e t, P log (.error e) t → Q log (.error e) t) :
    (p >>= f).EndsOn view s Q := by
  obtain ⟨log, hl, hP⟩ := hp
  rcases hps : p s with ⟨r, t⟩
  rw [hps] at hl hP
  cases r with
  | ok a =>
    obtain ⟨more, hm, hQ⟩ := ok log a t hP
    refine ⟨log ++ more, ?_, ?_⟩
    · rw [bind_ok hps]; exact hl.append hm
    · rw [bind_ok hps]; exact hQ
  | error e =>
    refine ⟨log, ?_, ?_⟩
    · rw [bind_error hps]; exact hl
    · rw [bind_error hps]; exact error log e t hP

/-- A pass whose value is only changed leaves its own log. -/
theorem EndsOn.returning {p : Pass S α} {g : α → β} {P : List Event → Except Error α → S → Prop}
    {Q : List Event → Except Error β → S → Prop} (hp : p.EndsOn view s P)
    (ok : ∀ log a t, P log (.ok a) t → Q log (.ok (g a)) t)
    (error : ∀ log e t, P log (.error e) t → Q log (.error e) t) :
    (p >>= fun a => pure (g a)).EndsOn view s Q := by
  refine hp.bind (fun log a t h => .done ?_) error
  rw [List.append_nil]
  exact ok log a t h

/-- One pass after another that never ends in an error. -/
theorem EndsOn.before {p : Pass S α} {f : α → Pass S β} {a : α} {P : List Event → S → Prop}
    {Q : List Event → Except Error β → S → Prop}
    (hp : p.EndsOn view s fun log r t => r = .ok a ∧ P log t)
    (next : ∀ log t, P log t → (f a).EndsOn view t fun more r u => Q (log ++ more) r u) :
    (p >>= f).EndsOn view s Q := by
  refine hp.bind ?_ ?_
  · intro log _ t h
    obtain ⟨hr, hP⟩ := h
    cases hr
    exact next log t hP
  · intro log e t h
    obtain ⟨hr, -⟩ := h
    cases hr

/-- The same, with the first log at hand. -/
theorem EndsOn.before_leads {p : Pass S α} {f : α → Pass S β} {a : α}
    {P : List Event → S → Prop} {Q : List Event → Except Error β → S → Prop}
    (hp : p.EndsOn view s fun log r t => r = .ok a ∧ P log t)
    (next : ∀ log t, Leads log (view s) (view t) → P log t →
      (f a).EndsOn view t fun more r u => Q (log ++ more) r u) : (p >>= f).EndsOn view s Q := by
  have hleads : p.EndsOn view s fun log r t => r = .ok a ∧ Leads log (view s) (view t) ∧ P log t :=
    hp.leads.mono fun _ _ _ ⟨hl, hr, hP⟩ => ⟨hr, hl, hP⟩
  exact hleads.before fun log t h => next log t h.1 h.2

theorem EndsOn.within {step : String} {p : Pass S α} {P Q : List Event → Except Error α → S → Prop}
    (hp : p.EndsOn view s P) (hPQ : ∀ log r t, P log r t → Q log (r.mapError (.context step)) t) :
    (p.within step).EndsOn view s Q := by
  obtain ⟨log, hl, hP⟩ := hp
  refine ⟨log, ?_, ?_⟩
  · rw [within_apply]; exact hl
  · rw [within_apply]; exact hPQ _ _ _ hP

/-- What is said of the log and of the last state alone stays when an error gets a name. -/
theorem EndsOn.named {p : Pass S α} {Q : List Event → S → Prop}
    (hp : p.EndsOn view s fun log _ t => Q log t) (step : String) :
    (p.within step).EndsOn view s fun log _ t => Q log t := hp.within fun _ _ _ h => h

/-- A named step, and what comes after it: its error gets the name. -/
theorem EndsOn.within_bind {step : String} {p : Pass S α} {f : α → Pass S β}
    {P : List Event → Except Error α → S → Prop} {Q : List Event → Except Error β → S → Prop}
    (hp : p.EndsOn view s P)
    (ok : ∀ log a t, Leads log (view s) (view t) → P log (.ok a) t →
      (f a).EndsOn view t fun more r u => Q (log ++ more) r u)
    (error : ∀ log e t, P log (.error e) t → Q log (.error (.context step e)) t) :
    (p.within step >>= f).EndsOn view s Q := by
  have hnamed : (p.within step).EndsOn view s fun log r t => ∃ r', r = r'.mapError (.context step)
      ∧ Leads log (view s) (view t) ∧ P log r' t :=
    hp.leads.within fun _ r _ h => ⟨r, rfl, h⟩
  refine hnamed.bind ?_ ?_
  · intro log a t h
    obtain ⟨r', hr, hleads, hP⟩ := h
    cases r' with
    | ok b =>
      cases hr
      exact ok log a t hleads hP
    | error e => cases hr
  · intro log e t h
    obtain ⟨r', hr, -, hP⟩ := h
    cases r' with
    | ok b => cases hr
    | error e' =>
      cases hr
      exact error log e' t hP

theorem EndsOn.tried {p : Pass S α} {P : List Event → Except Error α → S → Prop}
    {Q : List Event → Except Error (Except Error α) → S → Prop} (hp : p.EndsOn view s P)
    (hPQ : ∀ log r t, P log r t → Q log (.ok r) t) : p.tried.EndsOn view s Q := by
  obtain ⟨log, hl, hP⟩ := hp
  exact ⟨log, hl, hPQ _ _ _ hP⟩

theorem EndsOn.ignored {p : Pass S α} {P : List Event → Except Error α → S → Prop}
    {Q : List Event → Except Error Unit → S → Prop} (hp : p.EndsOn view s P)
    (hPQ : ∀ log r t, P log r t → Q log (.ok ()) t) : p.ignored.EndsOn view s Q := by
  obtain ⟨log, hl, hP⟩ := hp
  exact ⟨log, hl, hPQ _ _ _ hP⟩

end

/-! ## 2. Requests -/

variable {s : H}

/-- A pass that is one request leaves the log of that request. -/
theorem ends_request {p : Pass H α} (event : Except Error α → Event)
    (moves : ∀ r t, p s = (r, t) → (event r).Moves s t) :
    p.Ends s fun log r _ => log = [event r] := by
  rcases hr : p s with ⟨r, t⟩
  refine ⟨[event r], ?_, ?_⟩
  · rw [hr]; exact .single (moves r t hr)
  · rw [hr]

theorem ends_runCommand (name : String) (args : List String) (s : H) :
    (runCommand name args).Ends s fun log r _ => log = [.ran ⟨name, args⟩ r] :=
  ends_request (.ran ⟨name, args⟩) fun _ _ h => h

/-- A command leaves its own event, whatever it is answered. -/
theorem ends_command (name : String) (args : List String) (s : H) :
    (runCommand name args).Ends s fun log _ _ => ∃ answer, log = [.ran ⟨name, args⟩ answer] :=
  (ends_runCommand name args s).mono fun _ r _ h => ⟨r, h⟩

/-- A command that is tried, and what comes after its answer. -/
theorem ends_tried_bind {name : String} {args : List String} {f : Except Error Output → Pass H α}
    {Q : List Event → Except Error α → H → Prop}
    (next : ∀ answer t,
      (f answer).Ends t fun more r u => Q ([.ran ⟨name, args⟩ answer] ++ more) r u) :
    ((runCommand name args).tried >>= f).Ends s Q := by
  have htried := (ends_runCommand name args s).tried
    (Q := fun log r _ => ∃ answer, log = [.ran ⟨name, args⟩ answer] ∧ r = .ok answer)
    fun log r _ hlog => ⟨r, hlog, rfl⟩
  refine htried.bind ?_ ?_
  · intro log answer t h
    obtain ⟨_, rfl, hr⟩ := h
    cases hr
    exact next answer t
  · intro log e t h
    obtain ⟨_, -, hr⟩ := h
    cases hr

/-- A command whose output is read: there is a value exactly when the command succeeded and its output
    could be read. -/
theorem ends_reading (name : String) (args : List String) (step : String)
    (read : Output → Except Error α) (s : H) :
    ((runCommand name args).within step >>= fun output => Pass.ofResult (read output)).Ends s
      fun log r _ => ∃ answer, log = [.ran ⟨name, args⟩ answer]
        ∧ ∀ a, r = .ok a ↔ ∃ output, answer = .ok output ∧ read output = .ok a := by
  have hrun : ((runCommand name args).within step).Ends s fun log r _ => ∃ answer,
      log = [.ran ⟨name, args⟩ answer] ∧ r = answer.mapError (.context step) :=
    (ends_runCommand name args s).within fun _ r _ hlog => ⟨r, hlog, rfl⟩
  refine hrun.bind ?_ ?_
  · intro log output t h
    obtain ⟨answer, rfl, hr⟩ := h
    cases answer with
    | error e => cases hr
    | ok output' =>
      cases hr
      refine .ofResult ⟨.ok output, rfl, fun a => ⟨fun h => ⟨output, rfl, h⟩, ?_⟩⟩
      intro h
      obtain ⟨_, ho, hread⟩ := h
      cases ho
      exact hread
  · intro log e t h
    obtain ⟨answer, rfl, hr⟩ := h
    refine ⟨answer, rfl, fun a => ⟨nofun, ?_⟩⟩
    intro h
    obtain ⟨_, rfl, -⟩ := h
    cases hr

theorem ends_writeFile (path : Path) (contents : Bytes) (s : H) :
    (writeFile path contents).Ends s fun log r _ => log = [.wrote path contents r] :=
  ends_request (.wrote path contents) fun _ _ h => h

theorem ends_makeLink (target path : Path) (s : H) :
    (makeLink target path).Ends s fun log r _ => log = [.linked target path r] :=
  ends_request (.linked target path) fun _ _ h => h

theorem ends_copyFile (source target : Path) (s : H) :
    (copyFile source target).Ends s fun log r _ => log = [.copied source target r] :=
  ends_request (.copied source target) fun _ _ h => h

theorem ends_sleep (milliseconds : UInt64) (s : H) :
    (sleep milliseconds).Ends s fun log r _ => r = .ok () ∧ log = [.slept milliseconds] :=
  ⟨[.slept milliseconds], .single rfl, rfl, rfl⟩

/-! ## 3. On an agent -/

/-- **A pass that works on every host, run by an agent**: its log is one on the agent's host, and it
    leaves the memory alone. -/
theorem Ends.onHost {p : Pass (Agent H) α} {a : Agent H}
    {P Q : List Event → Except Error α → Agent H → Prop} (h : p.Ends a P)
    (hPQ : ∀ log r b, P log r b → b.phase = a.phase → b.owner = a.owner → Q log r b) :
    p.EndsOn Agent.host a Q := by
  obtain ⟨log, hl, hp⟩ := h
  obtain ⟨hh, hphase, howner⟩ := leads_host hl
  exact ⟨log, hh, hPQ _ _ _ hp hphase howner⟩

/-- A command that an agent runs. -/
theorem endsOn_runCommand (name : String) (args : List String) (a : Agent H) :
    (runCommand name args).EndsOn Agent.host a fun log r b =>
      log = [.ran ⟨name, args⟩ r] ∧ b.phase = a.phase :=
  Ends.onHost (ends_runCommand name args a) fun _ _ _ hlog hphase _ => ⟨hlog, hphase⟩

end Pass

end HostAgent
