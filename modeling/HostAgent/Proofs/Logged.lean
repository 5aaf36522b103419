import HostAgent.Proofs.Blind
import HostAgent.Proofs.Ends

/-!
# Hosts with a log

A host in memory records the commands that it runs, but neither the requests that it refuses nor
where among the commands a file was written. A host with a log keeps every request with its answer,
in order. No pass can see whether a log is kept, so the log of a pass is what such a host has kept of
it in the end, and nothing about it is left open.

* `Logged` -- a host with a log;
* `Leads.kept` -- what leads from one of its states to another is what it has kept in between;
* `Logged.likeness` -- to every pass it is the host that it stands for;
* `logOn`, `logBy` -- the log of work on a host, and of work by an agent;
* `Blind.plain`, `Blind.log_append` -- work is the same without a log, and with one it adds to it;
* `logOn_ends`, `logBy_ends` -- what is known of some log of a pass is known of its log.
-/

namespace HostAgent

variable {H K α : Type}

/-! ## 1. The host -/

/-- A host with the requests that were made to it and their answers, in order. -/
structure Logged (H : Type) where
  host : H
  log : List Event := []

namespace Logged

/-- The host with what became of it, and with one more event in its log. -/
def keep (l : Logged H) (event : α → Event) (r : α × H) : α × Logged H :=
  (r.1, ⟨r.2, l.log ++ [event r.1]⟩)

instance [Commands H] : Commands (Logged H) where
  run c l := l.keep (.ran c) (Commands.run c l.host)

instance [Files H] : Files (Logged H) where
  contents l := Files.contents l.host
  present l := Files.present l.host
  entries l := Files.entries l.host
  destination l := Files.destination l.host
  write path contents l := l.keep (.wrote path contents) (Files.write path contents l.host)
  link target path l := l.keep (.linked target path) (Files.link target path l.host)
  copy source target l := l.keep (.copied source target) (Files.copy source target l.host)

instance [Clock H] : Clock (Logged H) where
  sleep ms l := ⟨Clock.sleep ms l.host, l.log ++ [.slept ms]⟩

instance [Host H] : Host (Logged H) where

end Logged

/-- One request is made to the host, and kept. -/
theorem Event.moves_kept [Host H] {e : Event} {l l' : Logged H} (h : e.Moves l l') :
    e.Moves l.host l'.host ∧ l'.log = l.log ++ [e] := by
  cases e with
  | slept ms => cases h; exact ⟨rfl, rfl⟩
  | ran c r => cases h; exact ⟨rfl, rfl⟩
  | wrote p bs r => cases h; exact ⟨rfl, rfl⟩
  | linked q p r => cases h; exact ⟨rfl, rfl⟩
  | copied q p r => cases h; exact ⟨rfl, rfl⟩

/-- **What leads from one state to another is what was kept in between**, and it leads there on the
    host itself. -/
theorem Leads.kept [Host H] {log : List Event} {l l' : Logged H} (h : Leads log l l') :
    Leads log l.host l'.host ∧ l'.log = l.log ++ log := by
  induction h with
  | nil l => exact ⟨.nil l.host, (List.append_nil _).symm⟩
  | cons he _ ih =>
    obtain ⟨hmoves, hlog⟩ := Event.moves_kept he
    refine ⟨.cons hmoves ih.1, ?_⟩
    rw [ih.2, hlog, List.append_assoc, List.singleton_append]

/-! ## 2. What nobody can see -/

/-- Nobody can tell a state from itself. -/
theorem likeness_eq [Host H] : Likeness (fun _ => True) (Eq : H → H → Prop) where
  contents h := by rw [h]
  present h := by rw [h]
  entries h := by rw [h]
  destination h := by rw [h]
  run _ _ _ h := by rw [h]; exact ⟨rfl, rfl⟩
  write _ _ _ _ h := by rw [h]; exact ⟨rfl, rfl⟩
  link _ _ _ _ h := by rw [h]; exact ⟨rfl, rfl⟩
  copy _ _ _ _ h := by rw [h]; exact ⟨rfl, rfl⟩
  sleep _ _ _ h := by rw [h]

namespace Logged

/-- The host that a host with a log stands for. -/
def Shows (l : Logged H) (h : H) : Prop := l.host = h

/-- The hosts are related, and the first one has kept some earlier events, and since then what the
    second one has. -/
def Along (R : H → K → Prop) (earlier : List Event) (l : Logged H) (k : Logged K) : Prop :=
  R l.host k.host ∧ l.log = earlier ++ k.log

theorem keep_shows {f : H → α × H} (event : α → Event) :
    Blind Shows (fun l => l.keep event (f l.host)) f := by
  intro l h hl
  obtain rfl : l.host = h := hl
  exact ⟨rfl, rfl⟩

/-- **To every pass a host with a log is the host that it stands for.** -/
theorem likeness [Host H] : Likeness (fun _ => True) (Shows : Logged H → H → Prop) where
  contents h := congrArg Files.contents (Eq.symm h)
  present h := congrArg Files.present (Eq.symm h)
  entries h := congrArg Files.entries (Eq.symm h)
  destination h := congrArg Files.destination (Eq.symm h)
  run _ := keep_shows _
  write _ _ := keep_shows _
  link _ _ := keep_shows _
  copy _ _ := keep_shows _
  sleep ms _ _ h := congrArg (Clock.sleep ms) h

theorem inFront [Host H] : Likeness InFront (Shows : Logged H → H → Prop) :=
  likeness.mono fun _ _ => trivial

theorem keep_along {R : H → K → Prop} {f : H → α × H} {g : K → α × K} (h : Blind R f g)
    (earlier : List Event) (event : α → Event) :
    Blind (Along R earlier) (fun l => l.keep event (f l.host)) fun k => k.keep event (g k.host) := by
  intro l k hlk
  obtain ⟨hresult, hafter⟩ := h hlk.1
  refine ⟨hresult, hafter, ?_⟩
  show l.log ++ [event (f l.host).1] = earlier ++ (k.log ++ [event (g k.host).1])
  rw [hlk.2, hresult, List.append_assoc]

/-- Hosts that cannot be told apart keep the same events from some time on. -/
theorem likeness_along [Host H] [Host K] {allowed : CommandLine → Prop} {R : H → K → Prop}
    (h : Likeness allowed R) (earlier : List Event) : Likeness allowed (Along R earlier) where
  contents hlk := h.contents hlk.1
  present hlk := h.present hlk.1
  entries hlk := h.entries hlk.1
  destination hlk := h.destination hlk.1
  run hc := keep_along (h.run hc) earlier _
  write path contents := keep_along (h.write path contents) earlier _
  link target path := keep_along (h.link target path) earlier _
  copy source target := keep_along (h.copy source target) earlier _
  sleep ms l k hlk := by
    refine ⟨h.sleep ms hlk.1, ?_⟩
    show l.log ++ [.slept ms] = earlier ++ (k.log ++ [.slept ms])
    rw [hlk.2, List.append_assoc]

/-- Nobody can tell what was kept before. -/
theorem likeness_since [Host H] (earlier : List Event) :
    Likeness (fun _ => True) (Along (Eq : H → H → Prop) earlier) :=
  likeness_along likeness_eq earlier

end Logged

/-! ## 3. The log of work -/

/-- What work asks of a host, in order: what the host has kept of it when it keeps a log. -/
def logOn (work : Logged H → α × Logged H) (h : H) : List Event := (work ⟨h, []⟩).2.log

/-- The agent at work on its host with an empty log. -/
def Agent.logged (a : Agent H) : Agent (Logged H) := ⟨⟨a.host, []⟩, a.phase, a.owner⟩

/-- The agent at work on the host that its host stands for. -/
def Agent.plain (a : Agent (Logged H)) : Agent H := ⟨a.host.host, a.phase, a.owner⟩

/-- What work by an agent asks of its host, in order. -/
def logBy (work : Agent (Logged H) → α × Agent (Logged H)) (a : Agent H) : List Event :=
  (work a.logged).2.host.log

theorem Agent.like_plain (a : Agent (Logged H)) : a.Like Logged.Shows a.plain := ⟨rfl, rfl, rfl⟩

theorem Agent.Like.plain_eq {a : Agent (Logged H)} {b : Agent H} (h : a.Like Logged.Shows b) :
    b = a.plain := by
  obtain ⟨host, phase, owner⟩ := b
  obtain ⟨rfl, rfl, rfl⟩ := h
  rfl

/-- What leads from one state to another leads there on the host that is stood for. -/
theorem Leads.plain [Host H] {log : List Event} {a b : Agent (Logged H)} (h : Leads log a b) :
    Leads log a.plain b.plain := by
  induction h with
  | nil a => exact .nil a.plain
  | @cons e log a b c he _ ih =>
    refine .cons ?_ ih
    cases e with
    | slept ms => cases he; rfl
    | ran c r => cases he; rfl
    | wrote p bs r => cases he; rfl
    | linked q p r => cases he; rfl
    | copied q p r => cases he; rfl

/-- Work by an agent is the same with a log and without one. -/
theorem Blind.plain {f : Agent (Logged H) → α × Agent (Logged H)} {g : Agent H → α × Agent H}
    (h : Blind (Agent.Like Logged.Shows) f g) (a : Agent (Logged H)) :
    g a.plain = ((f a).1, (f a).2.plain) := by
  obtain ⟨hresult, hafter⟩ := h a.like_plain
  exact Prod.ext hresult hafter.plain_eq

/-- Work adds its log to what was kept before. -/
theorem Blind.log_append {f : Agent (Logged H) → α × Agent (Logged H)} {a : Agent (Logged H)}
    (h : Blind (Agent.Like (Logged.Along Eq a.host.log)) f f) :
    (f a).2.host.log = a.host.log ++ logBy f a.plain := by
  have hlike : Agent.Like (Logged.Along Eq a.host.log) a a.plain.logged :=
    ⟨⟨rfl, (List.append_nil _).symm⟩, rfl, rfl⟩
  exact (h hlike).2.host.2

/-- Agents that cannot be told apart ask the same of their hosts. -/
theorem Blind.logBy_eq {R : H → K → Prop} {f : Agent (Logged H) → α × Agent (Logged H)}
    {g : Agent (Logged K) → α × Agent (Logged K)}
    (h : Blind (Agent.Like (Logged.Along R [])) f g) {a : Agent H} {b : Agent K}
    (hab : Agent.Like R a b) : logBy g b = logBy f a := by
  have hlike : Agent.Like (Logged.Along R []) a.logged b.logged :=
    ⟨⟨hab.host, rfl⟩, hab.phase, hab.owner⟩
  exact (h hlike).2.host.2.symm

section

variable [Host H]

/-- **What holds of a log of a pass holds of the log.** -/
theorem logOn_ends {p : Pass (Logged H) α} {q : Pass H α} (hblind : Blind Logged.Shows p q) {h : H}
    {Q : List Event → Except Error α → Prop} (hp : p.Ends ⟨h, []⟩ fun log r _ => Q log r) :
    Leads (logOn p h) h (q h).2 ∧ Q (logOn p h) (q h).1 := by
  obtain ⟨log, hleads, hq⟩ := hp
  obtain ⟨hresult, hafter⟩ := hblind (show Logged.Shows ⟨h, []⟩ h from rfl)
  obtain ⟨hhost, hlog⟩ := Leads.kept hleads
  have heq : logOn p h = log := hlog
  rw [hresult, ← hafter, heq]
  exact ⟨hhost, hq⟩

/-- **The same of a pass by an agent.** -/
theorem logBy_ends {p : Pass (Agent (Logged H)) α} {q : Pass (Agent H) α}
    (hblind : Blind (Agent.Like Logged.Shows) p q) {a : Agent H}
    {Q : List Event → Except Error α → Agent H → Prop}
    (hp : p.EndsOn Agent.host a.logged fun log r b => Q log r b.plain) :
    Leads (logBy p a) a.host (q a).2.host ∧ Q (logBy p a) (q a).1 (q a).2 := by
  obtain ⟨log, hleads, hq⟩ := hp
  have hrun : q a = ((p a.logged).1, (p a.logged).2.plain) := Blind.plain hblind a.logged
  obtain ⟨hhost, hlog⟩ := Leads.kept hleads
  have heq : logBy p a = log := hlog
  rw [hrun, heq]
  exact ⟨hhost, hq⟩

end

end HostAgent
