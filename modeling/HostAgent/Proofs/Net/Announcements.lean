import HostAgent.Proofs.Logged
import HostAgent.Proofs.Net.Blind
import HostAgent.Proofs.Net.Checks
import Mathlib.Logic.Function.Iterate

/-!
# Every address is announced

Addresses are announced one after another, and what becomes of one of them does not keep the next one
from its turn. An address ends in one of four ways: its interface does not appear, the host does not
have the address, the address is one of IPv6, or it is announced as often as it is to be, whatever
each announcement is answered.

* `Announcement` -- the four ways, each with its log and with the failure of the address;
* `announce_ends` -- one address goes one of them; `announceEach_ends` -- every address does;
* `announceAll_log` -- the log of an announcement, turn by turn;
* `Announcements.onAir`, `Announcements.recorded` -- it is of the background, and what a scripted host
  has recorded of it;
* `announceAll_each` -- all addresses, and the first failure among them.
-/

namespace HostAgent.Net

section

variable {H : Type} [Host H] {s : H}

/-! ## 1. Looking for an interface -/

/-- The host after a number of pauses. -/
abbrev rested (delayMs : UInt64) (pauses : Nat) (s : H) : H := (Clock.sleep delayMs)^[pauses] s

/-- The log of a number of pauses. -/
def pauseLog (delayMs : UInt64) (pauses : Nat) : List Event := List.replicate pauses (.slept delayMs)

theorem leads_pauseLog (delayMs : UInt64) (pauses : Nat) (s : H) :
    Leads (pauseLog delayMs pauses) s (rested delayMs pauses s) := by
  induction pauses generalizing s with
  | zero => exact .nil s
  | succ pauses ih => exact .cons rfl (ih (Clock.sleep delayMs s))

/-- Something goes by the path after so many pauses, and not before. -/
structure AppearsAfter (delayMs : UInt64) (path : Path) (s : H) (pauses : Nat) : Prop where
  absent : ∀ j < pauses, Files.present (rested delayMs j s) path = false
  there : Files.present (rested delayMs pauses s) path = true

/-- **Looking goes on until something is there**, or until there were as many looks as there may
    be. -/
theorem awaitPresence_apply (delayMs : UInt64) (path : Path) (left : Nat) (s : H) :
    (∃ k ≤ left, AppearsAfter delayMs path s k
        ∧ awaitPresence delayMs path left s = (.ok true, rested delayMs k s))
      ∨ (∀ j ≤ left, Files.present (rested delayMs j s) path = false)
        ∧ awaitPresence delayMs path left s = (.ok false, rested delayMs left s) := by
  induction left generalizing s with
  | zero =>
    have hlook : awaitPresence delayMs path 0 s = (.ok (Files.present s path), s) := rfl
    cases hpresent : Files.present s path with
    | true =>
      rw [hpresent] at hlook
      exact Or.inl ⟨0, Nat.le_refl 0, ⟨nofun, hpresent⟩, hlook⟩
    | false =>
      rw [hpresent] at hlook
      refine Or.inr ⟨fun j hj => ?_, hlook⟩
      obtain rfl : j = 0 := Nat.le_zero.mp hj
      exact hpresent
  | succ left ih =>
    have hlook : awaitPresence delayMs path (left + 1) s
        = if Files.present s path = true then (.ok true, s)
          else awaitPresence delayMs path left (Clock.sleep delayMs s) := by
      show (if Files.present s path = true then _ else _ : Pass H Bool) s = _
      split <;> rfl
    cases hpresent : Files.present s path with
    | true =>
      rw [hpresent, if_pos rfl] at hlook
      exact Or.inl ⟨0, Nat.zero_le _, ⟨nofun, hpresent⟩, hlook⟩
    | false =>
      rw [hpresent, if_neg Bool.false_ne_true] at hlook
      -- the remaining looks are those from the state after one pause
      rcases ih (Clock.sleep delayMs s) with ⟨k, hk, happears, hawait⟩ | ⟨habsent, hawait⟩
      · refine Or.inl ⟨k + 1, Nat.succ_le_succ hk, ⟨fun j hj => ?_, happears.there⟩,
          hlook.trans hawait⟩
        cases j with
        | zero => exact hpresent
        | succ j => exact happears.absent j (Nat.lt_of_succ_lt_succ hj)
      · refine Or.inr ⟨fun j hj => ?_, hlook.trans hawait⟩
        cases j with
        | zero => exact hpresent
        | succ j => exact habsent j (Nat.le_of_succ_le_succ hj)

/-- The error for an interface that is not there. -/
def absence (interface : String) : Error :=
  .broadcast ("interface '" ++ interface ++ "' did not appear")

/-- An interface is waited for: it appears with one of the looks that the policy allows, or with none
    of them. -/
theorem awaitInterface_apply (policy : ArpingPolicy) (directory : Path) (interface : String)
    (s : H) :
    (∃ k < policy.checks, AppearsAfter policy.checkDelayMs (directory.join interface) s k
        ∧ awaitInterface policy directory interface s = (.ok (), rested policy.checkDelayMs k s))
      ∨ (∀ j < policy.checks,
          Files.present (rested policy.checkDelayMs j s) (directory.join interface) = false)
        ∧ awaitInterface policy directory interface s = (.error (absence interface),
          rested policy.checkDelayMs (policy.checks - 1) s) := by
  have hone : 1 ≤ policy.checks := Nat.le_max_left _ _
  rcases awaitPresence_apply policy.checkDelayMs (directory.join interface) (policy.checks - 1) s
    with ⟨k, hk, happears, hawait⟩ | ⟨habsent, hawait⟩
  · exact Or.inl ⟨k, by omega, happears, Pass.bind_ok hawait⟩
  · exact Or.inr ⟨fun j hj => habsent j (by omega), Pass.bind_ok hawait⟩

/-! ## 2. One address -/

/-- What is asked of the host for an address: nothing when it is known, else one command. -/
inductive Asked : InterfaceAddress → List Event → Prop where
  | known (interface ip : String) : Asked (.immediate interface ip) []
  | host (interface : String) (answer : Except Error Output) :
      Asked (.resolving interface) [.ran ⟨"ip", ["-j", "addr", "show", "dev", interface]⟩ answer]

/-- The command that announces an address once. -/
def arpingLine (interface ip : String) : CommandLine :=
  ⟨"arping", ["-c", "1", "-U", "-I", interface, ip]⟩

/-- The log of announcements with their answers, and a pause between any two of them. -/
def arpingLog (delayMs : UInt64) (interface ip : String) (answers : List (Except Error Output)) :
    List Event :=
  (answers.map (Event.ran (arpingLine interface ip))).intersperse (.slept delayMs)

/-- The error of an answer. -/
def failure? : Except Error Output → Option Error
  | .ok _ => none
  | .error e => some e

/-- The turn of one address: its log, and its failure if it has one. -/
structure Turn where
  log : List Event
  fault : Option Error

/-- What becomes of an address, from a state of the host on. -/
inductive Announcement (policy : ArpingPolicy) (directory : Path) (address : InterfaceAddress)
    (s : H) : Turn → Prop where
  /-- the interface is not there at any look -/
  | missing (absent : ∀ j < policy.checks,
        Files.present (rested policy.checkDelayMs j s) (directory.join address.interface) = false) :
      Announcement policy directory address s
        ⟨pauseLog policy.checkDelayMs (policy.checks - 1), some (absence address.interface)⟩
  /-- the interface has no address -/
  | unresolved {k : Nat} {asked : List Event} {e : Error} {t : H} (looks : k < policy.checks)
      (appears : AppearsAfter policy.checkDelayMs (directory.join address.interface) s k)
      (asks : Asked address asked)
      (resolves : address.resolve (rested policy.checkDelayMs k s) = (.error e, t)) :
      Announcement policy directory address s ⟨pauseLog policy.checkDelayMs k ++ asked, some e⟩
  /-- the address is not one that is announced -/
  | version6 {k : Nat} {asked : List Event} {ip : String} {v6 : Ip.V6} {t : H}
      (looks : k < policy.checks)
      (appears : AppearsAfter policy.checkDelayMs (directory.join address.interface) s k)
      (asks : Asked address asked)
      (resolves : address.resolve (rested policy.checkDelayMs k s) = (.ok ip, t))
      (spared : Ip.Address.parse? ip = some (.v6 v6)) :
      Announcement policy directory address s ⟨pauseLog policy.checkDelayMs k ++ asked, none⟩
  /-- the address is announced as often as the policy says, whatever the answers are -/
  | announced {k : Nat} {asked : List Event} {ip : String} {answers : List (Except Error Output)}
      {t : H} (looks : k < policy.checks)
      (appears : AppearsAfter policy.checkDelayMs (directory.join address.interface) s k)
      (asks : Asked address asked)
      (resolves : address.resolve (rested policy.checkDelayMs k s) = (.ok ip, t))
      (due : ∀ v6, Ip.Address.parse? ip ≠ some (.v6 v6))
      (number : answers.length = policy.iterations.toNat) :
      Announcement policy directory address s
        ⟨pauseLog policy.checkDelayMs k
          ++ (asked ++ arpingLog policy.iterationDelayMs address.interface ip answers),
          answers.findSome? failure?⟩

theorem resolve_ends (address : InterfaceAddress) (s : H) :
    (address.resolve).Ends s fun log _ _ => Asked address log := by
  cases address with
  | immediate interface ip => exact .done (.known interface ip)
  | resolving interface =>
    refine Pass.EndsOn.within_bind (Pass.ends_command _ _ s) ?_ ?_
    · intro log output t _ h
      obtain ⟨answer, rfl⟩ := h
      refine Pass.EndsOn.bind (P := fun log _ _ => log = []) (.ofResult rfl) ?_ ?_
      · intro _ addresses u h
        obtain rfl := h
        split
        · exact .done (.host interface answer)
        · exact .failed (.host interface answer)
      · intro _ e u h
        obtain rfl := h
        exact .host interface answer
    · intro log e t h
      obtain ⟨answer, rfl⟩ := h
      exact .host interface answer

/-- One announcement, and what it was answered. -/
theorem arping_ends (interface ip : String) (s : H) :
    (arping interface ip).Ends s fun log r _ => ∃ answer,
      log = [.ran (arpingLine interface ip) answer] ∧ r = .ok (failure? answer) := by
  refine Pass.ends_tried_bind fun answer t => ?_
  cases answer with
  | ok output => exact .done ⟨.ok output, rfl, rfl⟩
  | error e => exact .done ⟨.error e, rfl, rfl⟩

/-- **An address is announced as often as it is to be**, whatever each announcement is answered. -/
theorem arpings_ends (delayMs : UInt64) (interface ip : String) (count : Nat) (s : H) :
    (arpings delayMs interface ip count).Ends s fun log r _ => ∃ answers,
      answers.length = count ∧ log = arpingLog delayMs interface ip answers
        ∧ r = .ok (answers.findSome? failure?) := by
  induction count using arpings.induct generalizing s with
  | case1 => exact .done ⟨[], rfl, rfl, rfl⟩
  | case2 =>
    refine (arping_ends interface ip s).mono fun log r t h => ?_
    obtain ⟨answer, rfl, rfl⟩ := h
    exact ⟨[answer], rfl, rfl, by cases answer <;> rfl⟩
  | case3 count ih =>
    unfold arpings
    refine (arping_ends interface ip s).bind ?_ ?_
    · intro log first t h
      obtain ⟨answer, rfl, hfirst⟩ := h
      cases hfirst
      refine (Pass.ends_sleep delayMs t).before ?_
      intro _ u h
      obtain rfl := h
      refine (ih u).returning ?_ ?_
      · intro more later v h
        obtain ⟨answers, hnumber, rfl, hlater⟩ := h
        cases hlater
        refine ⟨answer :: answers, congrArg Nat.succ hnumber, ?_, ?_⟩
        · cases answers with
          | nil => cases hnumber
          | cons next answers => rfl
        · cases answer <;> rfl
      · intro more e v h
        obtain ⟨_, _, _, hlater⟩ := h
        cases hlater
    · intro log e t h
      obtain ⟨_, _, hfirst⟩ := h
      cases hfirst

theorem isVersion6Text_iff {ip : String} :
    isVersion6Text ip = true ↔ ∃ v6, Ip.Address.parse? ip = some (.v6 v6) := by
  unfold isVersion6Text
  split
  · rename_i v6 hparse
    exact ⟨fun _ => ⟨v6, hparse⟩, fun _ => rfl⟩
  · rename_i hother
    exact ⟨nofun, fun ⟨v6, hparse⟩ => absurd hparse (hother v6)⟩

/-- **One address goes one of the ways.** -/
theorem announce_ends (policy : ArpingPolicy) (directory : Path) (address : InterfaceAddress)
    (s : H) :
    (announce policy directory address).Ends s fun log r _ => ∃ fault,
      Announcement policy directory address s ⟨log, fault⟩ ∧ r = verdict fault := by
  unfold announce
  rcases awaitInterface_apply policy directory address.interface s
    with ⟨k, hk, happears, hawait⟩ | ⟨habsent, hawait⟩
  · refine Pass.EndsOn.before (a := ()) (P := fun log t => log = pauseLog policy.checkDelayMs k
      ∧ t = rested policy.checkDelayMs k s) (.known hawait (leads_pauseLog _ _ _) ⟨rfl, rfl, rfl⟩) ?_
    intro _ t h
    obtain ⟨rfl, rfl⟩ := h
    obtain ⟨asked, hleads, hasked⟩ := resolve_ends address (rested policy.checkDelayMs k s)
    rcases hresolve : address.resolve (rested policy.checkDelayMs k s) with ⟨r, u⟩
    rw [hresolve] at hleads
    cases r with
    | error e =>
      exact .known (Pass.bind_error hresolve) hleads
        ⟨some e, .unresolved hk happears hasked hresolve, rfl⟩
    | ok ip =>
      refine Pass.EndsOn.before (a := ip) (P := fun log _ => log = asked)
        (.known hresolve hleads ⟨rfl, rfl⟩) ?_
      intro _ v h
      obtain rfl := h
      split
      · rename_i h6
        obtain ⟨v6, hparse⟩ := isVersion6Text_iff.mp h6
        refine .done ⟨none, ?_, rfl⟩
        rw [List.append_nil]
        exact .version6 hk happears hasked hresolve hparse
      · rename_i h4
        have hdue : ∀ v6, Ip.Address.parse? ip ≠ some (.v6 v6) :=
          fun v6 hparse => h4 (isVersion6Text_iff.mpr ⟨v6, hparse⟩)
        refine (arpings_ends _ _ _ _ v).bind ?_ ?_
        · intro more fault w h
          obtain ⟨answers, hnumber, rfl, hfault⟩ := h
          cases hfault
          have hturn := Announcement.announced hk happears hasked hresolve hdue hnumber
          split
          · rename_i hnone
            rw [hnone] at hturn
            refine .done ⟨none, ?_, rfl⟩
            rw [List.append_nil]
            exact hturn
          · rename_i e hsome
            rw [hsome] at hturn
            refine .failed ⟨some e, ?_, rfl⟩
            rw [List.append_nil]
            exact hturn
        · intro more e w h
          obtain ⟨_, _, _, hfault⟩ := h
          cases hfault
  · exact .known (Pass.bind_error hawait) (leads_pauseLog _ _ _) ⟨_, .missing habsent, rfl⟩

/-! ## 3. All addresses -/

/-- What becomes of addresses one after another: each has its turn in the state that the one before
    it has left, however that one ended. -/
inductive Announcements (policy : ArpingPolicy) (directory : Path) :
    H → List InterfaceAddress → List Turn → H → Prop where
  | nil (s : H) : Announcements policy directory s [] [] s
  | cons {s t u : H} {address : InterfaceAddress} {more : List InterfaceAddress} {turn : Turn}
      {turns : List Turn} (first : Announcement policy directory address s turn)
      (leads : Leads turn.log s t) (rest : Announcements policy directory t more turns u) :
      Announcements policy directory s (address :: more) (turn :: turns) u

/-- **Every address has its turn**, whatever becomes of the others. -/
theorem announceEach_ends (policy : ArpingPolicy) (directory : Path)
    (addresses : List InterfaceAddress) (s : H) :
    ∃ turns t, announceEach policy directory addresses s = (.ok (turns.findSome? Turn.fault), t)
      ∧ Announcements policy directory s addresses turns t := by
  induction addresses generalizing s with
  | nil => exact ⟨[], s, rfl, .nil s⟩
  | cons address more ih =>
    obtain ⟨log, hleads, fault, hturn, hfault⟩ := announce_ends policy directory address s
    obtain ⟨turns, u, hlater, hrest⟩ := ih (announce policy directory address s).2
    refine ⟨⟨log, fault⟩ :: turns, u, ?_, .cons hturn hleads hrest⟩
    unfold announceEach
    refine (Pass.bind_ok (Pass.tried_apply _ s)).trans ?_
    refine (Pass.bind_ok hlater).trans ?_
    rw [hfault]
    cases fault with
    | none => rfl
    | some e => rfl

end

/-- What happens in the turns leads from the first state to the last. -/
theorem Announcements.leads {H : Type} [Host H] {policy : ArpingPolicy} {directory : Path} {s t : H}
    {addresses : List InterfaceAddress} {turns : List Turn}
    (h : Announcements policy directory s addresses turns t) :
    Leads (turns.flatMap Turn.log) s t := by
  induction h with
  | nil s => exact .nil s
  | cons _ hleads _ ih =>
    rw [List.flatMap_cons]
    exact hleads.append ih

/-! ## 4. The log -/

section

variable {H : Type} [Host H] {policy : ArpingPolicy} {directory : Path} {a b : Agent (Logged H)}
  {address : InterfaceAddress} {turn : Turn} {addresses : List InterfaceAddress} {turns : List Turn}

theorem rested_plain (delayMs : UInt64) (pauses : Nat) (a : Agent (Logged H)) :
    rested delayMs pauses a.plain = (rested delayMs pauses a).plain := by
  have hsleep : Function.Semiconj (Agent.plain (H := H)) (Clock.sleep delayMs)
      (Clock.sleep delayMs) := fun _ => rfl
  exact (hsleep.iterate_right pauses a).symm

theorem AppearsAfter.plain {delayMs : UInt64} {path : Path} {k : Nat}
    (h : AppearsAfter delayMs path a k) : AppearsAfter delayMs path a.plain k := by
  refine ⟨fun j hj => ?_, ?_⟩
  · rw [rested_plain]
    exact h.absent j hj
  · rw [rested_plain]
    exact h.there

/-- What becomes of an address does not depend on whether a log is kept. -/
theorem Announcement.plain (h : Announcement policy directory address a turn) :
    Announcement policy directory address a.plain turn := by
  have hresolve : ∀ {k r t}, address.resolve (rested policy.checkDelayMs k a) = (r, t) →
      address.resolve (rested policy.checkDelayMs k a.plain) = (r, t.plain) := by
    intro k r t hr
    have hblind := resolve_blind (Logged.likeness (H := H)).agent address
    rw [rested_plain, hblind.plain, hr]
  cases h with
  | missing absent =>
    refine .missing fun j hj => ?_
    rw [rested_plain]
    exact absent j hj
  | unresolved looks appears asks resolves =>
    exact .unresolved looks appears.plain asks (hresolve resolves)
  | version6 looks appears asks resolves spared =>
    exact .version6 looks appears.plain asks (hresolve resolves) spared
  | announced looks appears asks resolves due number =>
    exact .announced looks appears.plain asks (hresolve resolves) due number

theorem Announcements.plain (h : Announcements policy directory a addresses turns b) :
    Announcements policy directory a.plain addresses turns b.plain := by
  induction h with
  | nil a => exact .nil a.plain
  | cons first hleads _ ih => exact .cons first.plain hleads.plain ih

end

/-- **The log of an announcement** is that of all turns, one after another. -/
theorem announceAll_log {H : Type} [Host H] (policy : ArpingPolicy) (directory : Path)
    (addresses : List InterfaceAddress) (a : Agent H) :
    ∃ turns, Announcements policy directory a addresses turns
        (announceAll policy directory addresses a).2
      ∧ logBy (announceAll policy directory addresses) a = turns.flatMap Turn.log := by
  obtain ⟨turns, b, heach, hturns⟩ := announceEach_ends policy directory addresses a.logged
  have hafter : (announceAll policy directory addresses a.logged).2 = b := by
    refine (congrArg Prod.snd (Pass.bind_ok heach)).trans ?_
    cases turns.findSome? Turn.fault <;> rfl
  have hplain : (announceAll policy directory addresses a).2 = b.plain := by
    have hblind := announceAll_blind (Logged.likeness (H := H)).agent policy directory addresses
    rw [← hafter]
    exact congrArg Prod.snd (hblind.plain a.logged)
  refine ⟨turns, ?_, ?_⟩
  · rw [hplain]
    exact hturns.plain
  · have hlog : b.host.log = turns.flatMap Turn.log := (leads_host hturns.leads).1.kept.2
    rw [← hlog, ← hafter]
    rfl

/-! ## 5. On a scripted host -/

/-- The request is to run a command of the background, or to wait. -/
def OnAir : Event → Prop
  | .ran c _ => isBackground c.text = true
  | .slept _ => True
  | _ => False

/-- Such requests change the script and the records alone. -/
theorem leads_recorded {log : List Event} {h h' : Scripted} (hl : Leads log h h')
    (hlog : ∀ e ∈ log, OnAir e) :
    ∃ queued, h' = { h with commands := h.commands ++ linesIn log, queued,
                            sleeps := h.sleeps ++ pausesIn log } := by
  obtain ⟨hcommands, hsleeps⟩ := hl.recorded
  have hkept : ∃ commands queued sleeps, h' = { h with commands, queued, sleeps } := by
    refine hl.keeps (I := fun s => ∃ commands queued sleeps,
      s = { h with commands, queued, sleeps }) ⟨h.commands, h.queued, h.sleeps, rfl⟩ ?_
    intro e he s t hmoves hs
    obtain ⟨commands, queued, sleeps, rfl⟩ := hs
    cases e with
    | ran c answer =>
      obtain ⟨queued', hrun⟩ := Scripted.run_snd c { h with commands, queued, sleeps }
      have ht : (Commands.run c { h with commands, queued, sleeps }).2 = t := congrArg Prod.snd hmoves
      exact ⟨_, _, _, ht.symm.trans hrun⟩
    | slept ms => exact ⟨_, _, _, Eq.symm hmoves⟩
    | wrote _ _ _ => exact absurd (hlog _ he) id
    | linked _ _ _ => exact absurd (hlog _ he) id
    | copied _ _ _ => exact absurd (hlog _ he) id
  obtain ⟨commands, queued, sleeps, rfl⟩ := hkept
  exact ⟨queued, by rw [← hcommands, ← hsleeps]⟩

theorem pauseLog_onAir (delayMs : UInt64) (pauses : Nat) :
    ∀ e ∈ pauseLog delayMs pauses, OnAir e := by
  intro e he
  rw [List.eq_of_mem_replicate he]
  trivial

theorem Asked.onAir {address : InterfaceAddress} {log : List Event} (h : Asked address log) :
    ∀ e ∈ log, OnAir e := by
  cases h with
  | known interface ip => exact nofun
  | host interface answer => exact List.forall_mem_singleton.mpr (isBackground_dev interface)

section

variable {delayMs : UInt64} {interface ip : String} {answers : List (Except Error Output)}

/-- The log of one more announcement, in front of others. -/
theorem arpingLog_cons_cons (answer next : Except Error Output) :
    arpingLog delayMs interface ip (answer :: next :: answers)
      = .ran (arpingLine interface ip) answer :: .slept delayMs
        :: arpingLog delayMs interface ip (next :: answers) := rfl

theorem arpingLog_onAir :
    ∀ e ∈ arpingLog delayMs interface ip answers, OnAir e := by
  have hran : ∀ answer, OnAir (.ran (arpingLine interface ip) answer) :=
    fun _ => isBackground_arping _
  induction answers with
  | nil => exact nofun
  | cons answer more ih =>
    cases more with
    | nil => exact List.forall_mem_singleton.mpr (hran answer)
    | cons next more =>
      rw [arpingLog_cons_cons]
      exact List.forall_mem_cons.mpr ⟨hran answer, List.forall_mem_cons.mpr ⟨trivial, ih⟩⟩

/-- The line of an announcement as it is shown. -/
theorem arpingLine_text (interface ip : String) :
    (arpingLine interface ip).text = "arping -c 1 -U -I " ++ interface ++ " " ++ ip := by
  apply String.toList_inj.mp
  rw [arpingLine, CommandLine.text_toList]
  simp [Text.joinWith]

/-- **There are as many lines as announcements**, and one pause less. -/
theorem arpingLog_recorded :
    linesIn (arpingLog delayMs interface ip answers)
        = List.replicate answers.length ("arping -c 1 -U -I " ++ interface ++ " " ++ ip)
      ∧ pausesIn (arpingLog delayMs interface ip answers)
        = List.replicate (answers.length - 1) delayMs := by
  rw [← arpingLine_text]
  induction answers with
  | nil => exact ⟨rfl, rfl⟩
  | cons answer more ih =>
    cases more with
    | nil => exact ⟨rfl, rfl⟩
    | cons next more =>
      rw [arpingLog_cons_cons]
      exact ⟨congrArg (_ :: ·) ih.1, congrArg (_ :: ·) ih.2⟩

end

theorem Announcement.onAir {H : Type} [Host H] {policy : ArpingPolicy} {directory : Path}
    {address : InterfaceAddress} {s : H} {turn : Turn}
    (h : Announcement policy directory address s turn) : ∀ e ∈ turn.log, OnAir e := by
  cases h with
  | missing _ => exact pauseLog_onAir _ _
  | unresolved _ _ asks _ =>
    exact List.forall_mem_append.mpr ⟨pauseLog_onAir _ _, asks.onAir⟩
  | version6 _ _ asks _ _ =>
    exact List.forall_mem_append.mpr ⟨pauseLog_onAir _ _, asks.onAir⟩
  | announced _ _ asks _ _ _ =>
    exact List.forall_mem_append.mpr ⟨pauseLog_onAir _ _,
      List.forall_mem_append.mpr ⟨asks.onAir, arpingLog_onAir⟩⟩

theorem Announcements.onAir {H : Type} [Host H] {policy : ArpingPolicy} {directory : Path} {s t : H}
    {addresses : List InterfaceAddress} {turns : List Turn}
    (h : Announcements policy directory s addresses turns t) :
    ∀ e ∈ turns.flatMap Turn.log, OnAir e := by
  induction h with
  | nil s => exact nofun
  | cons first _ _ ih =>
    rw [List.flatMap_cons]
    exact List.forall_mem_append.mpr ⟨first.onAir, ih⟩

/-- **A scripted host has recorded all turns**, one after another, and its files are as before. -/
theorem Announcements.recorded {policy : ArpingPolicy} {directory : Path}
    {addresses : List InterfaceAddress} {turns : List Turn} {h h' : Scripted}
    (ha : Announcements policy directory h addresses turns h') :
    ∃ queued, h' = { h with
      commands := h.commands ++ turns.flatMap fun turn => linesIn turn.log
      queued
      sleeps := h.sleeps ++ turns.flatMap fun turn => pausesIn turn.log } := by
  induction ha with
  | nil h => exact ⟨h.queued, by rw [List.flatMap_nil, List.flatMap_nil, List.append_nil,
      List.append_nil]⟩
  | cons first leads _ ih =>
    obtain ⟨queued, rfl⟩ := leads_recorded leads first.onAir
    obtain ⟨queued', rfl⟩ := ih
    refine ⟨queued', ?_⟩
    rw [List.flatMap_cons, List.flatMap_cons, ← List.append_assoc, ← List.append_assoc]

/-- Nothing happens to the files of a scripted host while it waits: an interface is there at the first
    look, or at none. -/
theorem appearsAfter_iff {h : Scripted} {delayMs : UInt64} {path : Path} {k : Nat} :
    AppearsAfter delayMs path h k ↔ k = 0 ∧ Files.present h path = true := by
  have hstill : ∀ j, Files.present (rested delayMs j h) path = Files.present h path := by
    intro j
    obtain ⟨queued, hrested⟩ := leads_recorded (leads_pauseLog delayMs j h)
      (pauseLog_onAir delayMs j)
    rw [hrested]
    rfl
  constructor
  · intro happears
    have hthere : Files.present h path = true := (hstill k).symm.trans happears.there
    refine ⟨Nat.eq_zero_of_not_pos fun hpos => ?_, hthere⟩
    have habsent := happears.absent 0 hpos
    rw [hstill, hthere] at habsent
    cases habsent
  · rintro ⟨rfl, hthere⟩
    exact ⟨nofun, hthere⟩

/-! ## 6. The announcement -/

/-- **No address silences another one**, on any host. Every address has its turn, in order, however
    the earlier ones went: its interface is looked for as often as the policy says, at least once,
    with one pause between two looks; if it appears, the address is resolved; and unless that fails or
    the address is one of IPv6, it is announced as often as the policy says, whatever each
    announcement is answered. The announcement as a whole succeeds exactly if no address failed, and
    else fails with the failure of the first address that did.

    A scripted host records the lines and the pauses of all turns one after another, and nothing else
    changes on it; an interface that it has is found at the first look. Announcements of an address
    are so many equal lines, and one pause less. -/
theorem announceAll_each (policy : ArpingPolicy) (directory : Path)
    (addresses : List InterfaceAddress) :
    (∀ {H : Type} [Host H] (s : H), ∃ turns,
        Announcements policy directory s addresses turns
            (announceAll policy directory addresses s).2
          ∧ ((announceAll policy directory addresses s).1 = .ok ()
            ↔ ∀ turn ∈ turns, turn.fault = none)
          ∧ ∀ e, (announceAll policy directory addresses s).1 = .error e
            ↔ ∃ before turn after, turns = before ++ turn :: after ∧ turn.fault = some e
              ∧ ∀ earlier ∈ before, earlier.fault = none)
      ∧ (∀ {turns : List Turn} {h h' : Scripted},
        Announcements policy directory h addresses turns h' → ∃ queued, h' = { h with
          commands := h.commands ++ turns.flatMap fun turn => linesIn turn.log
          queued
          sleeps := h.sleeps ++ turns.flatMap fun turn => pausesIn turn.log })
      ∧ (∀ {h : Scripted} {delayMs : UInt64} {path : Path} {k : Nat},
        AppearsAfter delayMs path h k ↔ k = 0 ∧ Files.present h path = true)
      ∧ ∀ {delayMs : UInt64} {interface ip : String} {answers : List (Except Error Output)},
        linesIn (arpingLog delayMs interface ip answers)
            = List.replicate answers.length ("arping -c 1 -U -I " ++ interface ++ " " ++ ip)
          ∧ pausesIn (arpingLog delayMs interface ip answers)
            = List.replicate (answers.length - 1) delayMs := by
  refine ⟨fun s => ?_, Announcements.recorded, appearsAfter_iff, arpingLog_recorded⟩
  obtain ⟨turns, t, heach, hturns⟩ := announceEach_ends policy directory addresses s
  have hall : announceAll policy directory addresses s
      = (verdict (turns.findSome? Turn.fault), t) := by
    refine (Pass.bind_ok heach).trans ?_
    cases turns.findSome? Turn.fault <;> rfl
  rw [hall]
  refine ⟨turns, hturns, ?_, fun e => ?_⟩
  · rw [← List.findSome?_eq_none_iff]
    cases turns.findSome? Turn.fault with
    | none => exact ⟨fun _ => rfl, fun _ => rfl⟩
    | some e => exact ⟨nofun, nofun⟩
  · rw [← List.findSome?_eq_some_iff]
    cases turns.findSome? Turn.fault with
    | none => exact ⟨nofun, nofun⟩
    | some e' =>
      exact ⟨fun h => congrArg some (Except.error.inj h), fun h => congrArg _ (Option.some.inj h)⟩

/-- Two announcements of each address, and at most three looks at its interface. -/
def hastyPolicy : ArpingPolicy :=
  { iterations := 2, iterationDelayMs := 7, checkAttempts := 3, checkDelayMs := 5 }

/-- A host with one interface, whose first announcement fails. -/
def oneInterfaceHost : Scripted :=
  ({} : Scripted).addNetworkDevice ⟨"/sys/class/net"⟩ "eth0" "00:15:5d:00:00:01"
    |>.queue "arping -c 1 -U -I eth0 10.0.0.5" (.failure 2 "Device busy")

/-- Addresses of an interface that is not there, of IPv6 and of IPv4. -/
def mixedAddresses : List InterfaceAddress :=
  [.immediate "eth9" "10.0.0.9", .immediate "eth0" "fe80::1", .immediate "eth0" "10.0.0.5"]

/-- The first of them fails, and the last one is announced all the same. -/
theorem announceAll_each_mixed :
    ∃ turns, Announcements hastyPolicy ⟨"/sys/class/net"⟩ oneInterfaceHost mixedAddresses turns
        (announceAll hastyPolicy ⟨"/sys/class/net"⟩ mixedAddresses oneInterfaceHost).2
      ∧ (turns.flatMap fun turn => linesIn turn.log)
        = ["arping -c 1 -U -I eth0 10.0.0.5", "arping -c 1 -U -I eth0 10.0.0.5"]
      ∧ (turns.flatMap fun turn => pausesIn turn.log) = [5, 5, 7]
      ∧ turns.findSome? Turn.fault = some (absence "eth9") := by
  obtain ⟨hruns, hrecorded, -, -⟩ :=
    announceAll_each hastyPolicy ⟨"/sys/class/net"⟩ mixedAddresses
  obtain ⟨turns, hturns, -, hfault⟩ := hruns oneInterfaceHost
  obtain ⟨queued, hhost⟩ := hrecorded hturns
  have hlines := congrArg Scripted.commands hhost
  have hpauses := congrArg Scripted.sleeps hhost
  refine ⟨turns, hturns, ?_, ?_, ?_⟩
  · exact hlines.symm.trans (by decide +kernel)
  · exact hpauses.symm.trans (by decide +kernel)
  · rw [List.findSome?_eq_some_iff]
    exact (hfault _).mp (by decide +kernel)

end HostAgent.Net
