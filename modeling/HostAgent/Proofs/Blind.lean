import HostAgent.Proofs.Log
import HostAgent.Retry

/-!
# What a pass cannot see

A pass sees of a state what its requests are answered. A likeness relates states, of one host or of
two, in which every request is answered alike and which stay related; commands may be left out of
that. A pass that runs no such command is blind: it ends alike from related states, and leaves them
related. Passes in a row are blind when each of them is.

One likeness is about the background. Addresses are announced there, with commands of their own, and
two hosts are alike in front when they differ at most in what those commands would be answered.

* `Likeness`, `Likeness.agent` -- states, and agents, that cannot be told apart;
* `Blind` -- passes that cannot tell them apart, with one rule per combinator and request;
* `isBackground`, `foreground_of_tool` -- which command lines are of the background, and which not;
* `Scripted.Alike`, `Scripted.likeness` -- hosts that are alike in front.
-/

namespace HostAgent

/-! ## 1. Likenesses -/

/-- Run from related states, both end alike, and leave the states related. -/
def Blind {S T α : Type} (R : S → T → Prop) (p : S → α × S) (q : T → α × T) : Prop :=
  ∀ ⦃s : S⦄ ⦃t : T⦄, R s t → (q t).1 = (p s).1 ∧ R (p s).2 (q t).2

/-- Files look the same in related states, and every request, as long as its commands are allowed,
    is answered alike and leaves the states related. -/
structure Likeness {S T : Type} [Host S] [Host T] (allowed : CommandLine → Prop)
    (R : S → T → Prop) : Prop where
  contents : ∀ {s t}, R s t → Files.contents t = Files.contents s
  present : ∀ {s t}, R s t → Files.present t = Files.present s
  entries : ∀ {s t}, R s t → Files.entries t = Files.entries s
  destination : ∀ {s t}, R s t → Files.destination t = Files.destination s
  run : ∀ {c}, allowed c → Blind R (Commands.run c) (Commands.run c)
  write : ∀ path contents, Blind R (Files.write path contents) (Files.write path contents)
  link : ∀ target path, Blind R (Files.link target path) (Files.link target path)
  copy : ∀ source target, Blind R (Files.copy source target) (Files.copy source target)
  sleep : ∀ milliseconds {s t}, R s t →
    R (Clock.sleep milliseconds s) (Clock.sleep milliseconds t)

/-- The agents remember the same, and their hosts are related. -/
structure Agent.Like {H K : Type} (R : H → K → Prop) (a : Agent H) (b : Agent K) : Prop where
  host : R a.host b.host
  phase : b.phase = a.phase
  owner : b.owner = a.owner

section

variable {S T : Type} [Host S] [Host T] {allowed : CommandLine → Prop} {R : S → T → Prop}

/-- Fewer commands can tell less apart. -/
theorem Likeness.mono {fewer : CommandLine → Prop} (h : Likeness allowed R)
    (hfewer : ∀ c, fewer c → allowed c) : Likeness fewer R :=
  { h with run := fun hc => h.run (hfewer _ hc) }

omit [Host S] [Host T] in
/-- What an agent asks of its host. -/
theorem Agent.Like.after {α : Type} {f : S → α × S} {g : T → α × T} (h : Blind R f g) :
    Blind (Agent.Like R) (fun a => a.after (f a.host)) fun b => b.after (g b.host) := by
  intro a b hab
  obtain ⟨hresult, hafter⟩ := h hab.host
  exact ⟨hresult, hafter, hab.phase, hab.owner⟩

/-- **Agents on hosts that cannot be told apart** cannot be told apart. -/
theorem Likeness.agent (h : Likeness allowed R) : Likeness allowed (Agent.Like R) where
  contents hab := h.contents hab.host
  present hab := h.present hab.host
  entries hab := h.entries hab.host
  destination hab := h.destination hab.host
  run hc := Agent.Like.after (h.run hc)
  write path contents := Agent.Like.after (h.write path contents)
  link target path := Agent.Like.after (h.link target path)
  copy source target := Agent.Like.after (h.copy source target)
  sleep ms _ _ hab := ⟨h.sleep ms hab.host, hab.phase, hab.owner⟩

end

/-! ## 2. Passes -/

namespace Blind

section

variable {S T α β : Type} {R : S → T → Prop} {p : Pass S α} {q : Pass T α}

theorem done (x : α) : Blind R (pure x : Pass S α) (pure x : Pass T α) := fun _ _ h => ⟨rfl, h⟩

theorem fail (e : Error) : Blind R (Pass.fail e : Pass S α) (Pass.fail e : Pass T α) :=
  fun _ _ h => ⟨rfl, h⟩

theorem ofResult (r : Except Error α) :
    Blind R (Pass.ofResult r : Pass S α) (Pass.ofResult r : Pass T α) := fun _ _ h => ⟨rfl, h⟩

theorem bind {f : α → Pass S β} {g : α → Pass T β} (hp : Blind R p q)
    (hf : ∀ x, Blind R (f x) (g x)) : Blind R (p >>= f) (q >>= g) := by
  intro s t hst
  obtain ⟨hresult, hafter⟩ := hp hst
  rcases hps : p s with ⟨r, s'⟩
  rcases hqt : q t with ⟨r', t'⟩
  rw [hps, hqt] at hresult hafter
  obtain rfl : r' = r := hresult
  cases r' with
  | ok x =>
    rw [Pass.bind_ok hps, Pass.bind_ok hqt]
    exact hf x hafter
  | error e =>
    rw [Pass.bind_error hps, Pass.bind_error hqt]
    exact ⟨rfl, hafter⟩

theorem within (hp : Blind R p q) (step : String) : Blind R (p.within step) (q.within step) := by
  intro s t hst
  obtain ⟨hresult, hafter⟩ := hp hst
  rw [Pass.within_apply, Pass.within_apply, hresult]
  exact ⟨rfl, hafter⟩

theorem tried (hp : Blind R p q) : Blind R p.tried q.tried := by
  intro s t hst
  obtain ⟨hresult, hafter⟩ := hp hst
  rw [Pass.tried_apply, Pass.tried_apply, hresult]
  exact ⟨rfl, hafter⟩

theorem ignored (hp : Blind R p q) : Blind R p.ignored q.ignored :=
  fun _ _ hst => ⟨rfl, (hp hst).2⟩

theorem forEach {l : List α} {f : α → Pass S Unit} {g : α → Pass T Unit}
    (hf : ∀ x ∈ l, Blind R (f x) (g x)) : Blind R (Pass.forEach l f) (Pass.forEach l g) := by
  induction l with
  | nil => exact .done ()
  | cons x l ih =>
    refine .bind (hf x List.mem_cons_self) fun _ => ih fun y hy => ?_
    exact hf y (List.mem_cons_of_mem _ hy)

/-- What is seen of the state is the same. -/
theorem reading {f : S → Except Error α} {g : T → Except Error α} (h : ∀ s t, R s t → g t = f s) :
    Blind R (fun s => (f s, s) : Pass S α) (fun t => (g t, t) : Pass T α) :=
  fun s t hst => ⟨h s t hst, hst⟩

theorem looking {f : S → α} {g : T → α} (h : ∀ s t, R s t → g t = f s) :
    Blind R (Pass.look f) (Pass.look g) := fun s t hst => ⟨congrArg Except.ok (h s t hst), hst⟩

end

end Blind

/-! ## 3. Requests -/

namespace Likeness

variable {S T α : Type} [Host S] [Host T] {allowed : CommandLine → Prop} {R : S → T → Prop}
  {p : Pass S α} {q : Pass T α}

/-- **A command that is allowed** is answered alike. -/
theorem runCommand (h : Likeness allowed R) {name : String} {args : List String}
    (hc : allowed ⟨name, args⟩) : Blind R (runCommand name args) (runCommand name args) := h.run hc

theorem loadFile (h : Likeness allowed R) (path : Path) :
    Blind R (loadFile path : Pass S Bytes) (loadFile path : Pass T Bytes) :=
  .reading fun _ _ hst => by rw [h.contents hst]

theorem filePresent (h : Likeness allowed R) (path : Path) :
    Blind R (filePresent path : Pass S Bool) (filePresent path : Pass T Bool) :=
  .looking fun _ _ hst => by rw [h.present hst]

theorem followLinks (h : Likeness allowed R) (path : Path) :
    Blind R (followLinks path : Pass S Path) (followLinks path : Pass T Path) :=
  .reading fun _ _ hst => by rw [h.destination hst]

theorem readText (h : Likeness allowed R) (path : Path) :
    Blind R (readText path : Pass S String) (readText path : Pass T String) :=
  .bind (h.loadFile path) fun _ => .ofResult _

theorem writeFile (h : Likeness allowed R) (path : Path) (contents : Bytes) :
    Blind R (writeFile path contents) (writeFile path contents) := h.write path contents

theorem makeLink (h : Likeness allowed R) (target link : Path) :
    Blind R (makeLink target link) (makeLink target link) := h.link target link

theorem copyFile (h : Likeness allowed R) (source target : Path) :
    Blind R (copyFile source target) (copyFile source target) := h.copy source target

theorem pause (h : Likeness allowed R) (milliseconds : UInt64) :
    Blind R (HostAgent.sleep milliseconds) (HostAgent.sleep milliseconds) :=
  fun _ _ hst => ⟨rfl, h.sleep milliseconds hst⟩

/-- Making a file hold some bytes looks at it first. -/
theorem convergeFile (h : Likeness allowed R) (path : Path) (contents : Bytes) (dryRun : Bool) :
    Blind R (convergeFile path contents dryRun) (convergeFile path contents dryRun) := by
  have hholds : ∀ s t, R s t → holds t path contents = holds s path contents := fun s t hst => by
    unfold holds
    rw [h.present hst, h.contents hst]
  refine .bind (.looking hholds) fun held => ?_
  split
  · exact .done _
  · split
    · exact .done _
    · exact .bind (h.writeFile path contents) fun _ => .done _

/-! ## 4. Retries -/

/-- A pass that is blind is so when it is tried again. -/
theorem attempts (h : Likeness allowed R) (hp : Blind R p q) (delayMs : UInt64)
    (number left : Nat) :
    Blind R (attemptsFrom delayMs (fun s => (Attempt.ofResult (p s).1, (p s).2)) number left)
      (attemptsFrom delayMs (fun t => (Attempt.ofResult (q t).1, (q t).2)) number left) := by
  induction left generalizing number with
  | zero =>
    intro s t hst
    obtain ⟨hresult, hafter⟩ := hp hst
    unfold attemptsFrom
    rw [hresult]
    cases (p s).1 with
    | ok x => exact ⟨rfl, hafter⟩
    | error e => exact ⟨rfl, hafter⟩
  | succ left ih =>
    intro s t hst
    obtain ⟨hresult, hafter⟩ := hp hst
    unfold attemptsFrom
    rw [hresult]
    cases (p s).1 with
    | ok x => exact ⟨rfl, hafter⟩
    | error e => exact ih (number + 1) (h.sleep delayMs hafter)

theorem retryPass (h : Likeness allowed R) (hp : Blind R p q) (policy : RetryPolicy) :
    Blind R (retryPass policy p) (retryPass policy q) :=
  h.attempts hp policy.delayMs 1 (policy.limit - 1)

end Likeness

/-! ## 5. Command lines -/

/-- The command line is one that addresses are announced with. -/
def isBackground (line : String) : Bool :=
  Text.hasStart "arping " line || Text.hasStart "ip -j addr show dev " line

/-- The command runs in front. -/
def InFront (c : CommandLine) : Prop := isBackground c.text = false

instance (c : CommandLine) : Decidable (InFront c) :=
  inferInstanceAs (Decidable (isBackground c.text = false))

/-- The tools that change something about the network. -/
def netTools : List String := ["resolvconf", "sysctl", "pkill", "ifdown", "ifup"]

/-- The tools for disks. -/
def diskTools : List String := ["parted", "lsblk", "blkid", "wipefs", "partprobe"]

/-- A command line starts with the name of its program. -/
theorem CommandLine.text_starts (c : CommandLine) : c.name.toList <+: c.text.toList := by
  obtain ⟨name, args⟩ := c
  cases args with
  | nil => exact List.prefix_rfl
  | cons arg args =>
    rw [text_toList]
    exact List.prefix_append _ _

/-- An announcement runs in the background. -/
theorem isBackground_arping (args : List String) :
    isBackground (CommandLine.mk "arping" ("-c" :: args)).text = true := by
  unfold isBackground
  rw [Bool.or_eq_true]
  refine Or.inl (Text.startsWith_iff.mpr ⟨Text.joinWith [' '] (("-c" :: args).map String.toList), ?_⟩)
  rw [CommandLine.text_toList]
  rfl

/-- So does the question for the address of one interface. -/
theorem isBackground_dev (interface : String) :
    isBackground (CommandLine.mk "ip" ["-j", "addr", "show", "dev", interface]).text = true := by
  unfold isBackground
  rw [Bool.or_eq_true]
  refine Or.inr (Text.startsWith_iff.mpr ⟨interface.toList, ?_⟩)
  rw [CommandLine.text_toList]
  rfl

/-- Two texts that one text starts with agree as far as both go. -/
theorem not_hasStart {start line : String} {name : List Char} (hname : name <+: line.toList)
    (hno : ¬ start.toList <+: name ∧ ¬ name <+: start.toList) :
    Text.hasStart start line = false := by
  rw [← Bool.not_eq_true]
  intro hstart
  rcases List.prefix_or_prefix_of_prefix (Text.startsWith_iff.mp hstart) hname with h | h
  · exact hno.1 h
  · exact hno.2 h

/-- **The tools that change networks and disks run in front.** -/
theorem foreground_of_tool {c : CommandLine} (hc : c.name ∈ netTools ++ diskTools) : InFront c := by
  have hno : ∀ name ∈ netTools ++ diskTools, ∀ start ∈ ["arping ", "ip -j addr show dev "],
      ¬ start.toList <+: name.toList ∧ ¬ name.toList <+: start.toList := by decide
  unfold InFront isBackground
  rw [Bool.or_eq_false_iff]
  exact ⟨not_hasStart c.text_starts (hno _ hc _ (by decide)),
    not_hasStart c.text_starts (hno _ hc _ (by decide))⟩

theorem Likeness.tool {S T : Type} [Host S] [Host T] {R : S → T → Prop} (h : Likeness InFront R)
    {name : String} (args : List String) (hname : name ∈ netTools ++ diskTools) :
    Blind R (HostAgent.runCommand name args) (HostAgent.runCommand name args) :=
  h.runCommand (foreground_of_tool hname)

/-! ## 6. Hosts that are alike in front -/

namespace Scripted

/-- The hosts differ at most in what commands of the background would be answered. -/
structure Alike (h k : Scripted) : Prop where
  same : k = { h with queued := k.queued, standing := k.standing }
  queued : ∀ line, isBackground line = false → Assoc.get? line k.queued = Assoc.get? line h.queued
  standing : ∀ line, isBackground line = false →
    Assoc.get? line k.standing = Assoc.get? line h.standing

variable {h k : Scripted} {c : CommandLine}

theorem Alike.commands (hk : h.Alike k) : k.commands = h.commands := by rw [hk.same]

/-- A reply to a command of the background makes no difference. -/
theorem Alike.stand {line : String} (hline : isBackground line = true) (reply : Reply)
    (h : Scripted) : h.Alike (h.stand line reply) := by
  refine ⟨rfl, fun _ _ => rfl, fun other hother => ?_⟩
  have hne : line ≠ other := by
    rintro rfl
    rw [hline] at hother
    cases hother
  show Assoc.get? other (Assoc.set line reply h.standing) = _
  rw [Assoc.get?_set, if_neg hne]

/-- A command of the foreground is answered alike. -/
theorem Alike.run (hc : InFront c) : Blind Alike (Commands.run c) (Commands.run c) := by
  intro h k hk
  have hcommands : k.commands = h.commands := hk.commands
  obtain ⟨hsame, hqueued, hstanding⟩ := hk
  change (runLine c.text k).1 = (runLine c.text h).1
    ∧ (runLine c.text h).2.Alike (runLine c.text k).2
  unfold InFront at hc
  generalize c.text = line at hc
  unfold runLine answer
  simp only [hqueued line hc, hstanding line hc, hcommands]
  split
  · rename_i r more hreplies
    refine ⟨rfl, ?_, fun other hother => ?_, hstanding⟩
    · rw [hsame]
    · show Assoc.get? other (Assoc.set line more k.queued)
        = Assoc.get? other (Assoc.set line more h.queued)
      rw [Assoc.get?_set, Assoc.get?_set, hqueued other hother]
  · refine ⟨rfl, ?_, hqueued, hstanding⟩
    rw [hsame]

/-- What does not look at the script does the same on hosts that are alike. -/
theorem Alike.request {α : Type} {f : Scripted → α × Scripted}
    (scriptless : ∀ h queued standing, f { h with queued, standing }
      = ((f h).1, { (f h).2 with queued, standing })) : Blind Alike f f := by
  intro h k hk
  obtain ⟨hsame, hqueued, hstanding⟩ := hk
  have hother : f k = ((f h).1, { (f h).2 with queued := k.queued, standing := k.standing }) := by
    rw [hsame]
    exact scriptless h k.queued k.standing
  -- the first host keeps its own script
  have hown : (f h).2 = { (f h).2 with queued := h.queued, standing := h.standing } :=
    congrArg Prod.snd (scriptless h h.queued h.standing)
  rw [hother]
  refine ⟨rfl, rfl, fun line hline => ?_, fun line hline => ?_⟩
  · rw [hown]
    exact hqueued line hline
  · rw [hown]
    exact hstanding line hline

theorem writeAt_scriptless (p : Path) (bs : Bytes) (h : Scripted)
    (queued : List (String × List Reply)) (standing : List (String × Reply)) :
    writeAt p bs { h with queued, standing }
      = ((h.writeAt p bs).1, { (h.writeAt p bs).2 with queued, standing }) := by
  unfold writeAt
  split
  · rfl
  · rfl

theorem copyAt_scriptless (source target : Path) (h : Scripted)
    (queued : List (String × List Reply)) (standing : List (String × Reply)) :
    copyAt source target { h with queued, standing }
      = ((h.copyAt source target).1, { (h.copyAt source target).2 with queued, standing }) := by
  have hcontents : contents { h with queued, standing } source = h.contents source := rfl
  unfold copyAt
  rw [hcontents]
  split
  · exact writeAt_scriptless target _ h queued standing
  · rfl

/-- **Nothing in front can tell the hosts apart**: files do not depend on the script, and every other
    command is answered alike. -/
theorem likeness : Likeness InFront Alike where
  contents hk := by rw [hk.same]; rfl
  present hk := by rw [hk.same]; rfl
  entries hk := by rw [hk.same]; rfl
  destination hk := by rw [hk.same]; rfl
  run hc := Alike.run hc
  write path contents := Alike.request (writeAt_scriptless path contents)
  link target path := Alike.request fun _ _ _ => rfl
  copy source target := Alike.request (copyAt_scriptless source target)
  sleep ms _ _ hk := (Alike.request (f := fun h => ((), Clock.sleep ms h)) (fun _ _ _ => rfl) hk).2

end Scripted

/-- The agents remember the same, and their hosts are alike in front. -/
abbrev Agent.Alike (a b : Agent Scripted) : Prop := Agent.Like Scripted.Alike a b

end HostAgent
