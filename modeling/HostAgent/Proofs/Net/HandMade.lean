import HostAgent.Proofs.Net.Held

/-!
# A resolver configuration made by hand

Without name servers of its own, the agent turns the resolver configuration into a link and keeps
what was there as the base. It does so in three requests, each of which may be the last one of its
pass: the copy, the link and the command that makes the file behind the link. Later passes find the
link, be there something behind it or not, and leave the base alone.

* `HandMadeKept` -- the contents are still in the resolver configuration, or in the base;
* `KeepsHandMade` -- the same with what later passes need;
* `KeepsHandMade.step`, `writeResolvConf_keeps` -- what single requests, and the resolver's part of a
  pass, keep;
* `Reaches` -- passes, with changes by others in between;
* `handMade_kept` -- the contents are kept at every point.
-/

namespace HostAgent

/-! ## 1. Links -/

namespace Scripted

variable {h h' : Scripted} {p q : Path} {plain plain' : Place → Prop}

/-- A link to a path that is none leads there. -/
theorem resolve_of_link (hp : h.linkAt? p = some q) (hq : h.linkAt? q = none) :
    h.resolve p = q := by
  have hp' : Assoc.get? p.components h.links = some q := hp
  have hq' : Assoc.get? q.components h.links = none := hq
  unfold resolve
  simp only [follow, hp', hq']

theorem Plain.mono (hplain : Plain plain h) (hsub : ∀ place, plain' place → plain place) :
    Plain plain' h := fun place hp => hplain place (hsub place hp)

/-- A copy that succeeds leaves in the second file what is in the first one. -/
theorem copy_read {source target : Path} (hc : Files.copy source target h = (.ok (), h')) {bs : Bytes}
    (hsource : h.fileAt? source = some bs) : h'.fileAt? target = some bs := by
  have hcopy : h.copyAt source target = (.ok (), h') := hc
  unfold copyAt at hcopy
  rw [show h.contents source = .ok bs from contents_eq_ok.mpr hsource] at hcopy
  rcases write_read hcopy with ⟨-, hfile⟩ | ⟨⟨e, he⟩, -⟩
  · exact hfile
  · cases he

end Scripted

namespace Net

/-! ## 2. What is kept -/

/-- The resolver configuration is still a file with the contents, or its base holds them. -/
def HandMadeKept (paths : NetPaths) (contents : Bytes) (h : Scripted) : Prop :=
  h.linkAt? paths.resolvConf = none ∧ h.fileAt? paths.resolvConf = some contents
    ∨ h.fileAt? paths.resolvconfBase = some contents

/-- Where contents that were made by hand are, with the links of the host. -/
inductive KeepsHandMade (paths : NetPaths) (contents : Bytes) (h : Scripted) : Prop where
  /-- they are where they were, and nothing is a link -/
  | untouched (plain : Scripted.Plain (fun _ => True) h)
      (file : h.fileAt? paths.resolvConf = some contents) : KeepsHandMade paths contents h
  /-- they are in the base, and the resolver configuration is the only link -/
  | saved (plain : Scripted.Plain (· ≠ paths.resolvConf.components) h)
      (link : h.linkAt? paths.resolvConf = some paths.resolvconfRun)
      (base : h.fileAt? paths.resolvconfBase = some contents) : KeepsHandMade paths contents h

section

variable {paths : NetPaths} {contents : Bytes} {h h' : Scripted}

theorem KeepsHandMade.kept (hk : KeepsHandMade paths contents h) : HandMadeKept paths contents h := by
  cases hk with
  | untouched plain file => exact Or.inl ⟨plain _ trivial, file⟩
  | saved _ _ base => exact Or.inr base

/-- The places of the resolver are three. -/
theorem resolver_places (hd : (filePlaces paths).Nodup) :
    paths.resolvConf.components ≠ paths.resolvconfBase.components
      ∧ paths.resolvconfRun.components ≠ paths.resolvConf.components
      ∧ paths.resolvconfRun.components ≠ paths.resolvconfBase.components := by
  simp only [filePlaces, List.map_cons, List.map_nil, List.nodup_cons, List.mem_cons,
    List.not_mem_nil, or_false, not_or] at hd
  obtain ⟨-, -, ⟨hbase, hrun⟩, hrun', -⟩ := hd
  exact ⟨hbase, fun heq => hrun heq.symm, fun heq => hrun' heq.symm⟩

/-- Nothing that matters has changed when the links and two of the files are the same. -/
theorem KeepsHandMade.of_same (hk : KeepsHandMade paths contents h) (hd : (filePlaces paths).Nodup)
    (hlinks : h'.links = h.links)
    (hconf : Assoc.get? paths.resolvConf.components h'.files
      = Assoc.get? paths.resolvConf.components h.files)
    (hbase : Assoc.get? paths.resolvconfBase.components h'.files
      = Assoc.get? paths.resolvconfBase.components h.files) : KeepsHandMade paths contents h' := by
  have hplain : ∀ {plain}, Scripted.Plain plain h → Scripted.Plain plain h' :=
    fun hp place hplace => by rw [hlinks]; exact hp place hplace
  cases hk with
  | untouched plain file =>
    have hfile : h'.fileAt? paths.resolvConf = h.fileAt? paths.resolvConf :=
      Scripted.fileAt?_congr (plain _ trivial) (hplain plain _ trivial) hconf
    exact .untouched (hplain plain) (hfile.trans file)
  | saved plain link base =>
    have hne : paths.resolvconfBase.components ≠ paths.resolvConf.components :=
      (resolver_places hd).1.symm
    have hfile : h'.fileAt? paths.resolvconfBase = h.fileAt? paths.resolvconfBase :=
      Scripted.fileAt?_congr (plain _ hne) (hplain plain _ hne) hbase
    exact .saved (hplain plain) ((Scripted.linkAt?_congr hlinks _).trans link) (hfile.trans base)

/-! ## 3. One request -/

/-- **A request that makes no link and spares both files** keeps the contents. -/
theorem KeepsHandMade.step {e : Event} (hk : KeepsHandMade paths contents h) (he : e.Moves h h')
    (hno : ∀ target path answer, e ≠ .linked target path answer)
    (hconf : e.Spares paths.resolvConf.components) (hbase : e.Spares paths.resolvconfBase.components)
    (hd : (filePlaces paths).Nodup) : KeepsHandMade paths contents h' := by
  cases hk with
  | untouched plain file =>
    have hrespects : e.Respects fun _ => True := by
      cases e with
      | linked target path answer => exact absurd rfl (hno target path answer)
      | _ => exact trivial
    exact .untouched (he.files plain hrespects).1
      ((he.file_kept plain hrespects trivial hconf).trans file)
  | saved plain link base =>
    have hrespects : e.Respects (· ≠ paths.resolvConf.components) := by
      cases e with
      | linked target path answer => exact absurd rfl (hno target path answer)
      | wrote path bytes answer => exact hconf
      | copied source target answer => exact hconf
      | _ => exact trivial
    have hlink : h'.linkAt? paths.resolvConf = h.linkAt? paths.resolvConf :=
      (Leads.single he).link_kept fun target path answer hmem =>
        absurd (List.mem_singleton.mp hmem).symm (hno target path answer)
    have hne : paths.resolvconfBase.components ≠ paths.resolvConf.components :=
      (resolver_places hd).1.symm
    exact .saved (he.files plain hrespects).1 (hlink.trans link)
      ((he.file_kept plain hrespects hne hbase).trans base)

/-- **The copy** leaves the resolver configuration as it is, and the contents in the base if it
    succeeds. -/
theorem copied_keeps {answer : Except Error Unit} (hd : (filePlaces paths).Nodup)
    (plain : Scripted.Plain (fun _ => True) h) (file : h.fileAt? paths.resolvConf = some contents)
    (he : Event.Moves (.copied paths.resolvConf paths.resolvconfBase answer) h h') :
    KeepsHandMade paths contents h'
      ∧ (answer = .ok () → h'.fileAt? paths.resolvconfBase = some contents) := by
  have hne : paths.resolvconfBase.components ≠ paths.resolvConf.components :=
    (resolver_places hd).1.symm
  have hfile : h'.fileAt? paths.resolvConf = h.fileAt? paths.resolvConf :=
    he.file_kept plain trivial trivial hne
  refine ⟨.untouched (he.files plain trivial).1 (hfile.trans file), ?_⟩
  rintro rfl
  exact Scripted.copy_read he file

/-- **The link** takes the place of the resolver configuration, and leaves the base as it is. -/
theorem linked_keeps {answer : Except Error Unit} (hd : (filePlaces paths).Nodup)
    (hk : KeepsHandMade paths contents h) (base : h.fileAt? paths.resolvconfBase = some contents)
    (he : Event.Moves (.linked paths.resolvconfRun paths.resolvConf answer) h h') :
    KeepsHandMade paths contents h' := by
  have hne : paths.resolvConf.components ≠ paths.resolvconfBase.components := (resolver_places hd).1
  have hplain : Scripted.Plain (· ≠ paths.resolvConf.components) h := by
    cases hk with
    | untouched plain _ => exact plain.mono fun _ _ => trivial
    | saved plain _ _ => exact plain
  have hrespects : Event.Respects (· ≠ paths.resolvConf.components)
      (.linked paths.resolvconfRun paths.resolvConf answer) := fun hno => hno rfl
  have hbase : h'.fileAt? paths.resolvconfBase = h.fileAt? paths.resolvconfBase :=
    he.file_kept hplain hrespects hne.symm hne
  refine .saved (he.files hplain hrespects).1 ?_ (hbase.trans base)
  have hh : (Scripted.linkAt paths.resolvconfRun paths.resolvConf h).2 = h' := congrArg Prod.snd he
  rw [← hh]
  show Assoc.get? paths.resolvConf.components (Assoc.set paths.resolvConf.components _ _) = _
  rw [Assoc.get?_set, if_pos rfl]

/-! ## 4. The resolver's part -/

variable {a : Agent (Logged Scripted)} {networks : Networks}

/-- The contents are copied unless they are in the base already; if this succeeds, they are. -/
theorem keepResolvConf_keeps (hd : (filePlaces paths).Nodup)
    (hk : KeepsHandMade paths contents a.host.host) :
    (keepResolvConf paths).EndsOn Agent.host a fun log r b =>
      Throughout (KeepsHandMade paths contents) log a.host.host
        ∧ (r = .ok () → b.host.host.fileAt? paths.resolvconfBase = some contents) := by
  have hfollow : (followLinks paths.resolvConf : Pass (Agent (Logged Scripted)) Path).EndsOn
      Agent.host a fun log r b => log = [] ∧ b = a ∧ ∀ target, r = .ok target →
        target = a.host.host.resolve paths.resolvConf := by
    refine .still rfl ⟨rfl, rfl, fun target hok => ?_⟩
    change atPath paths.resolvConf (a.host.host.destination paths.resolvConf) = .ok target at hok
    unfold Scripted.destination at hok
    split at hok
    · cases hok
      rfl
    · cases hok
  unfold keepResolvConf
  refine hfollow.within_bind ?_ ?_
  · intro _ target b _ h
    obtain ⟨rfl, rfl, htarget⟩ := h
    rw [htarget target rfl]
    cases hk with
    | untouched plain file =>
      have hsame : (b.host.host.resolve paths.resolvConf).same paths.resolvConf = true := by
        rw [Scripted.resolve_of_plain (plain _ trivial)]
        exact beq_self_eq_true _
      rw [if_pos hsame]
      refine (Pass.Ends.onHost (Pass.ends_copyFile _ _ b) fun log r c hlog _ _ => hlog).leads.within
        ?_
      intro log r c h
      obtain ⟨hleads, rfl⟩ := h
      cases hleads.kept.1 with
      | cons hcopied hnil =>
        cases hnil
        obtain ⟨hkept, hbase⟩ := copied_keeps hd plain file hcopied
        refine ⟨.single (.untouched plain file) hcopied hkept, fun hok => hbase ?_⟩
        cases r with
        | ok _ => rfl
        | error _ => cases hok
    | saved plain link base =>
      have hother : (b.host.host.resolve paths.resolvConf).same paths.resolvConf = false := by
        rw [Scripted.resolve_of_link link (plain _ (resolver_places hd).2.1)]
        exact beq_eq_false_iff_ne.mpr (resolver_places hd).2.1
      rw [hother]
      exact .done ⟨.nil (.saved plain link base), fun _ => base⟩
  · intro _ e b h
    obtain ⟨rfl, rfl, -⟩ := h
    exact ⟨.nil hk, nofun⟩

/-- A command keeps the contents. -/
theorem ran_keeps {c : CommandLine} {answer : Except Error Output} (hd : (filePlaces paths).Nodup)
    (hk : KeepsHandMade paths contents h) (he : Event.Moves (.ran c answer) h h') :
    KeepsHandMade paths contents h' :=
  hk.step he (fun _ _ _ => nofun) trivial trivial hd

/-- **The resolver's part of a pass** keeps the contents, wherever it stops. -/
theorem writeResolvConf_keeps (hd : (filePlaces paths).Nodup)
    (hk : KeepsHandMade paths contents a.host.host) (hnone : networks.nonVip.dnsServers = []) :
    (writeResolvConf paths networks).EndsOn Agent.host a fun log _ _ =>
      Throughout (KeepsHandMade paths contents) log a.host.host := by
  unfold writeResolvConf writeBase
  rw [hnone]
  refine (keepResolvConf_keeps hd hk).leads.bind ?_ ?_
  · intro copying _ b h
    obtain ⟨hleads, hthrough, hbase⟩ := h
    have hcopying : Leads copying a.host.host b.host.host := hleads.kept.1
    have hbefore : KeepsHandMade paths contents b.host.host := hthrough.last hcopying
    have hlink : (makeLink paths.resolvconfRun paths.resolvConf).EndsOn Agent.host b fun log _ c =>
        Throughout (KeepsHandMade paths contents) log b.host.host := by
      refine (Pass.Ends.onHost (Pass.ends_makeLink _ _ b) fun _ _ _ hlog _ _ => hlog).leads.mono ?_
      intro log r c h
      obtain ⟨hlinking, rfl⟩ := h
      cases hlinking.kept.1 with
      | cons hmoves hnil =>
        cases hnil
        exact .single hbefore hmoves (linked_keeps hd hbefore (hbase rfl) hmoves)
    refine hlink.leads.within_bind ?_ ?_
    · intro linking _ c _ h
      obtain ⟨hleads', hlinked⟩ := h
      have hlinking : Leads linking b.host.host c.host.host := hleads'.kept.1
      have hupdate : (runCommand "resolvconf" ["-u"]).EndsOn Agent.host c fun log _ _ =>
          Throughout (KeepsHandMade paths contents) log c.host.host := by
        refine (Pass.endsOn_runCommand _ _ c).leads.mono ?_
        intro log r d h
        obtain ⟨hupdating, rfl, -⟩ := h
        have hlast : KeepsHandMade paths contents c.host.host := hlinked.last hlinking
        cases hupdating.kept.1 with
        | cons hmoves hnil =>
          cases hnil
          exact .single hlast hmoves (ran_keeps hd hlast hmoves)
      have hboth : ∀ {log}, Throughout (KeepsHandMade paths contents) log c.host.host →
          Throughout (KeepsHandMade paths contents) (copying ++ (linking ++ log)) a.host.host :=
        fun hlog => hthrough.append hcopying (hlinked.append hlinking hlog)
      refine (hupdate.named _).returning (fun _ _ _ hlog => hboth hlog) fun _ _ _ hlog => hboth hlog
    · intro linking e c h
      exact hthrough.append hcopying h.2
  · intro log e b h
    exact h.2.1

/-! ## 5. A whole pass -/

/-- The request runs a command or writes a configuration file. -/
def RunsOrConfigures (paths : NetPaths) (e : Event) : Prop :=
  (∃ c answer, e = .ran c answer) ∨ WritesConfig paths e

theorem runsOrConfigures_of_ranOnly {commands : List CommandLine} {log : List Event}
    (hran : RanOnly commands log) : ∀ e ∈ log, RunsOrConfigures paths e := by
  intro e he
  obtain ⟨c, -, answer, rfl⟩ := hran.ran he
  exact Or.inl ⟨c, answer, rfl⟩

theorem Bounce.runsOrConfigures {interfaces names : List String} {log : List Event}
    (hb : Bounce paths interfaces names log) : ∀ e ∈ log, RunsOrConfigures paths e := by
  obtain ⟨quiet, writes, down, up, rfl, hquiet, hwrites⟩ := hb
  refine List.forall_mem_append.mpr ⟨runsOrConfigures_of_ranOnly hquiet, ?_⟩
  refine List.forall_mem_cons.mpr ⟨Or.inl ⟨_, down, rfl⟩, ?_⟩
  refine List.forall_mem_append.mpr ⟨fun e he => Or.inr (hwrites e he), ?_⟩
  exact List.forall_mem_singleton.mpr (Or.inl ⟨_, up, rfl⟩)

/-- From the detection of interfaces on, a pass runs commands and writes configuration files. -/
theorem Course.runsOrConfigures {log : List Event} {r : Except Error (List InterfaceAddress)}
    {phase : Phase} (hc : Course paths networks h log r phase)
    (hpre : networks.isPreconfigured = false) : ∀ e ∈ log, RunsOrConfigures paths e := by
  obtain ⟨kernel, bounce, check, rfl, hparts⟩ := hc.parts hpre (.nil paths) (.nil h)
  obtain ⟨_, hkernel, -⟩ := hparts.onKernel.ran
  obtain ⟨_, hcheck, -⟩ := hparts.checked.ran
  have hbounce : ∀ e ∈ bounce, RunsOrConfigures paths e := by
    rcases hparts.restart with rfl | ⟨_, _, _, -, -, -, -, hbounce⟩
    · exact nofun
    · exact hbounce.runsOrConfigures
  refine List.forall_mem_append.mpr ⟨List.forall_mem_append.mpr ⟨?_, hbounce⟩, ?_⟩
  · exact runsOrConfigures_of_ranOnly hkernel
  · exact runsOrConfigures_of_ranOnly hcheck

/-- Commands and configuration files do not matter to the resolver. -/
theorem Course.keeps {log : List Event} {r : Except Error (List InterfaceAddress)} {phase : Phase}
    (hc : Course paths networks h log r phase) (hpre : networks.isPreconfigured = false)
    (hd : (filePlaces paths).Nodup) (hk : KeepsHandMade paths contents h) :
    Throughout (KeepsHandMade paths contents) log h := by
  refine throughout_of_steps hk fun e he s t hmoves hs => ?_
  rcases hc.runsOrConfigures hpre e he with ⟨c, answer, rfl⟩ | ⟨path, bytes, answer, rfl, hpath⟩
  · exact ran_keeps hd hs hmoves
  · have hconf : path.components ≠ paths.resolvConf.components := fun heq =>
      not_written_resolvConf hd (heq ▸ IsConfigFile.written hpath)
    have hbase : path.components ≠ paths.resolvconfBase.components :=
      (base_ne_configFile hd hpath).symm
    exact hs.step hmoves (fun _ _ _ => nofun) hconf hbase hd

/-- **A pass without name servers** keeps the contents, wherever it stops. -/
theorem setupNetworking_keeps (hd : (filePlaces paths).Nodup)
    (hk : KeepsHandMade paths contents a.host.host) (hnone : networks.nonVip.dnsServers = []) :
    (setupNetworking paths networks).EndsOn Agent.host a fun log _ _ =>
      Throughout (KeepsHandMade paths contents) log a.host.host := by
  have hrest : ∀ b : Agent (Logged Scripted), b.phase = .idle → networks.isPreconfigured = false →
      KeepsHandMade paths contents b.host.host →
        (convergeConfigured paths networks).EndsOn Agent.host b fun log _ _ =>
          Throughout (KeepsHandMade paths contents) log b.host.host :=
    fun b hphase hpre hb => (convergeConfigured_goes hphase hpre).mono fun _ _ _ hcourse =>
      hcourse.keeps hpre hd hb
  unfold setupNetworking
  refine Pass.EndsOn.before (a := ()) (P := fun log b => log = [] ∧ b = { a with phase := .idle })
    (.unseen rfl rfl ⟨rfl, rfl, rfl⟩) ?_
  intro _ b h
  obtain ⟨rfl, rfl⟩ := h
  have hresolver := writeResolvConf_keeps (a := { a with phase := .idle }) hd hk hnone
  cases hpre : networks.isPreconfigured with
  | true =>
    rw [if_pos rfl]
    exact (hresolver.named _).returning (fun _ _ _ hlog => hlog) fun _ _ _ hlog => hlog
  | false =>
    rw [if_neg Bool.false_ne_true]
    refine Pass.EndsOn.returning (P := fun log _ _ =>
      Throughout (KeepsHandMade paths contents) log a.host.host) ?_ (fun _ _ _ hlog => hlog)
        fun _ _ _ hlog => hlog
    unfold convergeNetworks
    by_cases halias : networks.hasInterfaceAlias = true
    · obtain ⟨resolver, hleads, hthrough⟩ := hresolver
      obtain ⟨_, -, -, hphase⟩ := writeResolvConf_endsOn paths networks { a with phase := .idle }
      rw [if_pos halias]
      refine Pass.EndsOn.before (a := ()) (P := fun log b => log = resolver
        ∧ b = (writeResolvConf paths networks { a with phase := .idle }).2)
        ⟨resolver, hleads, rfl, rfl, rfl⟩ ?_
      intro _ b h
      obtain ⟨rfl, rfl⟩ := h
      refine (hrest _ hphase hpre (hthrough.last hleads.kept.1)).mono ?_
      exact fun rest _ _ hlog => hthrough.append hleads.kept.1 hlog
    · rw [if_neg halias]
      exact hrest _ rfl hpre hk

end

/-! ## 6. Passes, and others in between -/

/-- An agent after any number of passes over networks without name servers, each with any outcome.
    In between, others write what the resolver makes, and change anything but links and what is at
    two places: scripts and permissions among it. -/
inductive Reaches (paths : NetPaths) (a : Agent Scripted) : Agent Scripted → Prop where
  | start : Reaches paths a a
  | pass {b : Agent Scripted} (reached : Reaches paths a b) (networks : Networks)
      (serverless : networks.nonVip.dnsServers = []) :
      Reaches paths a (setupNetworking paths networks b).2
  | written {b : Agent Scripted} (reached : Reaches paths a b) (bytes : Bytes) :
      Reaches paths a { b with host := (b.host.writeAt paths.resolvconfRun bytes).2 }
  | others {b : Agent Scripted} {h : Scripted} (reached : Reaches paths a b)
      (links : h.links = b.host.links)
      (resolvConf : Assoc.get? paths.resolvConf.components h.files
        = Assoc.get? paths.resolvConf.components b.host.files)
      (resolvconfBase : Assoc.get? paths.resolvconfBase.components h.files
        = Assoc.get? paths.resolvconfBase.components b.host.files) :
      Reaches paths a { b with host := h }

/-- The same of a pass by an agent, at every point of its log. -/
theorem setupNetworking_throughout {paths : NetPaths} {networks : Networks} {contents : Bytes}
    {a : Agent Scripted} (hd : (filePlaces paths).Nodup) (hk : KeepsHandMade paths contents a.host)
    (hnone : networks.nonVip.dnsServers = []) :
    Leads (logBy (setupNetworking paths networks) a) a.host (setupNetworking paths networks a).2.host
      ∧ Throughout (KeepsHandMade paths contents) (logBy (setupNetworking paths networks) a) a.host :=
  logBy_ends (setupNetworking_blind Logged.inFront paths networks)
    (Q := fun log _ _ => Throughout (KeepsHandMade paths contents) log a.host)
    (setupNetworking_keeps (a := a.logged) hd hk hnone)

theorem Reaches.keeps {paths : NetPaths} {contents : Bytes} {a b : Agent Scripted}
    (hr : Reaches paths a b) (hd : (filePlaces paths).Nodup)
    (hk : KeepsHandMade paths contents a.host) : KeepsHandMade paths contents b.host := by
  induction hr with
  | start => exact hk
  | pass _ networks serverless ih =>
    obtain ⟨hleads, hthrough⟩ := setupNetworking_throughout hd ih serverless
    exact hthrough.last hleads
  | @written b _ bytes ih =>
    obtain ⟨-, hconf, hbase⟩ := resolver_places hd
    have hmoves : Event.Moves (.wrote paths.resolvconfRun bytes
        (b.host.writeAt paths.resolvconfRun bytes).1) b.host
        (b.host.writeAt paths.resolvconfRun bytes).2 := (Prod.eta _).symm
    exact ih.step hmoves (fun _ _ _ => nofun) hconf hbase hd
  | others _ links resolvConf resolvconfBase ih => exact ih.of_same hd links resolvConf resolvconfBase

/-- **A resolver configuration made by hand is never lost.** On a host without links it is kept
    through any number of passes over networks without name servers, whatever their commands answer
    and whichever writes fail, with anything written to the file behind the link in between; and in
    any further such pass it is kept at every point. -/
theorem handMade_kept (paths : NetPaths) {contents : Bytes} {a b : Agent Scripted}
    (hdistinct : (filePlaces paths).Nodup) (hlinks : a.host.links = [])
    (hfile : a.host.fileAt? paths.resolvConf = some contents) (hreach : Reaches paths a b) :
    HandMadeKept paths contents b.host
      ∧ ∀ networks : Networks, networks.nonVip.dnsServers = [] →
        let log := logBy (setupNetworking paths networks) b
        Leads log b.host (setupNetworking paths networks b).2.host
          ∧ (setupNetworking paths networks b).2.host.commands = b.host.commands ++ linesIn log
          ∧ Throughout (HandMadeKept paths contents) log b.host := by
  have hplain : Scripted.Plain (fun _ => True) a.host := fun place _ => by rw [hlinks]; rfl
  have hkept : KeepsHandMade paths contents b.host :=
    hreach.keeps hdistinct (.untouched hplain hfile)
  refine ⟨hkept.kept, fun networks hnone => ?_⟩
  obtain ⟨hleads, hthrough⟩ := setupNetworking_throughout hdistinct hkept hnone
  exact ⟨hleads, hleads.recorded.1, hthrough.mono fun _ h => h.kept⟩

/-- A network that is configured by other means. -/
def settledNetwork : Networks :=
  NameMap.ofList [("private", { ip := "10.0.0.5", netmask := "255.255.255.0", preconfigured := true })]

/-- A host whose resolver was configured by hand, and on which `resolvconf` fails. -/
def handMadeHost : Agent Scripted :=
  { host := (({} : Scripted).putFile ⟨"/etc/resolv.conf"⟩ (Utf8.encode "nameserver 10.0.0.53\n")).stand
      "resolvconf -u" (.failure 1 "busy") }

/-- The agent after a pass that fails, and a write to the file behind the link. -/
def linkedHost : Agent Scripted :=
  let failed := (setupNetworking {} settledNetwork handMadeHost).2
  { failed with host := (failed.host.writeAt ⟨"/run/resolvconf/resolv.conf"⟩ []).2 }

/-- The pass fails after it has made the link, and something else is behind it. The contents are in
    the base, and stay there in the next pass. -/
theorem handMade_kept_linkedHost :
    (filePlaces {}).Nodup ∧ handMadeHost.host.links = []
      ∧ (setupNetworking {} settledNetwork handMadeHost).1.isOk = false
      ∧ linkedHost.host.fileAt? ⟨"/etc/resolv.conf"⟩ = some []
      ∧ HandMadeKept {} (Utf8.encode "nameserver 10.0.0.53\n") linkedHost.host
      ∧ Throughout (HandMadeKept {} (Utf8.encode "nameserver 10.0.0.53\n"))
        (logBy (setupNetworking {} settledNetwork) linkedHost) linkedHost.host := by
  have hdistinct : (filePlaces {}).Nodup := by decide +kernel
  have hnone : settledNetwork.nonVip.dnsServers = [] := by decide +kernel
  have hfile : handMadeHost.host.fileAt? ⟨"/etc/resolv.conf"⟩
      = some (Utf8.encode "nameserver 10.0.0.53\n") := by decide +kernel
  have hreach : Reaches {} handMadeHost linkedHost := .written (.pass .start settledNetwork hnone) []
  obtain ⟨hkept, hnext⟩ := handMade_kept {} hdistinct rfl hfile hreach
  obtain ⟨-, -, hthrough⟩ := hnext settledNetwork hnone
  exact ⟨hdistinct, rfl, by decide +kernel, by decide +kernel, hkept, hthrough⟩

end Net

end HostAgent
