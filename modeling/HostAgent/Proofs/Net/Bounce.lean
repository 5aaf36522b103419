import HostAgent.Proofs.Files
import HostAgent.Proofs.Net.ConfigFiles
import HostAgent.Proofs.Net.Errors
import HostAgent.Proofs.Net.Records

/-!
# The restart of interfaces

What a pass over the network asks of its host until the interfaces are up: work on the resolver and
on the kernel, and a part that takes interfaces down. That part has one form: whatever fails in it,
it goes on until the interfaces are up again.

* `writeResolvConf_ends`, `setupIpv6_ends` -- the resolver and the kernel;
* `applyNetworkConfig_ends` -- interfaces down, files, interfaces up;
* `convergeFiles_ends` -- the same, if a file would change.
-/

namespace HostAgent.Net

/-! ## 1. Commands -/

def updateResolver : CommandLine := ⟨"resolvconf", ["-u"]⟩

def setSwitchLine (switch : String) : CommandLine := ⟨"sysctl", ["-w", switch]⟩

def killClients : CommandLine := ⟨"pkill", ["dhclient"]⟩

def dropLease (interface : String) : CommandLine := ⟨"resolvconf", ["-d", interface ++ ".dhclient"]⟩

def takeDown (names : List String) : CommandLine := ⟨"ifdown", "--force" :: names⟩

def bringUp (names : List String) : CommandLine := ⟨"ifup", "--force" :: names⟩

/-! ## 2. Parts of a log -/

/-- The request is about the resolver's own files. -/
def AboutResolver (paths : NetPaths) : Event → Prop
  | .wrote path _ _ => path = paths.resolvconfBase
  | .copied source target _ => source = paths.resolvConf ∧ target = paths.resolvconfBase
  | .linked _ path _ => path = paths.resolvConf
  | .ran c _ => c = updateResolver
  | .slept _ => False

/-- Work on the resolver: on its own files, with at most one command. -/
structure ResolverWork (paths : NetPaths) (log : List Event) : Prop where
  about : ∀ e ∈ log, AboutResolver paths e
  commands : commandsIn log = [] ∨ commandsIn log = [updateResolver]

/-- Switches of the kernel, set one after another up to some of them. -/
def KernelWork (log : List Event) : Prop :=
  ∃ switches, switches <+: ipv6Switches ∧ RanOnly (switches.map setSwitchLine) log

/-- Interfaces are restarted: what leases left is dropped for every interface of the host, then the
    named interfaces go down, files are written, and the same interfaces come up. -/
def Bounce (paths : NetPaths) (interfaces names : List String) (log : List Event) : Prop :=
  ∃ quiet writes downAnswer upAnswer,
    log = quiet ++ .ran (takeDown names) downAnswer :: (writes ++ [.ran (bringUp names) upAnswer])
      ∧ RanOnly (killClients :: interfaces.map dropLease) quiet
      ∧ ∀ e ∈ writes, WritesConfig paths e

theorem ResolverWork.nil (paths : NetPaths) : ResolverWork paths [] :=
  ⟨fun _ he => (List.not_mem_nil he).elim, Or.inl rfl⟩

theorem KernelWork.nil : KernelWork [] := ⟨[], List.nil_prefix, .nil⟩

theorem ResolverWork.command {paths : NetPaths} {log : List Event} (h : ResolverWork paths log)
    {c : CommandLine} (hc : c ∈ commandsIn log) : c = updateResolver := by
  rcases h.commands with hnone | hone
  · rw [hnone] at hc
    cases hc
  · rw [hone] at hc
    exact List.mem_singleton.mp hc

/-- The kernel's part is of commands alone, each of which sets a switch. -/
theorem KernelWork.ran {log : List Event} (h : KernelWork log) :
    ∃ commands, RanOnly commands log ∧ ∀ c ∈ commands, ∃ switch, c = setSwitchLine switch := by
  obtain ⟨switches, -, hran⟩ := h
  refine ⟨_, hran, fun c hc => ?_⟩
  obtain ⟨switch, -, rfl⟩ := List.mem_map.mp hc
  exact ⟨switch, rfl⟩

/-! ## 3. The resolver and the kernel -/

section

variable {H : Type} [Host H] (paths : NetPaths)

theorem keepResolvConf_ends (s : H) :
    (keepResolvConf paths).Ends s fun log _ _ =>
      commandsIn log = [] ∧ ∀ e ∈ log, AboutResolver paths e := by
  have hfollow : ((followLinks paths.resolvConf).within
      ("Reading " ++ paths.resolvConf.text)).Ends s fun log _ _ => log = [] :=
    Pass.EndsOn.named (Q := fun log _ => log = []) (.still rfl rfl) _
  refine hfollow.bind ?_ ?_
  · intro _ target t hlog
    subst hlog
    split
    · have hcopy : (copyFile paths.resolvConf paths.resolvconfBase).Ends t fun log _ _ =>
          commandsIn ([] ++ log) = [] ∧ ∀ e ∈ [] ++ log, AboutResolver paths e := by
        refine (Pass.ends_copyFile _ _ t).mono ?_
        intro log r u hlog
        subst hlog
        refine ⟨rfl, fun e he => ?_⟩
        rw [List.nil_append, List.mem_singleton] at he
        rw [he]
        exact ⟨rfl, rfl⟩
      exact hcopy.named _
    · exact .done ⟨rfl, fun e he => by cases he⟩
  · intro _ e t hlog
    subst hlog
    exact ⟨rfl, fun e he => by cases he⟩

theorem writeBase_ends (dnsServers : List String) (s : H) :
    (writeBase paths dnsServers).Ends s fun log _ _ =>
      commandsIn log = [] ∧ ∀ e ∈ log, AboutResolver paths e := by
  unfold writeBase
  split
  · exact keepResolvConf_ends paths s
  · refine (Pass.ends_writeFile _ _ s).within ?_
    intro log r t hlog
    subst hlog
    refine ⟨rfl, fun e he => ?_⟩
    rw [List.mem_singleton] at he
    rw [he]
    rfl

/-- **The resolver's part** stays with the resolver's files. -/
theorem writeResolvConf_ends (networks : Networks) (s : H) :
    (writeResolvConf paths networks).Ends s fun log _ _ => ResolverWork paths log := by
  refine (writeBase_ends paths _ s).bind ?_ ?_
  · intro based _ t h
    obtain ⟨hcommands, habout⟩ := h
    have hlink : (makeLink paths.resolvconfRun paths.resolvConf).Ends t fun log _ _ =>
        ∃ answer, log = [.linked paths.resolvconfRun paths.resolvConf answer] :=
      (Pass.ends_makeLink _ _ t).mono fun log r _ h => ⟨r, h⟩
    have hupdate : ∀ u : H, (runCommand "resolvconf" ["-u"]).Ends u fun log _ _ =>
        ∃ answer, log = [.ran updateResolver answer] :=
      Pass.ends_command _ _
    have hlinked : ∀ answer, ∀ e ∈ based ++ [.linked paths.resolvconfRun paths.resolvConf answer],
        AboutResolver paths e := by
      intro answer e he
      rcases List.mem_append.mp he with he | he
      · exact habout e he
      · rw [List.mem_singleton.mp he]
        rfl
    have hall : ∀ answer answer', ResolverWork paths
        (based ++ ([.linked paths.resolvconfRun paths.resolvConf answer]
          ++ [.ran updateResolver answer'])) := by
      intro answer answer'
      rw [← List.append_assoc]
      refine ⟨fun e he => ?_, Or.inr ?_⟩
      · rcases List.mem_append.mp he with he | he
        · exact hlinked answer e he
        · rw [List.mem_singleton.mp he]
          rfl
      · rw [commandsIn_append, commandsIn_append, hcommands]
        rfl
    refine (hlink.named _).bind ?_ ?_
    · intro _ _ u h
      obtain ⟨answer, rfl⟩ := h
      refine ((hupdate u).named _).returning ?_ ?_
      · intro _ output v h
        obtain ⟨answer', rfl⟩ := h
        exact hall answer answer'
      · intro _ e v h
        obtain ⟨answer', rfl⟩ := h
        exact hall answer answer'
    · intro _ e u h
      obtain ⟨answer, rfl⟩ := h
      refine ⟨hlinked answer, Or.inl ?_⟩
      rw [commandsIn_append, hcommands]
      rfl
  · intro log e t h
    obtain ⟨hcommands, habout⟩ := h
    exact ⟨habout, Or.inl hcommands⟩

theorem setSwitches_ends (switches : List String) (s : H) :
    (Pass.forEach switches setSwitch).Ends s fun log _ _ =>
      ∃ done, done <+: switches ∧ RanOnly (done.map setSwitchLine) log := by
  induction switches generalizing s with
  | nil => exact .done ⟨[], List.prefix_rfl, .nil⟩
  | cons switch switches ih =>
    have hset : (setSwitch switch).Ends s fun log _ _ =>
        ∃ answer, log = [.ran (setSwitchLine switch) answer] := by
      have hrun : (runCommand "sysctl" ["-w", switch]).Ends s fun log _ _ =>
          ∃ answer, log = [.ran (setSwitchLine switch) answer] :=
        Pass.ends_command _ _ s
      exact (hrun.named _).returning (fun _ _ _ hlog => hlog) fun _ _ _ hlog => hlog
    refine hset.bind ?_ ?_
    · intro _ _ t h
      obtain ⟨answer, rfl⟩ := h
      refine (ih t).mono ?_
      intro more r u h
      obtain ⟨done, hdone, hran⟩ := h
      exact ⟨switch :: done, List.cons_prefix_cons.mpr ⟨rfl, hdone⟩, .cons ⟨answer, rfl⟩ hran⟩
    · intro _ e t h
      obtain ⟨answer, rfl⟩ := h
      exact ⟨[switch], List.cons_prefix_cons.mpr ⟨rfl, List.nil_prefix⟩,
        .cons ⟨answer, rfl⟩ .nil⟩

/-- **The kernel's part** sets switches, in order. -/
theorem setupIpv6_ends (enable : Bool) (s : H) :
    (setupIpv6 enable).Ends s fun log r _ => KernelWork log
      ∧ ∀ e, r = .error e → ∃ e', e = .context "Enabling IPv6 in kernel" e' := by
  unfold setupIpv6
  split
  · refine (setSwitches_ends ipv6Switches s).within fun log r _ hlog => ⟨hlog, fun e he => ?_⟩
    cases r with
    | ok u => cases he
    | error e' =>
      cases he
      exact ⟨e', rfl⟩
  · exact .done ⟨⟨[], List.nil_prefix, .nil⟩, fun _ he => by cases he⟩

end

/-! ## 4. Interfaces -/

section

variable {H : Type} [Host H]

/-- A command whose outcome nobody waits for. -/
theorem ignoredCommand_ends (name : String) (args : List String) (a : Agent H) :
    (runCommand name args).ignored.EndsOn Agent.host a fun log r b =>
      r = .ok () ∧ (∃ answer, log = [.ran ⟨name, args⟩ answer]) ∧ b.phase = a.phase :=
  (Pass.endsOn_runCommand name args a).ignored fun _ r _ ⟨hlog, hphase⟩ =>
    ⟨rfl, ⟨r, hlog⟩, hphase⟩

theorem dropLeases_ends (interfaces : List String) (a : Agent H) :
    (Pass.forEach interfaces dropLeaseRecord).EndsOn Agent.host a fun log r b =>
      r = .ok () ∧ RanOnly (interfaces.map dropLease) log ∧ b.phase = a.phase := by
  induction interfaces generalizing a with
  | nil => exact .done ⟨rfl, .nil, rfl⟩
  | cons interface interfaces ih =>
    refine (ignoredCommand_ends "resolvconf" ["-d", interface ++ ".dhclient"] a).before ?_
    intro _ b h
    obtain ⟨⟨answer, rfl⟩, hphase⟩ := h
    refine (ih b).mono ?_
    intro more r c h
    obtain ⟨hr, hran, hphase'⟩ := h
    exact ⟨hr, .cons ⟨answer, rfl⟩ hran, hphase'.trans hphase⟩

theorem runInterfaceCommand_ends (command : String) {names : List String} (hnames : names ≠ [])
    (a : Agent H) :
    (runInterfaceCommand command names).EndsOn Agent.host a fun log r b =>
      r = .ok () ∧ (∃ answer, log = [.ran ⟨command, "--force" :: names⟩ answer])
        ∧ b.phase = a.phase := by
  unfold runInterfaceCommand
  rw [if_neg (fun h => hnames (List.isEmpty_iff.mp h))]
  exact ignoredCommand_ends command ("--force" :: names) a

/-- A step to a phase that may follow. -/
theorem advance_ends {phase next : Phase} {a : Agent H} (hphase : a.phase = phase)
    (h : phase.canBecome next = true) :
    (advance next : Pass (Agent H) Unit).EndsOn Agent.host a fun log r b =>
      r = .ok () ∧ log = [] ∧ b = { a with phase := next } := by
  have hnext : (advance next : Pass (Agent H) Unit) a = (.ok (), { a with phase := next }) := by
    unfold advance Phase.advance
    rw [hphase, if_pos h]
  exact .unseen hnext rfl ⟨rfl, rfl, rfl⟩

end

/-! ## 5. The restart -/

/-- Which interfaces a host has does not depend on its script and its record. -/
theorem macsUnder_script (h : Scripted) (directory : Path) (recorded : List String)
    (queued : List (String × List Reply)) :
    macsUnder { h with commands := recorded, queued } directory = macsUnder h directory := rfl

/-- The interfaces of an agent's host, looked for as a step of a pass. -/
theorem detectMacs_ends {H : Type} [Host H] {directory : Path} {found : NameMap String}
    {a : Agent H} (step : String) (hfound : macsUnder a.host directory = .ok found) :
    ((detectMacs directory).within step).EndsOn Agent.host a fun log r b =>
      r = .ok found ∧ log = [] ∧ b = a := by
  have hdetect : ((detectMacs directory).within step) a = (.ok found, a) := by
    rw [Pass.within_apply]
    show (Except.mapError _ (macsUnder a.host directory), a) = _
    rw [hfound]
    rfl
  exact .still hdetect ⟨rfl, rfl, rfl⟩

section

variable {paths : NetPaths} {found : NameMap String} {a : Agent (Logged Scripted)}

/-- What leases left is dropped for every interface: the interfaces are found again, since no
    command changes them. -/
theorem removeDhcpDns_ends (hfound : macsUnder a.host.host paths.sysClassNet = .ok found) :
    (removeDhcpDns paths).EndsOn Agent.host a fun log r b =>
      r = .ok () ∧ RanOnly (killClients :: found.values.map dropLease) log
        ∧ b.phase = a.phase := by
  have hkill := (ignoredCommand_ends "pkill" ["dhclient"] a).leads.mono
    (Q := fun log r b => r = .ok () ∧ (∃ answer, log = [.ran killClients answer])
      ∧ b.phase = a.phase ∧ macsUnder b.host.host paths.sysClassNet = .ok found) ?_
  · refine hkill.before ?_
    intro _ b h
    obtain ⟨⟨answer, rfl⟩, hphase, hagain⟩ := h
    refine (detectMacs_ends _ hagain).before ?_
    intro _ c h
    obtain ⟨rfl, rfl⟩ := h
    refine (dropLeases_ends found.values c).mono ?_
    intro more r d h
    obtain ⟨hr, hmore, hphase'⟩ := h
    exact ⟨hr, .cons ⟨answer, rfl⟩ hmore, hphase'.trans hphase⟩
  · intro _ r b h
    obtain ⟨hlog, hr, ⟨answer, rfl⟩, hphase⟩ := h
    have hran : RanOnly [killClients] [.ran killClients answer] := .cons ⟨answer, rfl⟩ .nil
    obtain ⟨recorded, queued, hb⟩ := hran.host hlog.kept.1
    refine ⟨hr, ⟨answer, rfl⟩, hphase, ?_⟩
    rw [hb, macsUnder_script, hfound]

/-- Interfaces are restarted from a host on, and the files converge while they are down. -/
inductive Restarted (paths : NetPaths) (config : NetworkConfig) (interfaces : List String)
    (h : Scripted) : List Event → Except Error Bool → Prop where
  | intro {quiet writes : List Event} {down up : Except Error Output} {h₁ : Scripted}
      {r : Except Error Bool} (calm : RanOnly (killClients :: interfaces.map dropLease) quiet)
      (stopping : Leads (quiet ++ [.ran (takeDown config.interfaceNames) down]) h h₁)
      (writing : FilesConverged paths config h₁ writes r) :
      Restarted paths config interfaces h
        (quiet ++ .ran (takeDown config.interfaceNames) down
          :: (writes ++ [.ran (bringUp config.interfaceNames) up])) r

/-- The host is brought to a configuration, from the idle phase on: nothing is done when the files
    hold their texts already, else interfaces are restarted. -/
inductive Converges (paths : NetPaths) (config : NetworkConfig) (interfaces : List String)
    (h : Scripted) : List Event → Except Error Unit → Phase → Prop where
  | unchanged (held : filesHold paths h config = true) :
      Converges paths config interfaces h [] (.ok ()) .idle
  | restarted {log : List Event} {changed : Bool} (stale : filesHold paths h config = false)
      (restart : Restarted paths config interfaces h log (.ok changed)) :
      Converges paths config interfaces h log (.ok ()) .started
  | stopped {log : List Event} {e : Error} (stale : filesHold paths h config = false)
      (restart : Restarted paths config interfaces h log (.error e)) (inOrder : e.inOrder = true) :
      Converges paths config interfaces h log
        (.error (.context "Updating network configuration" e)) .stopped

theorem Restarted.bounce {config : NetworkConfig} {interfaces : List String} {h : Scripted}
    {log : List Event} {r : Except Error Bool} (hr : Restarted paths config interfaces h log r) :
    Bounce paths interfaces config.interfaceNames log := by
  cases hr with
  | intro calm _ writing => exact ⟨_, _, _, _, rfl, calm, fun e he => writing.writes he⟩

/-- The commands of a restart: writes are none. -/
theorem Bounce.commands {interfaces names : List String} {log : List Event}
    (h : Bounce paths interfaces names log) :
    commandsIn log = killClients :: interfaces.map dropLease ++ [takeDown names, bringUp names] := by
  obtain ⟨quiet, writes, down, up, rfl, hquiet, hwriting⟩ := h
  have hwrites : commandsIn writes = [] := by
    refine List.filterMap_eq_nil_iff.mpr fun e he => ?_
    obtain ⟨path, contents, answer, rfl, -⟩ := hwriting e he
    rfl
  rw [← List.singleton_append, commandsIn_append, commandsIn_append, commandsIn_append, hwrites,
    hquiet.commandsIn_eq]
  rfl

theorem Restarted.commands {config : NetworkConfig} {interfaces : List String} {h : Scripted}
    {log : List Event} {r : Except Error Bool} (hr : Restarted paths config interfaces h log r) :
    commandsIn log = killClients :: interfaces.map dropLease
      ++ [takeDown config.interfaceNames, bringUp config.interfaceNames] := hr.bounce.commands

/-- **Once the clients are killed, the interfaces go down and come up again**, whatever fails. -/
theorem applyNetworkConfig_ends (config : NetworkConfig) (hphase : a.phase = .idle)
    (hnames : config.interfaceNames ≠ [])
    (hfound : macsUnder a.host.host paths.sysClassNet = .ok found)
    (hstale : filesHold paths a.host.host config = false) :
    (applyNetworkConfig paths config).EndsOn Agent.host a fun log r b =>
      Converges paths config found.values a.host.host log r b.phase := by
  refine (removeDhcpDns_ends hfound).before_leads ?_
  intro quiet b hkilled h
  obtain ⟨hquiet, hb⟩ := h
  refine (runInterfaceCommand_ends "ifdown" hnames b).before_leads ?_
  intro _ c hdown h
  obtain ⟨⟨down, rfl⟩, hc⟩ := h
  have hstopping : Leads (quiet ++ [.ran (takeDown config.interfaceNames) down]) a.host c.host :=
    hkilled.append hdown
  refine (advance_ends (hc.trans (hb.trans hphase)) rfl).before ?_
  intro _ d h
  obtain ⟨rfl, rfl⟩ := h
  have hrestart : ∀ writes r up, FilesConverged paths config c.host.host writes r →
      Restarted paths config found.values a.host.host
        (quiet ++ ([.ran (takeDown config.interfaceNames) down]
          ++ ([] ++ (writes ++ [.ran (bringUp config.interfaceNames) up])))) r :=
    fun writes r up hwriting => .intro hquiet hstopping.kept.1 hwriting
  have hwrite : (writeNetworkConfigs paths config.interfaces config.dhclient? false
      : Pass (Agent (Logged Scripted)) Bool).EndsOn Agent.host { c with phase := .stopped }
        fun log r e => FilesConverged paths config c.host.host log r ∧ e.phase = .stopped :=
    (writeNetworkConfigs_ends paths config _).onHost fun log r e hlog he _ => ⟨hlog.onHost.shown, he⟩
  have htried := (hwrite.errors (writeNetworkConfigs_inOrder paths _ _ false)).tried
    (Q := fun log r e => ∃ written, r = .ok written
      ∧ (FilesConverged paths config c.host.host log written ∧ e.phase = .stopped) ∧ InOrder written)
    fun _ r _ h => ⟨r, rfl, h⟩
  refine htried.bind ?_ ?_
  · intro writes written e h
    obtain ⟨_, hr, ⟨hwriting, he⟩, hinOrder⟩ := h
    cases hr
    cases written with
    | error fault =>
      refine (runInterfaceCommand_ends "ifup" hnames e).before ?_
      intro _ f h
      obtain ⟨⟨up, rfl⟩, hf⟩ := h
      refine .failed ?_
      rw [hf, he]
      exact .stopped hstale (hrestart writes _ up hwriting) (hinOrder fault rfl)
    | ok changed =>
      refine (advance_ends he rfl).before ?_
      intro _ f h
      obtain ⟨rfl, rfl⟩ := h
      refine (runInterfaceCommand_ends "ifup" hnames _).before ?_
      intro _ g h
      obtain ⟨⟨up, rfl⟩, hg⟩ := h
      refine (advance_ends hg rfl).mono ?_
      intro _ r i h
      obtain ⟨rfl, rfl, rfl⟩ := h
      exact .restarted hstale (hrestart writes _ up hwriting)
  · intro log fault e h
    obtain ⟨written, hr, -⟩ := h
    cases hr

/-- **Files that would change make the interfaces restart**; files that would not are left alone. -/
theorem convergeFiles_ends (config : NetworkConfig) (hphase : a.phase = .idle)
    (hnames : config.interfaceNames ≠ [])
    (hfound : macsUnder a.host.host paths.sysClassNet = .ok found) :
    (convergeFiles paths config).EndsOn Agent.host a fun log r b =>
      Converges paths config found.values a.host.host log r b.phase := by
  have hlook : ((writeNetworkConfigs paths config.interfaces config.dhclient? true).within
      "Checking network configuration for changes") a
        = (.ok (!filesHold paths a.host.host config), a) := by
    rw [Pass.within_apply, writeNetworkConfigs_dry]
    rfl
  refine Pass.EndsOn.before (P := fun log b => log = [] ∧ b = a) (.still hlook ⟨rfl, rfl, rfl⟩) ?_
  intro _ b h
  obtain ⟨rfl, rfl⟩ := h
  cases hholds : filesHold paths b.host.host config with
  | true =>
    refine .done ?_
    rw [hphase]
    exact .unchanged hholds
  | false => exact applyNetworkConfig_ends config hphase hnames hfound hholds

end

end HostAgent.Net
