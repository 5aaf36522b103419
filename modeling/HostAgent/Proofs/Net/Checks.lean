import HostAgent.Proofs.Net.Bounce

/-!
# The checks

After files and interfaces the host is checked: whether it reports the fixed addresses, and whether
its resolver knows a server. The host is asked for its addresses at most once, and the first address
that is wrong counts.

* `AddressCheck`, `Resolves` -- the two checks and how they come out;
* `validateNetwork_ends` -- both, as the last part of a pass.
-/

namespace HostAgent.Net

/-! ## 1. How the checks come out -/

def listAddresses : CommandLine := ⟨"ip", ["-j", "addr", "show"]⟩

/-- The addresses of the host are asked for, at most once. -/
def CheckWork (log : List Event) : Prop := log = [] ∨ ∃ answer, log = [.ran listAddresses answer]

/-- The check is of commands alone. -/
theorem CheckWork.ran {log : List Event} (h : CheckWork log) :
    ∃ commands, RanOnly commands log ∧ ∀ c ∈ commands, c = listAddresses := by
  rcases h with rfl | ⟨answer, rfl⟩
  · exact ⟨[], .nil, nofun⟩
  · exact ⟨[listAddresses], .cons ⟨answer, rfl⟩ .nil, fun c hc => List.mem_singleton.mp hc⟩

/-- The records whose addresses are checked. -/
def NetworkConfig.checked (config : NetworkConfig) : List StaticRecord :=
  config.statics.filter fun r => !r.isVirtual

/-- What is wrong with the addresses that are reported for an interface, if anything is. -/
def addressFault? (reported : List SystemAddress) (r : StaticRecord) : Option Error :=
  let actual := reported.filter fun a => a.interface = r.name
  if actual.isEmpty then some (.unknownInterface r.name)
  else if actual.any fun a => Ip.sameAddress a.ip r.address then none
  else some (.addressMismatch r.name r.address (Text.join ", " (actual.map SystemAddress.ip)))

/-- The result of a check that found a fault, or none. -/
def verdict : Option Error → Except Error Unit
  | none => .ok ()
  | some e => .error e

/-- The check of the addresses of some records: the host is asked for its addresses, unless there is
    no record, and the first fault counts. -/
inductive AddressCheck (records : List StaticRecord) : List Event → Except Error Unit → Prop where
  | spared (none : records = []) : AddressCheck records [] (.ok ())
  | unanswered {answer : Except Error Output} {e : Error} (some : records ≠ [])
      (unread : ∀ output reported, answer = .ok output →
        readAddresses output.stdout ≠ .ok reported) :
      AddressCheck records [.ran listAddresses answer] (.error e)
  | compared {output : Output} {reported : List SystemAddress} (some : records ≠ [])
      (read : readAddresses output.stdout = .ok reported) :
      AddressCheck records [.ran listAddresses (.ok output)]
        (verdict (records.findSome? (addressFault? reported)))

/-- The resolver's configuration mentions one of the servers, if there are any. -/
def Resolves {S : Type} [Files S] (resolvConf : Path) (dnsServers : List String) (s : S) : Prop :=
  dnsServers = [] ∨ ∃ contents text, Files.contents s resolvConf = .ok contents
    ∧ textOf resolvConf contents = .ok text ∧ mentionsServer dnsServers text = true

/-- The host is checked against a configuration, from a phase on. -/
inductive Checked (paths : NetPaths) (config : NetworkConfig) (h : Scripted) (phase : Phase) :
    List Event → Except Error Unit → Phase → Prop where
  | misaddressed {log : List Event} {e : Error}
      (addresses : AddressCheck config.checked log (.error e)) (inOrder : e.inOrder = true) :
      Checked paths config h phase log
        (.error (.context "Validating static network configuration" e)) phase
  | unresolved {log : List Event} {e : Error}
      (addresses : AddressCheck config.checked log (.ok ())) (inOrder : e.inOrder = true) :
      Checked paths config h phase log (.error (.context "Validating DNS configuration" e)) phase
  | passed {log : List Event} {h₁ : Scripted}
      (addresses : AddressCheck config.checked log (.ok ())) (leads : Leads log h h₁)
      (resolver : Resolves paths.resolvConf config.dnsServers h₁) :
      Checked paths config h phase log (.ok ()) .validated

theorem AddressCheck.checkWork {records : List StaticRecord} {log : List Event}
    {r : Except Error Unit} (h : AddressCheck records log r) : CheckWork log := by
  cases h with
  | spared _ => exact Or.inl rfl
  | unanswered _ _ => exact Or.inr ⟨_, rfl⟩
  | compared _ _ => exact Or.inr ⟨_, rfl⟩

theorem Checked.checkWork {paths : NetPaths} {config : NetworkConfig} {h : Scripted}
    {phase phase' : Phase} {log : List Event} {r : Except Error Unit}
    (hc : Checked paths config h phase log r phase') : CheckWork log := by
  cases hc with
  | misaddressed addresses _ => exact addresses.checkWork
  | unresolved addresses _ => exact addresses.checkWork
  | passed addresses _ _ => exact addresses.checkWork

/-! ## 2. The checks on a host -/

section

variable {H : Type} [Host H]

/-- An address that is known is checked without asking the host. -/
theorem validateAddress_known (reported : List SystemAddress) (r : StaticRecord) (s : H) :
    validateAddress reported (.immediate r.name r.address) s
      = (verdict (addressFault? reported r), s) := by
  let actual := reported.filter fun a => a.interface = r.name
  have hcheck : validateAddress reported (.immediate r.name r.address) s
      = (if actual.isEmpty then Pass.fail (.unknownInterface r.name)
        else if actual.any fun a => Ip.sameAddress a.ip r.address then pure ()
        else Pass.fail (.addressMismatch r.name r.address
          (Text.join ", " (actual.map SystemAddress.ip))) : Pass H Unit) s := rfl
  rw [hcheck]
  unfold addressFault?
  by_cases hnone : actual.isEmpty = true
  · rw [if_pos hnone, if_pos hnone]
    rfl
  · rw [if_neg hnone, if_neg hnone]
    by_cases hsame : (actual.any fun a => Ip.sameAddress a.ip r.address) = true
    · rw [if_pos hsame, if_pos hsame]
      rfl
    · rw [if_neg hsame, if_neg hsame]
      rfl

theorem validateKnown_apply (reported : List SystemAddress) (records : List StaticRecord) (s : H) :
    Pass.forEach (records.map fun r => .immediate r.name r.address) (validateAddress reported) s
      = (verdict (records.findSome? (addressFault? reported)), s) := by
  induction records with
  | nil => rfl
  | cons r records ih =>
    rw [List.map_cons, Pass.forEach, List.findSome?_cons]
    have hfirst := validateAddress_known reported r s
    cases hfault : addressFault? reported r with
    | none =>
      rw [hfault] at hfirst
      rw [Pass.bind_ok hfirst, ih]
    | some e =>
      rw [hfault] at hfirst
      rw [Pass.bind_error hfirst]
      rfl

theorem validateAddresses_ends (records : List StaticRecord) (s : H) :
    (validateAddresses (records.map fun r => .immediate r.name r.address)).Ends s fun log r _ =>
      AddressCheck records log r := by
  unfold validateAddresses
  split
  · rename_i hnone
    exact .done (.spared (List.map_eq_nil_iff.mp (List.isEmpty_iff.mp hnone)))
  · rename_i hsome
    have hrecords : records ≠ [] := fun h => hsome (by rw [h]; rfl)
    have hlist : ((getSystemAddresses : Pass H _).within
        "Getting network interface addresses").Ends s fun log r _ => ∃ answer,
          log = [.ran listAddresses answer] ∧ ∀ reported, r = .ok reported ↔
            ∃ output, answer = .ok output ∧ readAddresses output.stdout = .ok reported := by
      refine Pass.EndsOn.within (Pass.ends_reading _ _ _ _ s) ?_
      intro log r _ h
      obtain ⟨answer, hlog, hr⟩ := h
      refine ⟨answer, hlog, fun reported => ?_⟩
      rw [← hr reported]
      cases r with
      | ok a => exact Iff.rfl
      | error e => exact ⟨nofun, nofun⟩
    refine hlist.bind ?_ ?_
    · intro log reported t h
      obtain ⟨answer, rfl, hr⟩ := h
      obtain ⟨output, rfl, hread⟩ := (hr reported).mp rfl
      exact .still (validateKnown_apply reported records t) (.compared hrecords hread)
    · intro log e t h
      obtain ⟨answer, rfl, hr⟩ := h
      refine .unanswered hrecords fun output reported ho hread => ?_
      cases (hr reported).mpr ⟨output, ho, hread⟩

/-- Reading a text leaves the host alone, and reads the contents of the file. -/
theorem readText_apply (path : Path) (s : H) :
    readText path s = (atPath path (Files.contents s path) >>= textOf path, s) := by
  have hload : loadFile path s = (atPath path (Files.contents s path), s) := rfl
  unfold readText
  cases hread : atPath path (Files.contents s path) with
  | ok contents => rw [Pass.bind_ok (hload.trans (by rw [hread]))]; rfl
  | error e => rw [Pass.bind_error (hload.trans (by rw [hread]))]; rfl

/-- Whether a server is configured is only looked up. -/
theorem validateDns_ends (resolvConf : Path) (dnsServers : List String) (s : H) :
    (validateDns resolvConf dnsServers).Ends s fun log r t =>
      log = [] ∧ t = s ∧ ∀ u, r = .ok u → Resolves resolvConf dnsServers s := by
  unfold validateDns
  split
  · rename_i hnone
    exact .done ⟨rfl, rfl, fun _ _ => Or.inl (List.isEmpty_iff.mp hnone)⟩
  · refine Pass.EndsOn.within_bind (P := fun log r t => log = [] ∧ t = s
      ∧ r = atPath resolvConf (Files.contents s resolvConf) >>= textOf resolvConf)
      (.still (readText_apply resolvConf s) ⟨rfl, rfl, rfl⟩) ?_ ?_
    · intro _ text t _ h
      obtain ⟨rfl, rfl, hr⟩ := h
      split
      · rename_i hmentions
        refine .done ⟨rfl, rfl, fun _ _ => Or.inr ?_⟩
        cases hcontents : Files.contents t resolvConf with
        | ok contents =>
          rw [hcontents] at hr
          exact ⟨contents, text, rfl, hr.symm, hmentions⟩
        | error fault => rw [hcontents] at hr; cases hr
      · exact .failed ⟨rfl, rfl, nofun⟩
    · intro _ e t h
      obtain ⟨rfl, rfl, -⟩ := h
      exact ⟨rfl, rfl, nofun⟩

end

/-- **The checks** ask the host for its addresses, at most once. -/
theorem validateNetwork_ends (paths : NetPaths) (config : NetworkConfig) {a : Agent (Logged Scripted)}
    (hphase : a.phase.canBecome .validated = true) :
    (validateNetwork paths config).EndsOn Agent.host a fun log r b =>
      Checked paths config a.host.host a.phase log r b.phase := by
  have haddresses : (validateAddresses (staticAddresses config)
      : Pass (Agent (Logged Scripted)) Unit).EndsOn Agent.host a fun log r b =>
        AddressCheck config.checked log r ∧ b.phase = a.phase :=
    (validateAddresses_ends config.checked a).onHost fun _ _ _ h hb _ => ⟨h, hb⟩
  have hdns : ∀ b : Agent (Logged Scripted), (validateDns paths.resolvConf config.dnsServers).EndsOn
      Agent.host b fun log r c => log = [] ∧ c = b
        ∧ ∀ u, r = .ok u → Resolves paths.resolvConf config.dnsServers b.host.host := fun b =>
    (validateDns_ends _ _ b).onHost fun _ _ _ h _ _ => h
  refine (haddresses.errors (validateAddresses_inOrder _)).within_bind ?_ ?_
  · intro log _ b hleads h
    obtain ⟨⟨hchecked, hb⟩, -⟩ := h
    refine ((hdns b).errors (validateDns_inOrder _ _)).within_bind ?_ ?_
    · intro _ _ c _ h
      obtain ⟨⟨rfl, rfl, hresolves⟩, -⟩ := h
      refine (advance_ends hb hphase).mono ?_
      intro _ r d h
      obtain ⟨rfl, rfl, rfl⟩ := h
      rw [List.append_nil, List.append_nil]
      exact .passed hchecked hleads.kept.1 (hresolves _ rfl)
    · intro _ e c h
      obtain ⟨⟨rfl, rfl, -⟩, hinOrder⟩ := h
      rw [hb, List.append_nil]
      exact .unresolved hchecked (hinOrder e rfl)
  · intro log e b h
    obtain ⟨⟨hchecked, hb⟩, hinOrder⟩ := h
    rw [hb]
    exact .misaddressed hchecked (hinOrder e rfl)

end HostAgent.Net
