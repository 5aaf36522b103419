import HostAgent.Net.Converge
import HostAgent.Proofs.Errors

/-!
# One record per network

Every network that is no virtual IP has one record, whose interface is restarted when files change.

* `configOf_eq_ok`, `recordOf_eq_ok` -- all that a configuration and a record can be;
* `interfaceNames_length` -- there are as many interfaces to restart as such networks;
* `interfaceNames_ne_nil` -- there is one unless all networks are configured by other means;
* `sortedBy_pairwise`, `sortedBy_filter`, `eq_of_sorted` -- sorting by name is stable, and nothing else
  is sorted and has the same parts;
* `statics_parse`, `statics_sorted` -- fixed addresses can be read, and are in the order of names.
-/

namespace HostAgent.Net

/-! ## Records and configurations -/

/-- There is one record per network. -/
theorem recordsOf_length {networks : Networks} {found : NameMap String}
    {records : List InterfaceRecord} (h : recordsOf networks found = .ok records) :
    records.length = networks.size := (mapM_eq_ok_iff.mp h).length_eq.symm

/-- A configuration is of records for the networks that are no virtual IPs. -/
theorem configOf_eq_ok {networks : Networks} {found : NameMap String} {config : NetworkConfig}
    (h : configOf networks found = .ok config) :
    ∃ records, recordsOf networks.nonVip found = .ok records
      ∧ config = .ofRecords records networks.nonVip.dnsServers := by
  unfold configOf at h
  cases hrecords : recordsOf networks.nonVip found with
  | error e => rw [hrecords] at h; cases h
  | ok records =>
    rw [hrecords] at h
    cases h
    exact ⟨records, rfl, rfl⟩

/-- The record of a network whose address and mask make a subnet. -/
theorem staticRecord_eq_ok {networkName interface mac : String} {n : Network} {isDefault : Bool}
    {r : StaticRecord} (h : staticRecord networkName interface mac n isDefault = .ok r) :
    (∃ subnet, subnetOf n.ip n.netmask = .ok subnet)
      ∧ r.name = interface ∧ r.mac = mac ∧ r.address = n.ip := by
  unfold staticRecord at h
  split at h
  · cases h
  · rename_i subnet hsubnet
    cases h
    exact ⟨⟨subnet, hsubnet⟩, rfl, rfl, rfl⟩

/-- The record of a network on its interface is of the kind of the network. -/
theorem recordOf_eq_ok {isOnly : Bool} {inferred : Option String} {found : NameMap String}
    {networkName : String} {n : Network} {record : InterfaceRecord}
    (h : recordOf isOnly inferred found networkName n = .ok record) :
    ∃ name mac, interfaceOf inferred found networkName n = .ok (name, mac)
      ∧ (n.isDhcp = true ∧ record = .dhcp ⟨name, mac, n.routes⟩
        ∨ n.isDhcp = false ∧ ∃ r, record = .static r ∧ staticRecord networkName name mac n
          (isOnly || n.defaultFor.gateway) = .ok r) := by
  unfold recordOf at h
  cases hinterface : interfaceOf inferred found networkName n with
  | error e => rw [hinterface] at h; cases h
  | ok interface =>
    rw [hinterface] at h
    change (if n.isDhcp = true then _ else _) = _ at h
    refine ⟨interface.1, interface.2, rfl, ?_⟩
    split at h
    · rename_i hleased
      cases h
      exact Or.inl ⟨hleased, rfl⟩
    · rename_i hfixed
      refine Or.inr ⟨Bool.eq_false_iff.mpr hfixed, ?_⟩
      cases hrecord : staticRecord networkName interface.1 interface.2 n
          (isOnly || n.defaultFor.gateway) with
      | error e => rw [hrecord] at h; cases h
      | ok r =>
        rw [hrecord] at h
        cases h
        exact ⟨r, rfl, rfl⟩

/-! ## Interfaces to restart -/

/-- Sorting by kind loses no record. -/
theorem ofRecords_names_length (records : List InterfaceRecord) (dnsServers : List String) :
    (NetworkConfig.ofRecords records dnsServers).interfaceNames.length = records.length := by
  have hkinds : (records.filterMap InterfaceRecord.dhcp?).length
      + (records.filterMap InterfaceRecord.static?).length = records.length := by
    induction records with
    | nil => rfl
    | cons r records ih =>
      cases r with
      | static r =>
        have hdhcp : InterfaceRecord.dhcp? (.static r) = none := rfl
        have hstatic : InterfaceRecord.static? (.static r) = some r := rfl
        rw [List.filterMap_cons_none hdhcp, List.filterMap_cons_some hstatic, List.length_cons,
          List.length_cons, ← ih, Nat.add_assoc]
      | dhcp r =>
        have hdhcp : InterfaceRecord.dhcp? (.dhcp r) = some r := rfl
        have hstatic : InterfaceRecord.static? (.dhcp r) = none := rfl
        rw [List.filterMap_cons_some hdhcp, List.filterMap_cons_none hstatic, List.length_cons,
          List.length_cons, ← ih, Nat.add_right_comm]
  unfold NetworkConfig.interfaceNames NetworkConfig.ofRecords sortedBy
  rw [List.length_append, List.length_map, List.length_map, List.length_mergeSort,
    List.length_mergeSort, hkinds]

theorem interfaceNames_length {networks : Networks} {found : NameMap String}
    {config : NetworkConfig} (h : configOf networks found = .ok config) :
    config.interfaceNames.length = networks.nonVip.size := by
  obtain ⟨records, hrecords, rfl⟩ := configOf_eq_ok h
  rw [ofRecords_names_length, recordsOf_length hrecords]

/-- The networks that are no virtual IPs are not all configured by other means. -/
theorem isPreconfigured_eq_false_iff {networks : Networks} : networks.isPreconfigured = false
    ↔ ∃ e ∈ networks.entries, e.2.isVip = false ∧ e.2.preconfigured = false := by
  unfold Networks.isPreconfigured NameMap.values
  rw [List.all_eq_false]
  constructor
  · intro h
    obtain ⟨n, hn, hpre⟩ := h
    obtain ⟨hmem, hvip⟩ := List.mem_filter.mp hn
    obtain ⟨e, he, rfl⟩ := List.mem_map.mp hmem
    exact ⟨e, he, by simpa using hvip, Bool.eq_false_iff.mpr hpre⟩
  · intro h
    obtain ⟨e, he, hvip, hpre⟩ := h
    refine ⟨e.2, List.mem_filter.mpr ⟨List.mem_map_of_mem he, ?_⟩, Bool.eq_false_iff.mp hpre⟩
    rw [hvip]
    rfl

/-- **Some interface is to be restarted** unless every network is configured by other means. -/
theorem interfaceNames_ne_nil {networks : Networks} {found : NameMap String}
    {config : NetworkConfig} (hpre : networks.isPreconfigured = false)
    (h : configOf networks found = .ok config) : config.interfaceNames ≠ [] := by
  rw [← List.length_pos_iff, interfaceNames_length h]
  obtain ⟨e, he, hvip, -⟩ := isPreconfigured_eq_false_iff.mp hpre
  have hkept : (!e.2.isVip) = true := by rw [hvip]; rfl
  exact List.length_pos_of_mem (List.mem_filter.mpr ⟨he, hkept⟩)

/-! ## Order by name -/

section

variable {α : Type} (name : α → String)

theorem byName_trans (a b c : α) (hab : decide (name a ≤ name b) = true)
    (hbc : decide (name b ≤ name c) = true) : decide (name a ≤ name c) = true := by
  rw [decide_eq_true_eq] at hab hbc ⊢
  exact String.le_trans hab hbc

theorem byName_total (a b : α) : (decide (name a ≤ name b) || decide (name b ≤ name a)) = true := by
  rw [Bool.or_eq_true, decide_eq_true_eq, decide_eq_true_eq]
  exact String.le_total (name a) (name b)

/-- A list that is sorted by name is in the order of names. -/
theorem sortedBy_pairwise (l : List α) : (sortedBy name l).Pairwise fun a b => name a ≤ name b := by
  have hsorted : (sortedBy name l).Pairwise fun a b => decide (name a ≤ name b) = true :=
    List.pairwise_mergeSort (byName_trans name) (byName_total name) l
  exact hsorted.imp fun h => of_decide_eq_true h

/-- **Sorting is stable**: what goes by one name stays in order. -/
theorem sortedBy_filter (key : String) (l : List α) :
    (sortedBy name l).filter (name · = key) = l.filter (name · = key) := by
  have hsame : ∀ a ∈ l.filter (name · = key), name a = key := fun a ha =>
    of_decide_eq_true (List.mem_filter.mp ha).2
  have hpairs : (l.filter (name · = key)).Pairwise fun a b => decide (name a ≤ name b) = true := by
    refine List.pairwise_of_forall_mem_list fun a ha b hb => ?_
    have heq : name a = name b := (hsame a ha).trans (hsame b hb).symm
    exact decide_eq_true (heq ▸ String.le_refl (name a))
  have hsub : (l.filter (name · = key)).Sublist (sortedBy name l) :=
    List.sublist_mergeSort (byName_trans name) (byName_total name) hpairs List.filter_sublist
  have hall : (l.filter (name · = key)).filter (name · = key) = l.filter (name · = key) :=
    List.filter_eq_self.mpr fun a ha => (List.mem_filter.mp ha).2
  have hkept := hsub.filter (name · = key)
  rw [hall] at hkept
  have hperm := (List.mergeSort_perm l fun a b => decide (name a ≤ name b)).filter (name · = key)
  exact (hkept.eq_of_length hperm.length_eq.symm).symm

variable {name}

theorem mem_iff_of_filter {l l' : List α}
    (h : ∀ key, l.filter (name · = key) = l'.filter (name · = key)) (a : α) : a ∈ l ↔ a ∈ l' := by
  have hiff : a ∈ l.filter (name · = name a) ↔ a ∈ l'.filter (name · = name a) := by rw [h]
  simpa using hiff

/-- **A list in the order of names is known by what goes by each name.** -/
theorem eq_of_sorted {l l' : List α} (hl : l.Pairwise fun a b => name a ≤ name b)
    (hl' : l'.Pairwise fun a b => name a ≤ name b)
    (h : ∀ key, l.filter (name · = key) = l'.filter (name · = key)) : l = l' := by
  have hmem := mem_iff_of_filter h
  induction l generalizing l' with
  | nil =>
    have hnone : ∀ a, a ∉ l' := fun a ha => List.not_mem_nil ((hmem a).mpr ha)
    exact (List.eq_nil_iff_forall_not_mem.mpr hnone).symm
  | cons a l ih =>
    cases l' with
    | nil => exact absurd ((hmem a).mp List.mem_cons_self) List.not_mem_nil
    | cons b l' =>
      obtain ⟨ha, hrest⟩ := List.pairwise_cons.mp hl
      obtain ⟨hb, hrest'⟩ := List.pairwise_cons.mp hl'
      -- each of the first two is the least, so they go by one name, and they are the first of it
      have hab : name a ≤ name b := by
        rcases List.mem_cons.mp ((hmem b).mpr List.mem_cons_self) with heq | hin
        · exact heq ▸ String.le_refl _
        · exact ha b hin
      have hba : name b ≤ name a := by
        rcases List.mem_cons.mp ((hmem a).mp List.mem_cons_self) with heq | hin
        · exact heq ▸ String.le_refl _
        · exact hb a hin
      have hname : name b = name a := String.le_antisymm hba hab
      have hfirst := h (name a)
      rw [List.filter_cons_of_pos (by simp), List.filter_cons_of_pos (by simp [hname])] at hfirst
      obtain ⟨rfl, -⟩ := List.cons.inj hfirst
      have htails : ∀ key, l.filter (name · = key) = l'.filter (name · = key) := fun key => by
        have hkey := h key
        rw [List.filter_cons, List.filter_cons] at hkey
        split at hkey
        · exact (List.cons.inj hkey).2
        · exact hkey
      rw [ih hrest hrest' htails (mem_iff_of_filter htails)]

variable (name) in
/-- It does not matter whether a list is sorted before or after some of it is left out. -/
theorem filter_sortedBy (keep : α → Bool) (l : List α) :
    (sortedBy name l).filter keep = sortedBy name (l.filter keep) := by
  refine eq_of_sorted ((sortedBy_pairwise name l).filter keep) (sortedBy_pairwise name _) fun key => ?_
  rw [List.filter_comm, sortedBy_filter, sortedBy_filter, List.filter_comm]

end

/-! ## Records with fixed addresses -/

theorem recordOf_parses {isOnly : Bool} {inferred : Option String} {found : NameMap String}
    {networkName : String} {n : Network} {r : StaticRecord}
    (h : recordOf isOnly inferred found networkName n = .ok (.static r)) :
    ∃ address, Ip.Address.parse? r.address = some address := by
  obtain ⟨name, mac, -, ⟨-, hrecord⟩ | ⟨-, r', hrecord, hstatic⟩⟩ := recordOf_eq_ok h
  · cases hrecord
  · cases hrecord
    obtain ⟨⟨subnet, hsubnet⟩, -, -, haddress⟩ := staticRecord_eq_ok hstatic
    rw [haddress]
    unfold subnetOf at hsubnet
    split at hsubnet
    · cases hsubnet
    · rename_i address hparse
      exact ⟨_, hparse⟩
    · rename_i address hparse
      exact ⟨_, hparse⟩

section

variable {networks : Networks} {found : NameMap String} {config : NetworkConfig}

/-- The fixed addresses of a configuration can be read. -/
theorem statics_parse (h : configOf networks found = .ok config) {r : StaticRecord}
    (hr : r ∈ config.statics) : ∃ address, Ip.Address.parse? r.address = some address := by
  obtain ⟨records, hrecords, rfl⟩ := configOf_eq_ok h
  obtain ⟨record, hmem, hstatic⟩ := List.mem_filterMap.mp (List.mem_mergeSort.mp hr)
  cases record with
  | dhcp _ => cases hstatic
  | static r' =>
    cases hstatic
    obtain ⟨e, -, he⟩ := exists_of_forall₂ (mapM_eq_ok_iff.mp hrecords) hmem
    exact recordOf_parses he

/-- The records with fixed addresses are in the order of names. -/
theorem statics_sorted (h : configOf networks found = .ok config) :
    config.statics.Pairwise fun a b => a.name ≤ b.name := by
  obtain ⟨records, -, rfl⟩ := configOf_eq_ok h
  exact sortedBy_pairwise _ _

end

end HostAgent.Net
