import HostAgent.Net.Announce
import HostAgent.Host.Scripted
import HostAgent.Proofs.Net.Links

/-!
# The address of an interface

An interface whose address is not known beforehand is announced under the best address that the host
lists for it: the first global one of IPv4, or else the first global one of IPv6. The host lists
links with their addresses, and an interface may be among the links any number of times.

* `linksOf?`, `listed` -- the links that a print lists, and their addresses in order;
* `FirstOf`, `BestAddress` -- the choice, told by what stands before it;
* `primaryIp?_reports` -- the choice among the addresses that are reported is that choice;
* `linksOf?_printLinks` -- whatever links there are, some print lists them;
* `getPrimaryIp_best` -- the address of an interface, and what it does not depend on.
-/

namespace HostAgent.Net

open Json Value

/-! ## 1. What a print lists -/

/-- The links that a print lists; a blank one lists none. -/
def linksOf? (stdout : String) : Option (List Link) :=
  if Text.allBlank stdout then some [] else (Json.readText stdout).bind (asList Link.ofJson?)

/-- **A print is read exactly when it lists links**, and the addresses are those that their links
    report. -/
theorem readAddresses_eq_ok_iff {stdout : String} {addresses : List SystemAddress} :
    readAddresses stdout = .ok addresses
      ↔ ∃ links, linksOf? stdout = some links ∧ addresses = links.flatMap Link.reports := by
  unfold readAddresses linksOf?
  split
  · constructor
    · intro h
      exact ⟨[], rfl, (Except.ok.inj h).symm⟩
    · rintro ⟨links, hlinks, rfl⟩
      cases hlinks
      rfl
  · cases (Json.readText stdout).bind (asList Link.ofJson?) with
    | none => exact ⟨nofun, nofun⟩
    | some links =>
      constructor
      · intro h
        exact ⟨links, rfl, (Except.ok.inj h).symm⟩
      · rintro ⟨links', hlinks, rfl⟩
        cases hlinks
        rfl

/-- The addresses of links in order, each with the name of its link. -/
def listed (links : List Link) : List (String × LinkAddress) :=
  links.flatMap fun l => l.addresses.map fun a => (l.name, a)

/-- An address as it is reported for its link. -/
def reported? (e : String × LinkAddress) : Option SystemAddress := e.2.report? e.1

theorem reports_eq (links : List Link) :
    links.flatMap Link.reports = (listed links).filterMap reported? := by
  rw [listed, List.filterMap_flatMap]
  refine List.flatMap_congr fun l _ => ?_
  rw [List.filterMap_map]
  rfl

/-! ## 2. The choice -/

/-- The address is a global one of an interface and a family, and not empty. -/
def IsGlobal (interface family : String) (e : String × LinkAddress) : Prop :=
  e.1 = interface ∧ e.2.scope = "global" ∧ e.2.family = family ∧ e.2.ip ≠ ""

instance (interface family : String) (e : String × LinkAddress) :
    Decidable (IsGlobal interface family e) := inferInstanceAs (Decidable (_ ∧ _ ∧ _ ∧ _))

/-- The address is the first global one of an interface and a family. -/
def FirstOf (interface family ip : String) (links : List Link) : Prop :=
  ∃ before e after, listed links = before ++ e :: after ∧ IsGlobal interface family e ∧ e.2.ip = ip
    ∧ ∀ earlier ∈ before, ¬ IsGlobal interface family earlier

/-- The best address of an interface, or that it has none. -/
inductive BestAddress (interface : String) (links : List Link) : Except Error String → Prop where
  /-- the first one of IPv4 -/
  | version4 {ip : String} (first : FirstOf interface "inet" ip links) :
      BestAddress interface links (.ok ip)
  /-- the first one of IPv6, when there is none of IPv4 -/
  | version6 {ip : String} (without4 : ∀ e ∈ listed links, ¬ IsGlobal interface "inet" e)
      (first : FirstOf interface "inet6" ip links) : BestAddress interface links (.ok ip)
  /-- there is none of either -/
  | missing (without4 : ∀ e ∈ listed links, ¬ IsGlobal interface "inet" e)
      (without6 : ∀ e ∈ listed links, ¬ IsGlobal interface "inet6" e) :
      BestAddress interface links (.error (.noAddress interface))

/-- The addresses of links that can be chosen for an interface. -/
def candidates (interface : String) (links : List Link) : List (String × LinkAddress) :=
  (listed links).filter fun e => IsGlobal interface "inet" e ∨ IsGlobal interface "inet6" e

/-- The first global address of an interface and a family. -/
def firstOf? (interface family : String) (links : List Link) : Option String :=
  ((listed links).find? fun e => IsGlobal interface family e).map fun e => e.2.ip

section

variable {interface family ip : String} {links links' : List Link}

theorem firstOf?_eq_some_iff :
    firstOf? interface family links = some ip ↔ FirstOf interface family ip links := by
  unfold firstOf? FirstOf
  rw [Option.map_eq_some_iff]
  constructor
  · rintro ⟨e, hfind, hip⟩
    obtain ⟨he, before, after, hsplit, hbefore⟩ := List.find?_eq_some_iff_append.mp hfind
    refine ⟨before, e, after, hsplit, of_decide_eq_true he, hip, fun earlier hin => ?_⟩
    simpa using hbefore earlier hin
  · rintro ⟨before, e, after, hsplit, he, hip, hbefore⟩
    have hnone : ∀ earlier ∈ before, (!decide (IsGlobal interface family earlier)) = true :=
      fun earlier hin => by simpa using hbefore earlier hin
    exact ⟨e, List.find?_eq_some_iff_append.mpr
      ⟨decide_eq_true he, before, after, hsplit, hnone⟩, hip⟩

theorem firstOf?_eq_none_iff :
    firstOf? interface family links = none ↔ ∀ e ∈ listed links, ¬ IsGlobal interface family e := by
  simp [firstOf?]

/-- **What can be chosen decides the choice.** -/
theorem firstOf?_eq_candidates (hfamily : family = "inet" ∨ family = "inet6") :
    firstOf? interface family links
      = ((candidates interface links).find? fun e => IsGlobal interface family e).map
        fun e => e.2.ip := by
  have hchosen : ∀ e, IsGlobal interface family e →
      IsGlobal interface "inet" e ∨ IsGlobal interface "inet6" e := by
    intro e he
    rcases hfamily with rfl | rfl
    · exact Or.inl he
    · exact Or.inr he
  rw [firstOf?, candidates, List.find?_filter]
  congr 2
  funext e
  by_cases he : IsGlobal interface family e
  · simp [he, hchosen e he]
  · simp [he]

/-- The best address of an interface. -/
def bestOf (interface : String) (links : List Link) : Except Error String :=
  match (firstOf? interface "inet" links).or (firstOf? interface "inet6" links) with
  | some ip => .ok ip
  | none => .error (.noAddress interface)

/-- **There is one best address**, or the interface has none. -/
theorem bestAddress_iff {r : Except Error String} :
    BestAddress interface links r ↔ r = bestOf interface links := by
  unfold bestOf
  constructor
  · intro h
    cases h with
    | version4 first => rw [firstOf?_eq_some_iff.mpr first, Option.some_or]
    | version6 without4 first =>
      rw [firstOf?_eq_none_iff.mpr without4, firstOf?_eq_some_iff.mpr first, Option.none_or]
    | missing without4 without6 =>
      rw [firstOf?_eq_none_iff.mpr without4, firstOf?_eq_none_iff.mpr without6, Option.none_or]
  · rintro rfl
    cases h4 : firstOf? interface "inet" links with
    | some ip => exact .version4 (firstOf?_eq_some_iff.mp h4)
    | none =>
      cases h6 : firstOf? interface "inet6" links with
      | some ip => exact .version6 (firstOf?_eq_none_iff.mp h4) (firstOf?_eq_some_iff.mp h6)
      | none => exact .missing (firstOf?_eq_none_iff.mp h4) (firstOf?_eq_none_iff.mp h6)

theorem bestOf_congr (h : candidates interface links = candidates interface links') :
    bestOf interface links = bestOf interface links' := by
  unfold bestOf
  rw [firstOf?_eq_candidates (Or.inl rfl), firstOf?_eq_candidates (Or.inr rfl), h,
    ← firstOf?_eq_candidates (Or.inl rfl), ← firstOf?_eq_candidates (Or.inr rfl)]

/-! ## 3. The choice among what is reported -/

/-- The first entry of one kind, or else the first one at all, is the first of that kind, or else
    the first of the other kind. -/
theorem find?_or_head? {α : Type} (p : α → Bool) (l : List α) :
    (l.find? p).or l.head? = (l.find? p).or (l.find? fun a => !p a) := by
  cases hfind : l.find? p with
  | some a => rfl
  | none =>
    have hall : ∀ a ∈ l, (!p a) = true := by
      intro a ha
      simpa using List.find?_eq_none.mp hfind a ha
    rw [← List.head?_filter, List.filter_eq_self.mpr hall]

/-- The addresses that are reported are those of both families that are there. -/
theorem reported?_eq (e : String × LinkAddress) :
    reported? e = if e.2.ip ≠ "" ∧ (e.2.family = "inet" ∨ e.2.family = "inet6") then
        some ⟨e.1, e.2.ip, e.2.family = "inet6", e.2.scope = "global"⟩
      else none := by
  unfold reported? LinkAddress.report?
  simp

/-- A global address of a family is reported as one of that family, and nothing else is. -/
theorem any_reported? (hfamily : family = "inet" ∨ family = "inet6") (e : String × LinkAddress) :
    ((reported? e).any fun a => (a.interface = interface && a.isGlobal)
        && a.isVersion6 == decide (family = "inet6"))
      = decide (IsGlobal interface family e) := by
  rw [reported?_eq]
  split
  · rename_i h
    obtain ⟨hip, hreported⟩ := h
    -- with two families, an address is of the same one when both or neither is IPv6
    have hsame : (decide (e.2.family = "inet6") == decide (family = "inet6"))
        = decide (e.2.family = family) := by
      rcases hreported with h | h <;> rcases hfamily with h' | h' <;> rw [h, h'] <;> rfl
    rw [Option.any_some, hsame, Bool.eq_iff_iff]
    simp [IsGlobal, hip, and_assoc]
  · rename_i h
    have hno : ¬ IsGlobal interface family e := fun he => h ⟨he.2.2.2, he.2.2.1 ▸ hfamily⟩
    rw [Option.any_none, decide_eq_false hno]

/-- It is reported in its own words. -/
theorem ip_reported? (hfamily : family = "inet" ∨ family = "inet6") {e : String × LinkAddress}
    (he : IsGlobal interface family e) : (reported? e).map SystemAddress.ip = some e.2.ip := by
  obtain ⟨-, -, hof, hip⟩ := he
  rw [reported?_eq, if_pos ⟨hip, hof ▸ hfamily⟩, Option.map_some]

/-- **The first one that is reported of a family is the first one that is listed.** -/
theorem find?_reports (hfamily : family = "inet" ∨ family = "inet6") :
    (((links.flatMap Link.reports).filter fun a => a.interface = interface && a.isGlobal).find?
        fun a => a.isVersion6 == decide (family = "inet6")).map SystemAddress.ip
      = firstOf? interface family links := by
  rw [reports_eq, List.find?_filter, List.find?_filterMap, firstOf?]
  simp only [Bool.decide_and, Bool.decide_eq_true, any_reported? hfamily]
  cases hfind : (listed links).find? fun e => decide (IsGlobal interface family e) with
  | none => rfl
  | some e =>
    have hholds := List.find?_some hfind
    have he : IsGlobal interface family e := of_decide_eq_true hholds
    rw [Option.bind_some, ip_reported? hfamily he, Option.map_some]

/-- **The choice among the addresses that are reported** is that of the first one of IPv4, or else
    of the first one of IPv6, among those that are listed. -/
theorem primaryIp?_reports :
    primaryIp? interface (links.flatMap Link.reports)
      = (firstOf? interface "inet" links).or (firstOf? interface "inet6" links) := by
  have h4 : (fun a : SystemAddress => !a.isVersion6)
      = fun a => a.isVersion6 == decide ("inet" = "inet6") := by simp
  have h6 : (fun a : SystemAddress => !!a.isVersion6)
      = fun a => a.isVersion6 == decide ("inet6" = "inet6") := by simp
  unfold primaryIp?
  dsimp only
  rw [find?_or_head?, Option.map_or, h4, h6, find?_reports (Or.inl rfl), find?_reports (Or.inr rfl)]

end

/-! ## 4. Any links can be listed -/

/-- An address of a link as an object. -/
def LinkAddress.toJson (a : LinkAddress) : Value :=
  .ofMembers [("family", .ofText a.family), ("local", .ofText a.ip), ("scope", .ofText a.scope)]

/-- A link as an object. -/
def Link.toJson (l : Link) : Value :=
  .ofMembers
    [("ifname", .ofText l.name), ("addr_info", .array (l.addresses.map LinkAddress.toJson))]

/-- A print of links. -/
def printLinks (links : List Link) : String := (Value.array (links.map Link.toJson)).compact

theorem LinkAddress.restores : Restores LinkAddress.ofJson? LinkAddress.toJson where
  readable a := .object (by simp [Readable.text])
  restored a := by
    rw [LinkAddress.ofJson?, LinkAddress.toJson]
    refine Eq.trans (members_bind ?known ?names) ?_
    case names => decide
    case known => exact .refl _
    rfl

theorem Link.restores : Restores Link.ofJson? Link.toJson where
  readable l := .object (by simp [Readable.text, LinkAddress.restores.list.readable l.addresses])
  restored l := by
    rw [Link.ofJson?, Link.toJson]
    refine Eq.trans (members_bind ?known ?names) ?_
    case names => decide
    case known => exact .refl _
    refine Eq.trans (required_bind rfl (Restores.text.restored l.name)) ?_
    exact optional_bind rfl (LinkAddress.restores.list.restored l.addresses)

/-- **Any links can be listed**, with any addresses and in any order. -/
theorem linksOf?_printLinks (links : List Link) : linksOf? (printLinks links) = some links := by
  have hfull : Text.allBlank (printLinks links) = false := allBlank_array _
  have hread : Json.readText (printLinks links) = some (.array (links.map Link.toJson)) :=
    readText_compact (Link.restores.list.readable links)
  rw [linksOf?, hfull, if_neg Bool.false_ne_true, hread, Option.bind_some]
  exact Link.restores.list.restored links

/-! ## 5. The address of an interface -/

/-- The command that lists the addresses of an interface. -/
def listAddressesOf (interface : String) : CommandLine :=
  ⟨"ip", ["-j", "addr", "show", "dev", interface]⟩

section

variable {S : Type} [Commands S] {s t : S} {interface : String} {output : Output}
  {links : List Link}

/-- **What the host lists for an interface decides its address.** -/
theorem getPrimaryIp_apply
    (answers : Commands.run (listAddressesOf interface) s = (.ok output, t))
    (lists : linksOf? output.stdout = some links) :
    getPrimaryIp interface s = (bestOf interface links, t) := by
  have hran : ((runCommand "ip" ["-j", "addr", "show", "dev", interface]).within
      ("Getting addresses of interface '" ++ interface ++ "'")) s = (.ok output, t) := by
    have hrun : runCommand "ip" ["-j", "addr", "show", "dev", interface] s = (.ok output, t) :=
      answers
    rw [Pass.within_apply, hrun]
    rfl
  have hread : (Pass.ofResult (readAddresses output.stdout) : Pass S (List SystemAddress)) t
      = (.ok (links.flatMap Link.reports), t) :=
    congrArg (·, t) (readAddresses_eq_ok_iff.mpr ⟨links, lists, rfl⟩)
  unfold getPrimaryIp
  rw [Pass.bind_ok hran, Pass.bind_ok hread, primaryIp?_reports]
  unfold bestOf
  cases (firstOf? interface "inet" links).or (firstOf? interface "inet6" links) <;> rfl

end

/-- **An interface is announced under its best address**, on any host that answers with a print of
    links. The address is the first global one of IPv4 that is listed for a link of that name and is
    not empty, or else the first such one of IPv6; if there is none of either, the interface has no
    address. Nothing else in the answer matters: whatever other links, scopes and families are
    listed, and wherever they stand, the same candidates in the same order give the same address. -/
theorem getPrimaryIp_best {S : Type} [Commands S] {interface : String} {s t : S} {output : Output}
    {addresses : List SystemAddress}
    (answers : Commands.run (listAddressesOf interface) s = (.ok output, t))
    (parses : readAddresses output.stdout = .ok addresses) :
    ∃ links, linksOf? output.stdout = some links
      ∧ (∀ r u, getPrimaryIp interface s = (r, u) ↔ BestAddress interface links r ∧ u = t)
      ∧ ∀ {S' : Type} [Commands S'] {s' t' : S'} {output' : Output} {links' : List Link},
        Commands.run (listAddressesOf interface) s' = (.ok output', t') →
        linksOf? output'.stdout = some links' →
        candidates interface links' = candidates interface links →
          (getPrimaryIp interface s').1 = (getPrimaryIp interface s).1 := by
  obtain ⟨links, hlinks, -⟩ := readAddresses_eq_ok_iff.mp parses
  have hends := getPrimaryIp_apply answers hlinks
  refine ⟨links, hlinks, fun r u => ?_, fun answers' lists' hsame => ?_⟩
  · rw [hends, Prod.mk.injEq, bestAddress_iff]
    exact and_congr eq_comm eq_comm
  · rw [hends, getPrimaryIp_apply answers' lists', bestOf_congr hsame]

/-- A host that lists links for one interface. -/
def hostListing (links : List Link) : Scripted :=
  ({} : Scripted).stand "ip -j addr show dev eth0" (.success (printLinks links))

theorem hostListing_answers (links : List Link) :
    Commands.run (listAddressesOf "eth0") (hostListing links)
      = (.ok ⟨printLinks links, ""⟩,
        (Commands.run (listAddressesOf "eth0") (hostListing links)).2) := Prod.ext rfl rfl

/-- Links among which one interface is twice, after another one, and its first address of IPv4 that
    counts is the fourth that is listed for it. -/
def scatteredLinks : List Link :=
  [⟨"eth1", [⟨"inet", "10.0.0.9", "global"⟩]⟩,
   ⟨"eth0", [⟨"inet6", "fd00::5", "global"⟩, ⟨"inet", "169.254.0.1", "link"⟩,
    ⟨"inet", "", "global"⟩]⟩,
   ⟨"eth0", [⟨"inet", "10.0.0.7", "global"⟩, ⟨"inet", "10.0.0.8", "global"⟩]⟩]

/-- The candidates among them, and no other address. -/
def tidyLinks : List Link :=
  [⟨"eth0", [⟨"inet6", "fd00::5", "global"⟩, ⟨"inet", "10.0.0.7", "global"⟩,
    ⟨"inet", "10.0.0.8", "global"⟩]⟩]

/-- That address is chosen, and it is when nothing but the candidates is listed. -/
theorem getPrimaryIp_best_scattered :
    Commands.run (listAddressesOf "eth0") (hostListing scatteredLinks)
        = (.ok ⟨printLinks scatteredLinks, ""⟩,
          (Commands.run (listAddressesOf "eth0") (hostListing scatteredLinks)).2)
      ∧ readAddresses (printLinks scatteredLinks) = .ok (scatteredLinks.flatMap Link.reports)
      ∧ (getPrimaryIp "eth0" (hostListing scatteredLinks)).1 = .ok "10.0.0.7"
      ∧ (getPrimaryIp "eth0" (hostListing tidyLinks)).1 = .ok "10.0.0.7" := by
  have hanswers := hostListing_answers scatteredLinks
  have hparses : readAddresses (printLinks scatteredLinks)
      = .ok (scatteredLinks.flatMap Link.reports) :=
    readAddresses_eq_ok_iff.mpr ⟨scatteredLinks, linksOf?_printLinks _, rfl⟩
  obtain ⟨links, hlinks, hbest, hsame⟩ := getPrimaryIp_best hanswers hparses
  obtain rfl : scatteredLinks = links :=
    Option.some.inj ((linksOf?_printLinks scatteredLinks).symm.trans hlinks)
  have hfirst : FirstOf "eth0" "inet" "10.0.0.7" scatteredLinks :=
    ⟨(listed scatteredLinks).take 4, ("eth0", ⟨"inet", "10.0.0.7", "global"⟩),
      (listed scatteredLinks).drop 5, by decide, by decide, rfl, by decide⟩
  have hchosen := (hbest _ _).mpr ⟨.version4 hfirst, rfl⟩
  have htidy := hsame (hostListing_answers tidyLinks) (linksOf?_printLinks tidyLinks) (by decide)
  rw [hchosen] at htidy
  exact ⟨hanswers, hparses, congrArg Prod.fst hchosen, htidy⟩

end HostAgent.Net
