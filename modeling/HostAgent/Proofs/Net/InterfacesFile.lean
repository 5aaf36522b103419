import HostAgent.Proofs.Net.ConfigFiles
import HostAgent.Proofs.Text
import HostAgent.Proofs.Utf8

/-!
# What an interfaces file tells

The bytes of an interfaces file decide whether interfaces go down, so a change that matters has to
show in them. A file is read back in three steps: its text falls into lines, a line into words, and
the lines into stanzas, of which each says where it ends.

* `ofWords_injective` -- a text of lines of words tells these lines;
* `Delimited.flatMap` -- stanzas that say where they end are told one by one;
* `interfaces_eq_iff` -- two configurations have the same file exactly when they match in all that
  the file is about.
-/

namespace HostAgent.Net

open Text

/-! ## 1. Texts of lines of words -/

/-- A text of lines of words. -/
def ofWords (lines : List (List String)) : String := ofLines (lines.map (join " "))

/-- The lines of a text, with nothing after the last one. -/
theorem splitOn_ofLines {lines : List String} (h : ∀ line ∈ lines, '\n' ∉ line.toList) :
    splitOn '\n' (ofLines lines).toList = lines.map String.toList ++ [[]] := by
  induction lines with
  | nil => rfl
  | cons line lines ih =>
    have hcons : (ofLines (line :: lines)).toList
        = line.toList ++ '\n' :: (ofLines lines).toList := by simp [ofLines]
    rw [hcons, splitOn_append _ (h line List.mem_cons_self),
      ih fun l hl => h l (List.mem_cons_of_mem _ hl)]
    rfl

/-- The words of each line of a text. -/
def textWords (text : String) : List (List (List Char)) :=
  (splitOn '\n' text.toList).dropLast.map (splitOn ' ')

theorem textWords_ofWords {lines : List (List String)} (h : Worded lines) :
    textWords (ofWords lines) = lines.map (List.map String.toList) := by
  have hunbroken : ∀ line ∈ lines.map (join " "), '\n' ∉ line.toList := by
    intro line hline
    obtain ⟨words, hwords, rfl⟩ := List.mem_map.mp hline
    exact not_mem_join (h words hwords).2
  rw [textWords, ofWords, splitOn_ofLines hunbroken, List.dropLast_concat, List.map_map,
    List.map_map]
  exact List.map_congr_left fun line hline => splitOn_join (h line hline).1 (h line hline).2

/-- **A text of lines of words tells these lines.** -/
theorem ofWords_injective {lines lines' : List (List String)} (h : Worded lines)
    (h' : Worded lines') (heq : ofWords lines = ofWords lines') : lines = lines' := by
  refine (List.map_inj_right fun _ _ => map_toList_injective).mp ?_
  rw [← textWords_ofWords h, ← textWords_ofWords h', heq]

/-! ## 2. The file in words -/

/-- The blanks in front of a line of a stanza, as words. -/
def indent : List String := ["", "", "", ""]

theorem join_indent {words : List String} (h : words ≠ []) :
    join " " (indent ++ words) = "    " ++ join " " words := by
  cases words with
  | nil => exact absurd rfl h
  | cons word words =>
    have hblanks : "    " = "" ++ (" " ++ ("" ++ (" " ++ ("" ++ (" " ++ ("" ++ " ")))))) := by simp
    rewrite [hblanks]
    simp only [indent, List.cons_append, List.nil_append, join_cons_cons]
    -- a step of its own: next to other rules it would try to split the literals
    simp only [String.append_assoc]

/-- The line that adds a route. -/
def routeWords (lead : List String) (r : Route) : List (List String) :=
  [lead ++ ["post-up", "route", "add", "-net", r.destination, "netmask", r.netmask, "gw",
    r.gateway]]

/-- The stanza of an interface with a leased address. -/
def dhcpWords (r : DhcpRecord) : List (List String) :=
  [[""], ["auto", r.name], ["iface", r.name, "inet", "dhcp"]] ++ r.routes.flatMap (routeWords [])

/-- The lines about the default gateway. -/
def gatewayWords (r : StaticRecord) : List (List String) :=
  if r.isDefaultForGateway then
    (if r.isVersion6 then [] else [indent ++ ["broadcast", r.broadcast]])
      ++ [indent ++ ["gateway", r.gateway]]
  else []

/-- The word for the version of an address. -/
def familyWord (r : StaticRecord) : String := if r.isVersion6 then "inet6" else "inet"

/-- The stanza of an interface with a fixed address. -/
def staticWords (r : StaticRecord) : List (List String) :=
  [[""], ["auto", r.name], ["iface", r.name, familyWord r, "static"],
    indent ++ ["address", r.address]]
  ++ (if r.isVersion6 then [] else [indent ++ ["network", r.network]])
  ++ [indent ++ ["netmask", r.netmask]]
  ++ gatewayWords r
  ++ r.routes.flatMap (routeWords indent)

/-- What holds for all interfaces. -/
def footerWords (statics : List StaticRecord) (dnsServers : List String) : List (List String) :=
  [[""]]
  ++ (if statics.any StaticRecord.isVersion6 then [["accept_ra", "1"]] else [])
  ++ (if dnsServers.isEmpty then [] else ["dns-nameservers" :: dnsServers])

/-- The interfaces file of a configuration. -/
def fileWords (c : NetworkConfig) : List (List String) :=
  [["#", "Generated", "by", "cirrus-agent"], ["auto", "lo"], ["iface", "lo", "inet", "loopback"]]
    ++ c.dhcps.flatMap dhcpWords ++ c.statics.flatMap staticWords
    ++ footerWords c.statics c.dnsServers

theorem map_join_routeWords (r : Route) : (routeWords [] r).map (join " ") = [routeLine r] := by
  have hadd : "post-up route add -net "
      = "post-up" ++ (" " ++ ("route" ++ (" " ++ ("add" ++ (" " ++ ("-net" ++ " ")))))) := by simp
  have hmask : " netmask " = " " ++ ("netmask" ++ " ") := by simp
  have hgateway : " gw " = " " ++ ("gw" ++ " ") := by simp
  unfold routeLine routeWords
  rewrite [hadd, hmask, hgateway]
  simp only [List.nil_append, List.map_cons, List.map_nil, join_cons_cons, join_singleton]
  simp only [String.append_assoc]

theorem map_join_routeWords_indent (r : Route) :
    (routeWords indent r).map (join " ") = ["    " ++ routeLine r] := by
  have hline := map_join_routeWords r
  simp only [routeWords, List.nil_append, List.map_cons, List.map_nil, List.cons.injEq, and_true]
    at hline
  rw [routeWords, List.map_cons, List.map_nil, join_indent (List.cons_ne_nil _ _), hline]

theorem map_join_routes {lead : List String} {line : Route → String}
    (h : ∀ r, (routeWords lead r).map (join " ") = [line r]) (routes : List Route) :
    (routes.flatMap (routeWords lead)).map (join " ") = routes.map line := by
  rw [List.map_flatMap, List.map_eq_flatMap]
  exact List.flatMap_congr fun r _ => h r

theorem join_auto (name : String) : join " " ["auto", name] = "auto " ++ name := by
  have hauto : "auto " = "auto" ++ " " := by simp
  rewrite [hauto, join_cons_cons, join_singleton]
  simp only [String.append_assoc]

theorem map_join_dhcpWords (r : DhcpRecord) : (dhcpWords r).map (join " ") = dhcpStanza r := by
  have hiface : join " " ["iface", r.name, "inet", "dhcp"]
      = "iface " ++ r.name ++ " inet dhcp" := by
    have hlead : "iface " = "iface" ++ " " := by simp
    have hkind : " inet dhcp" = " " ++ ("inet" ++ (" " ++ "dhcp")) := by simp
    rewrite [hlead, hkind]
    simp only [join_cons_cons, join_singleton]
    simp only [String.append_assoc]
  unfold dhcpWords dhcpStanza
  simp only [List.map_append, map_join_routes map_join_routeWords, List.map_cons, List.map_nil,
    join_singleton, join_auto, hiface]

/-- A line of a stanza with one field. -/
theorem join_field (lead key field : String) (hlead : lead = "    " ++ (key ++ " ")) :
    join " " (indent ++ [key, field]) = lead ++ field := by
  rw [join_indent (List.cons_ne_nil _ _), join_cons_cons, join_singleton, hlead]
  simp only [String.append_assoc]

theorem map_join_gatewayWords (r : StaticRecord) :
    (gatewayWords r).map (join " ") = gatewayLines r := by
  unfold gatewayWords gatewayLines
  cases r.isDefaultForGateway with
  | false => rfl
  | true =>
    have hbroadcast := join_field "    broadcast " "broadcast" r.broadcast (by simp)
    have hgateway := join_field "    gateway " "gateway" r.gateway (by simp)
    cases r.isVersion6 with
    | false => simp [hbroadcast, hgateway]
    | true => simp [hgateway]

theorem map_join_staticWords (r : StaticRecord) :
    (staticWords r).map (join " ") = staticStanza r := by
  have hiface : join " " ["iface", r.name, familyWord r, "static"]
      = "iface " ++ r.name ++ (if r.isVersion6 then " inet6" else " inet") ++ " static" := by
    have hlead : "iface " = "iface" ++ " " := by simp
    have hkind : " static" = " " ++ "static" := by simp
    have hfamily : (if r.isVersion6 then " inet6" else " inet") = " " ++ familyWord r := by
      unfold familyWord
      cases r.isVersion6 <;> simp
    rewrite [hlead, hfamily, hkind]
    simp only [join_cons_cons, join_singleton]
    simp only [String.append_assoc]
  have haddress := join_field "    address " "address" r.address (by simp)
  have hnetwork := join_field "    network " "network" r.network (by simp)
  have hnetmask := join_field "    netmask " "netmask" r.netmask (by simp)
  unfold staticWords staticStanza
  simp only [List.map_append, map_join_routes map_join_routeWords_indent, map_join_gatewayWords,
    List.map_cons, List.map_nil, join_singleton, join_auto, hiface, haddress, hnetmask]
  cases r.isVersion6 with
  | false => simp only [Bool.false_eq_true, if_false, List.map_cons, List.map_nil, hnetwork]
  | true => simp only [if_true, List.map_nil]

theorem map_join_footerWords (statics : List StaticRecord) (dnsServers : List String) :
    (footerWords statics dnsServers).map (join " ") = footer statics dnsServers := by
  have haccept : join " " ["accept_ra", "1"] = "accept_ra 1" := by
    rw [join_cons_cons, join_singleton]
    simp
  have hservers : dnsServers.isEmpty = false →
      join " " ("dns-nameservers" :: dnsServers) = "dns-nameservers " ++ join " " dnsServers := by
    intro hne
    cases dnsServers with
    | nil => cases hne
    | cons server servers =>
      have hlead : "dns-nameservers " = "dns-nameservers" ++ " " := by simp
      rewrite [hlead, join_cons_cons]
      simp only [String.append_assoc]
  unfold footerWords footer
  cases hempty : dnsServers.isEmpty with
  | true => cases statics.any StaticRecord.isVersion6 <;> simp [join_singleton, haccept]
  | false =>
    cases statics.any StaticRecord.isVersion6 <;>
      simp [join_singleton, haccept, hservers hempty]

/-- The words of the interfaces file. -/
theorem interfaces_eq_ofWords (c : NetworkConfig) : c.interfaces = ofWords (fileWords c) := by
  have hheader : join " " ["#", "Generated", "by", "cirrus-agent"] = header := by
    simp only [join_cons_cons, join_singleton]
    simp [header]
  have hlo : join " " ["iface", "lo", "inet", "loopback"] = "iface lo inet loopback" := by
    simp only [join_cons_cons, join_singleton]
    simp
  have hauto : join " " ["auto", "lo"] = "auto lo" := by
    rw [join_auto]
    simp
  unfold NetworkConfig.interfaces interfacesFile ofWords fileWords
  simp only [List.map_append, List.map_flatMap, map_join_dhcpWords, map_join_staticWords,
    map_join_footerWords, List.map_cons, List.map_nil, hheader, hauto, hlo]

/-! ## 3. Where a stanza ends -/

/-- What an item prints is told from whatever may come after it, up to a relation between items. -/
def Delimited {α β : Type} (print : α → List β) (Next : List β → Prop) (R : α → α → Prop) : Prop :=
  ∀ a a' rest rest', Next rest → Next rest' → print a ++ rest = print a' ++ rest' →
    R a a' ∧ rest = rest'

/-- **Delimited items are told one by one** from what comes after them, when that does not start
    like an item. -/
theorem Delimited.flatMap {α β : Type} {print : α → List β} {Next : List β → Prop}
    {R : α → α → Prop} (h : Delimited print Next R) (hnext : ∀ a rest, Next (print a ++ rest))
    {l l' : List α} {rest rest' : List β} (hrest : Next rest) (hrest' : Next rest')
    (hstop : ∀ a more, rest ≠ print a ++ more) (hstop' : ∀ a more, rest' ≠ print a ++ more)
    (heq : l.flatMap print ++ rest = l'.flatMap print ++ rest') :
    List.Forall₂ R l l' ∧ rest = rest' := by
  have hitems : ∀ (l : List α) {rest : List β}, Next rest → Next (l.flatMap print ++ rest) := by
    intro l rest hrest
    cases l with
    | nil => exact hrest
    | cons a l =>
      rw [List.flatMap_cons, List.append_assoc]
      exact hnext a _
  -- along both lists: where one of them ends first, its rest would start like an item
  induction l generalizing l' with
  | nil =>
    cases l' with
    | nil => exact ⟨.nil, heq⟩
    | cons a' l' =>
      rw [List.flatMap_cons, List.append_assoc] at heq
      exact absurd heq (hstop a' _)
  | cons a l ih =>
    rw [List.flatMap_cons, List.append_assoc] at heq
    cases l' with
    | nil => exact absurd heq.symm (hstop' a _)
    | cons a' l' =>
      rw [List.flatMap_cons, List.append_assoc] at heq
      obtain ⟨hfirst, hmore⟩ := h a a' _ _ (hitems l hrest) (hitems l' hrest') heq
      obtain ⟨hrelated, hend⟩ := ih hmore
      exact ⟨.cons hfirst hrelated, hend⟩

/-- The next line is blank. -/
def StartsBlank (lines : List (List String)) : Prop := ∃ more, lines = [""] :: more

theorem routeWords_delimited (lead : List String) :
    Delimited (routeWords lead) (fun _ => True) Eq := by
  rintro ⟨destination, gateway, netmask⟩ ⟨destination', gateway', netmask'⟩ rest rest' - - heq
  simp only [routeWords, List.cons_append, List.nil_append, List.cons.injEq,
    List.append_cancel_left_eq, true_and, and_true] at heq
  obtain ⟨⟨rfl, rfl, rfl⟩, rfl⟩ := heq
  exact ⟨rfl, rfl⟩

/-- Routes are told from the blank line after them. -/
theorem routes_inj {lead : List String} {routes routes' : List Route}
    {rest rest' : List (List String)} (hrest : StartsBlank rest) (hrest' : StartsBlank rest')
    (heq : routes.flatMap (routeWords lead) ++ rest = routes'.flatMap (routeWords lead) ++ rest') :
    routes = routes' ∧ rest = rest' := by
  have hstop : ∀ {rest : List (List String)}, StartsBlank rest →
      ∀ r more, rest ≠ routeWords lead r ++ more := by
    rintro _ ⟨tail, rfl⟩ r more hline
    have hlength := congrArg List.length (List.cons.inj hline).1
    simp at hlength
  obtain ⟨hroutes, hend⟩ := (routeWords_delimited lead).flatMap (fun _ _ => trivial) trivial trivial
    (hstop hrest) (hstop hrest') heq
  exact ⟨List.forall₂_eq_eq_eq ▸ hroutes, hend⟩

/-! ## 4. What is told -/

/-- The records are alike in what their stanzas are about. -/
structure DhcpRecord.Matches (r r' : DhcpRecord) : Prop where
  name : r.name = r'.name
  routes : r.routes = r'.routes

/-- The records are alike in what their stanzas are about. -/
structure StaticRecord.Matches (r r' : StaticRecord) : Prop where
  name : r.name = r'.name
  isVersion6 : r.isVersion6 = r'.isVersion6
  address : r.address = r'.address
  netmask : r.netmask = r'.netmask
  routes : r.routes = r'.routes
  isDefaultForGateway : r.isDefaultForGateway = r'.isDefaultForGateway
  network : r.isVersion6 = false → r.network = r'.network
  gateway : r.isDefaultForGateway = true → r.gateway = r'.gateway
  broadcast : r.isDefaultForGateway = true → r.isVersion6 = false → r.broadcast = r'.broadcast

/-- The configurations are alike in what the interfaces file is about. -/
structure NetworkConfig.Matches (c c' : NetworkConfig) : Prop where
  dnsServers : c.dnsServers = c'.dnsServers
  dhcps : List.Forall₂ DhcpRecord.Matches c.dhcps c'.dhcps
  statics : List.Forall₂ StaticRecord.Matches c.statics c'.statics

theorem dhcpWords_delimited : Delimited dhcpWords StartsBlank DhcpRecord.Matches := by
  intro r r' rest rest' hrest hrest' heq
  simp only [dhcpWords, List.cons_append, List.nil_append, List.cons.injEq, true_and, and_true]
    at heq
  obtain ⟨hname, -, hroutes⟩ := heq
  obtain ⟨hroutes, hend⟩ := routes_inj hrest hrest' hroutes
  exact ⟨⟨hname, hroutes⟩, hend⟩

/-- What comes after the lines about a gateway starts like a route or is blank. -/
theorem routes_head {routes : List Route} {rest more : List (List String)} {line : List String}
    (hrest : StartsBlank rest)
    (heq : routes.flatMap (routeWords indent) ++ rest = line :: more) :
    line = [""] ∨ ∃ words, line = indent ++ "post-up" :: words := by
  cases routes with
  | nil =>
    obtain ⟨tail, rfl⟩ := hrest
    exact Or.inl (List.cons.inj heq).1.symm
  | cons r routes => exact Or.inr ⟨_, (List.cons.inj heq).1.symm⟩

/-- The first of the lines about a gateway is neither. -/
theorem gatewayWords_head {r : StaticRecord} (hdefault : r.isDefaultForGateway = true) :
    ∃ key field more, gatewayWords r = (indent ++ [key, field]) :: more ∧ key ≠ "post-up" := by
  unfold gatewayWords
  rw [if_pos hdefault]
  cases r.isVersion6 with
  | false => exact ⟨_, _, _, rfl, by decide⟩
  | true => exact ⟨_, _, _, rfl, by decide⟩

theorem gatewayWords_ne_routes {r : StaticRecord} {routes : List Route}
    {rest more : List (List String)} (hdefault : r.isDefaultForGateway = true)
    (hrest : StartsBlank rest) :
    gatewayWords r ++ more ≠ routes.flatMap (routeWords indent) ++ rest := by
  intro heq
  obtain ⟨key, field, lines, hwords, hkey⟩ := gatewayWords_head hdefault
  rw [hwords] at heq
  rcases routes_head hrest heq.symm with hblank | ⟨words, hroute⟩
  · cases hblank
  · simp [indent, hkey] at hroute

/-- The lines about a gateway and the routes after them. -/
theorem gatewayWords_inj {r r' : StaticRecord} {rest rest' : List (List String)}
    (hversion : r.isVersion6 = r'.isVersion6) (hrest : StartsBlank rest)
    (hrest' : StartsBlank rest')
    (heq : gatewayWords r ++ (r.routes.flatMap (routeWords indent) ++ rest)
      = gatewayWords r' ++ (r'.routes.flatMap (routeWords indent) ++ rest')) :
    r.isDefaultForGateway = r'.isDefaultForGateway
      ∧ (r.isDefaultForGateway = true → r.gateway = r'.gateway)
      ∧ (r.isDefaultForGateway = true → r.isVersion6 = false → r.broadcast = r'.broadcast)
      ∧ r.routes = r'.routes ∧ rest = rest' := by
  cases hdefault : r.isDefaultForGateway with
  | false =>
    cases hdefault' : r'.isDefaultForGateway with
    | false =>
      simp only [gatewayWords, hdefault, hdefault', Bool.false_eq_true, if_false,
        List.nil_append] at heq
      exact ⟨rfl, nofun, nofun, routes_inj hrest hrest' heq⟩
    | true =>
      simp only [gatewayWords.eq_def r, hdefault, Bool.false_eq_true, if_false,
        List.nil_append] at heq
      exact absurd heq.symm (gatewayWords_ne_routes hdefault' hrest)
  | true =>
    cases hdefault' : r'.isDefaultForGateway with
    | false =>
      simp only [gatewayWords.eq_def r', hdefault', Bool.false_eq_true, if_false,
        List.nil_append] at heq
      exact absurd heq (gatewayWords_ne_routes hdefault hrest')
    | true =>
      simp only [gatewayWords, hdefault, hdefault', ← hversion] at heq
      cases hsix : r.isVersion6 with
      | false =>
        simp only [hsix, Bool.false_eq_true, if_false, if_true, List.cons_append, List.nil_append,
          List.cons.injEq, List.append_cancel_left_eq, true_and, and_true] at heq
        obtain ⟨hbroadcast, hgateway, hroutes⟩ := heq
        exact ⟨rfl, fun _ => hgateway, fun _ _ => hbroadcast, routes_inj hrest hrest' hroutes⟩
      | true =>
        simp only [hsix, if_true, List.cons_append, List.nil_append,
          List.cons.injEq, List.append_cancel_left_eq, true_and, and_true] at heq
        obtain ⟨hgateway, hroutes⟩ := heq
        exact ⟨rfl, fun _ => hgateway, nofun, routes_inj hrest hrest' hroutes⟩

theorem familyWord_inj {r r' : StaticRecord} (h : familyWord r = familyWord r') :
    r.isVersion6 = r'.isVersion6 := by
  unfold familyWord at h
  cases hsix : r.isVersion6 <;> cases hsix' : r'.isVersion6 <;> simp [hsix, hsix'] at h ⊢

theorem staticWords_delimited : Delimited staticWords StartsBlank StaticRecord.Matches := by
  intro r r' rest rest' hrest hrest' heq
  simp only [staticWords, List.append_assoc, List.cons_append, List.nil_append, List.cons.injEq,
    List.append_cancel_left_eq, true_and, and_true] at heq
  obtain ⟨hname, ⟨-, hfamily⟩, haddress, hlines⟩ := heq
  have hversion := familyWord_inj hfamily
  have hnetwork : (r.isVersion6 = false → r.network = r'.network) ∧ r.netmask = r'.netmask
      ∧ gatewayWords r ++ (r.routes.flatMap (routeWords indent) ++ rest)
        = gatewayWords r' ++ (r'.routes.flatMap (routeWords indent) ++ rest') := by
    rw [← hversion] at hlines
    cases hsix : r.isVersion6 with
    | false =>
      simp only [hsix, Bool.false_eq_true, if_false, List.cons_append, List.nil_append,
        List.cons.injEq, List.append_cancel_left_eq, true_and, and_true] at hlines
      exact ⟨fun _ => hlines.1, hlines.2⟩
    | true =>
      simp only [hsix, if_true, List.nil_append,
        List.cons.injEq, List.append_cancel_left_eq, true_and, and_true] at hlines
      exact ⟨nofun, hlines⟩
  obtain ⟨hnetwork, hnetmask, hgateways⟩ := hnetwork
  obtain ⟨hdefault, hgateway, hbroadcast, hroutes, hend⟩ :=
    gatewayWords_inj hversion hrest hrest' hgateways
  exact ⟨⟨hname, hversion, haddress, hnetmask, hroutes, hdefault, hnetwork, hgateway, hbroadcast⟩,
    hend⟩

theorem footerWords_inj {statics statics' : List StaticRecord}
    {dnsServers dnsServers' : List String}
    (heq : footerWords statics dnsServers = footerWords statics' dnsServers') :
    dnsServers = dnsServers' := by
  unfold footerWords at heq
  generalize statics.any StaticRecord.isVersion6 = six at heq
  generalize statics'.any StaticRecord.isVersion6 = six' at heq
  cases six <;> cases six' <;> cases dnsServers <;> cases dnsServers' <;> simp at heq ⊢ <;>
    exact heq

/-- What comes after the stanzas of leased addresses does not start like one of them. -/
theorem statics_ne_dhcpWords (statics : List StaticRecord) (dnsServers : List String)
    (r : DhcpRecord) (more : List (List String)) :
    statics.flatMap staticWords ++ footerWords statics dnsServers ≠ dhcpWords r ++ more := by
  cases statics with
  | nil => cases dnsServers <;> simp [footerWords, dhcpWords]
  | cons s statics => simp [staticWords, dhcpWords]

/-- What comes after the stanzas of fixed addresses does not start like one of them. -/
theorem footerWords_ne_staticWords (statics : List StaticRecord) (dnsServers : List String)
    (r : StaticRecord) (more : List (List String)) :
    footerWords statics dnsServers ≠ staticWords r ++ more := by
  unfold footerWords
  generalize statics.any StaticRecord.isVersion6 = six
  cases six <;> cases dnsServers <;> simp [staticWords]

theorem statics_startBlank (statics : List StaticRecord) (dnsServers : List String) :
    StartsBlank (statics.flatMap staticWords ++ footerWords statics dnsServers) := by
  cases statics with
  | nil => exact ⟨_, rfl⟩
  | cons s statics => exact ⟨_, rfl⟩

/-- The words of a file tell what the configuration is in all that the file is about. -/
theorem matches_of_fileWords {c c' : NetworkConfig} (heq : fileWords c = fileWords c') :
    c.Matches c' := by
  simp only [fileWords, List.append_assoc, List.append_cancel_left_eq] at heq
  obtain ⟨hdhcps, hrest⟩ := dhcpWords_delimited.flatMap (fun _ _ => ⟨_, rfl⟩)
    (statics_startBlank _ _) (statics_startBlank _ _) (statics_ne_dhcpWords _ _)
    (statics_ne_dhcpWords _ _) heq
  obtain ⟨hstatics, hfooter⟩ := staticWords_delimited.flatMap (fun _ _ => ⟨_, rfl⟩)
    ⟨_, rfl⟩ ⟨_, rfl⟩ (footerWords_ne_staticWords _ _) (footerWords_ne_staticWords _ _) hrest
  exact ⟨footerWords_inj hfooter, hdhcps, hstatics⟩

theorem flatMap_eq_of_forall₂ {α β : Type} {R : α → α → Prop} {f : α → List β} {l l' : List α}
    (h : List.Forall₂ R l l') (hf : ∀ a a', R a a' → f a = f a') : l.flatMap f = l'.flatMap f := by
  have hrel := List.rel_flatMap (P := Eq) h fun a a' ha => List.forall₂_eq_eq_eq ▸ hf a a' ha
  rwa [List.forall₂_eq_eq_eq] at hrel

theorem DhcpRecord.Matches.words {r r' : DhcpRecord} (h : r.Matches r') :
    dhcpWords r = dhcpWords r' := by rw [dhcpWords, dhcpWords, h.name, h.routes]

theorem StaticRecord.Matches.words {r r' : StaticRecord} (h : r.Matches r') :
    staticWords r = staticWords r' := by
  have hfamily : familyWord r = familyWord r' := by rw [familyWord, familyWord, h.isVersion6]
  have hgateway : gatewayWords r = gatewayWords r' := by
    unfold gatewayWords
    rw [← h.isDefaultForGateway, ← h.isVersion6]
    cases hdefault : r.isDefaultForGateway with
    | false => rfl
    | true =>
      cases hsix : r.isVersion6 with
      | false => simp [h.gateway hdefault, h.broadcast hdefault hsix]
      | true => simp [h.gateway hdefault]
  have hnetwork : (if r.isVersion6 then [] else [indent ++ ["network", r.network]])
      = if r'.isVersion6 then [] else [indent ++ ["network", r'.network]] := by
    rw [← h.isVersion6]
    cases hsix : r.isVersion6 with
    | false => simp [h.network hsix]
    | true => rfl
  rw [staticWords, staticWords, hfamily, hgateway, hnetwork, h.name, h.address, h.netmask, h.routes]

theorem fileWords_of_matches {c c' : NetworkConfig} (h : c.Matches c') :
    fileWords c = fileWords c' := by
  have hany : ∀ {l l' : List StaticRecord}, List.Forall₂ StaticRecord.Matches l l' →
      l.any StaticRecord.isVersion6 = l'.any StaticRecord.isVersion6 := by
    intro l l' h
    induction h with
    | nil => rfl
    | cons hr _ ih => rw [List.any_cons, List.any_cons, hr.isVersion6, ih]
  unfold fileWords footerWords
  rw [flatMap_eq_of_forall₂ h.dhcps fun _ _ => DhcpRecord.Matches.words,
    flatMap_eq_of_forall₂ h.statics fun _ _ => StaticRecord.Matches.words, hany h.statics,
    h.dnsServers]

/-! ## 5. The whole file -/

/-- The texts of a route. -/
def routeTexts (r : Route) : List String := [r.destination, r.netmask, r.gateway]

/-- The texts of a record that its stanza may have. -/
def DhcpRecord.texts (r : DhcpRecord) : List String := r.name :: r.routes.flatMap routeTexts

/-- The texts of a record that its stanza may have. -/
def StaticRecord.texts (r : StaticRecord) : List String :=
  [r.name, r.address, r.netmask, r.network, r.broadcast, r.gateway] ++ r.routes.flatMap routeTexts

/-- The texts of a configuration that the interfaces file may have. -/
def NetworkConfig.texts (c : NetworkConfig) : List String :=
  c.dhcps.flatMap DhcpRecord.texts ++ c.statics.flatMap StaticRecord.texts ++ c.dnsServers

theorem indent_words : ∀ word ∈ indent, IsWord word := by decide

theorem routeWords_worded {lead : List String} {r : Route} (hlead : ∀ word ∈ lead, IsWord word)
    (h : ∀ text ∈ routeTexts r, IsWord text) : Worded (routeWords lead r) := by
  have hkeys : ∀ word ∈ ["post-up", "route", "add", "-net", "netmask", "gw"], IsWord word := by
    decide
  simp only [routeTexts, List.forall_mem_cons] at h hkeys
  refine worded_cons.mpr ⟨⟨by simp, List.forall_mem_append.mpr ⟨hlead, ?_⟩⟩, worded_nil⟩
  simp [h, hkeys]

theorem routes_worded {lead : List String} {routes : List Route}
    (hlead : ∀ word ∈ lead, IsWord word) (h : ∀ text ∈ routes.flatMap routeTexts, IsWord text) :
    Worded (routes.flatMap (routeWords lead)) :=
  worded_flatMap fun r hr => routeWords_worded hlead fun text htext =>
    h text (List.mem_flatMap.mpr ⟨r, hr, htext⟩)

theorem dhcpWords_worded {r : DhcpRecord} (h : ∀ text ∈ r.texts, IsWord text) :
    Worded (dhcpWords r) := by
  have hkeys : ∀ word ∈ ["", "auto", "iface", "inet", "dhcp"], IsWord word := by decide
  obtain ⟨hname, hroutes⟩ := List.forall_mem_cons.mp h
  refine worded_append.mpr ⟨?_, routes_worded nofun hroutes⟩
  simp only [List.forall_mem_cons] at hkeys
  simp [hname, hkeys]

/-- A line of a stanza with one field. -/
theorem field_worded {key field : String} (hkey : IsWord key) (hfield : IsWord field) :
    Worded [indent ++ [key, field]] := by
  refine worded_cons.mpr ⟨⟨by simp, List.forall_mem_append.mpr ⟨indent_words, ?_⟩⟩, worded_nil⟩
  simp [hkey, hfield]

theorem staticWords_worded {r : StaticRecord} (h : ∀ text ∈ r.texts, IsWord text) :
    Worded (staticWords r) := by
  have hkeys : ∀ word ∈ ["", "auto", "iface", "inet", "inet6", "static"], IsWord word := by decide
  obtain ⟨htexts, hroutes⟩ := List.forall_mem_append.mp h
  simp only [List.forall_mem_cons] at hkeys htexts
  obtain ⟨hname, haddress, hnetmask, hnetwork, hbroadcast, hgateway, -⟩ := htexts
  have hfamily : IsWord (familyWord r) := by
    unfold familyWord
    cases r.isVersion6 <;> simp [hkeys]
  have hgateways : Worded (gatewayWords r) := by
    unfold gatewayWords
    have hlast : Worded [indent ++ ["gateway", r.gateway]] := field_worded (by decide) hgateway
    have hfirst : Worded [indent ++ ["broadcast", r.broadcast]] :=
      field_worded (by decide) hbroadcast
    split
    · split
      · exact hlast
      · exact worded_append.mpr ⟨hfirst, hlast⟩
    · exact worded_nil
  have hnetworks : Worded (if r.isVersion6 then [] else [indent ++ ["network", r.network]]) := by
    split
    · exact worded_nil
    · exact field_worded (by decide) hnetwork
  have hstart : Worded [[""], ["auto", r.name], ["iface", r.name, familyWord r, "static"]] := by
    simp [hname, hfamily, hkeys]
  have haddresses : Worded [indent ++ ["address", r.address]] := field_worded (by decide) haddress
  have hnetmasks : Worded [indent ++ ["netmask", r.netmask]] := field_worded (by decide) hnetmask
  unfold staticWords
  simp only [worded_append]
  exact ⟨⟨⟨⟨worded_append.mpr ⟨hstart, haddresses⟩, hnetworks⟩, hnetmasks⟩, hgateways⟩,
    routes_worded indent_words hroutes⟩

theorem footerWords_worded {statics : List StaticRecord} {dnsServers : List String}
    (h : ∀ text ∈ dnsServers, IsWord text) : Worded (footerWords statics dnsServers) := by
  unfold footerWords
  refine worded_append.mpr ⟨worded_append.mpr ⟨?_, ?_⟩, ?_⟩
  · exact worded_cons.mpr ⟨by decide, worded_nil⟩
  · split
    · exact worded_cons.mpr ⟨by decide, worded_nil⟩
    · exact worded_nil
  · split
    · exact worded_nil
    · exact worded_cons.mpr ⟨⟨by simp, List.forall_mem_cons.mpr ⟨by decide, h⟩⟩, worded_nil⟩

theorem fileWords_worded {c : NetworkConfig} (h : ∀ text ∈ c.texts, IsWord text) :
    Worded (fileWords c) := by
  have hmem : ∀ text, text ∈ c.dhcps.flatMap DhcpRecord.texts
      ∨ text ∈ c.statics.flatMap StaticRecord.texts ∨ text ∈ c.dnsServers → IsWord text := by
    intro text htext
    exact h text (by simpa [NetworkConfig.texts, or_assoc] using htext)
  unfold fileWords
  refine worded_append.mpr ⟨worded_append.mpr ⟨worded_append.mpr ⟨?_, ?_⟩, ?_⟩, ?_⟩
  · simp only [worded_cons]
    exact ⟨by decide, by decide, by decide, worded_nil⟩
  · exact worded_flatMap fun r hr => dhcpWords_worded fun text htext =>
      hmem text (Or.inl (List.mem_flatMap.mpr ⟨r, hr, htext⟩))
  · exact worded_flatMap fun r hr => staticWords_worded fun text htext =>
      hmem text (Or.inr (Or.inl (List.mem_flatMap.mpr ⟨r, hr, htext⟩)))
  · exact footerWords_worded fun text htext => hmem text (Or.inr (Or.inr htext))

/-- **Two configurations have the same interfaces file exactly when they are alike** in all that the
    file is about, as long as no text in it holds a space or a line feed. So a host whose file was
    made for one of them is found to need a change for the other one unless they are alike. -/
theorem interfaces_eq_iff {H : Type} [Host H] {c c' : NetworkConfig}
    (hc : ∀ text ∈ c.texts, IsWord text) (hc' : ∀ text ∈ c'.texts, IsWord text) :
    (Utf8.encode c.interfaces = Utf8.encode c'.interfaces ↔ c.Matches c')
      ∧ ∀ (paths : NetPaths) (s : H),
        Files.contents s paths.interfaces = .ok (Utf8.encode c.interfaces) → ¬ c.Matches c' →
          (writeNetworkConfigs paths c'.interfaces c'.dhclient? true s).1 = .ok true := by
  have hfile : Utf8.encode c.interfaces = Utf8.encode c'.interfaces ↔ c.Matches c' := by
    constructor
    · intro heq
      have htext := Utf8.encode_injective heq
      rw [interfaces_eq_ofWords, interfaces_eq_ofWords] at htext
      exact matches_of_fileWords
        (ofWords_injective (fileWords_worded hc) (fileWords_worded hc') htext)
    · intro h
      rw [interfaces_eq_ofWords, interfaces_eq_ofWords, fileWords_of_matches h]
  refine ⟨hfile, fun paths s hcontents hne => ?_⟩
  have hstale : holds s paths.interfaces (Utf8.encode c'.interfaces) = false := by
    rw [holds, hcontents]
    simp [mt hfile.mp hne]
  rw [writeNetworkConfigs_dry, filesHold, hstale]
  rfl

/-- A leased address with a route, next to a fixed address. -/
def routedConfig : NetworkConfig where
  dhcps := [⟨"eth0", "aa:bb:cc:dd:ee:00", [⟨"10.1.0.0", "10.0.0.1", "255.255.0.0"⟩]⟩]
  statics := [⟨"eth1", "10.0.0.5", "255.255.255.0", "10.0.0.0", "10.0.0.255", "10.0.0.1", false,
    false, "aa:bb:cc:dd:ee:01", []⟩]
  dnsServers := ["8.8.8.8"]

/-- The same, with the route at the other interface. -/
def reroutedConfig : NetworkConfig where
  dhcps := [⟨"eth0", "aa:bb:cc:dd:ee:00", []⟩]
  statics := [⟨"eth1", "10.0.0.5", "255.255.255.0", "10.0.0.0", "10.0.0.255", "10.0.0.1", false,
    false, "aa:bb:cc:dd:ee:01", [⟨"10.1.0.0", "10.0.0.1", "255.255.0.0"⟩]⟩]
  dnsServers := ["8.8.8.8"]

/-- A host whose interfaces file was made for the first one. -/
def routedHost : Scripted :=
  ({} : Scripted).putFile ⟨"/etc/network/interfaces"⟩ (Utf8.encode routedConfig.interfaces)

/-- A route that moves across the border of two stanzas shows in the file. -/
theorem interfaces_eq_iff_rerouted :
    (∀ text ∈ routedConfig.texts, IsWord text) ∧ (∀ text ∈ reroutedConfig.texts, IsWord text)
      ∧ ¬ routedConfig.Matches reroutedConfig
      ∧ Utf8.encode routedConfig.interfaces ≠ Utf8.encode reroutedConfig.interfaces
      ∧ (writeNetworkConfigs {} reroutedConfig.interfaces reroutedConfig.dhclient? true
        routedHost).1 = .ok true := by
  have hwords : ∀ text ∈ routedConfig.texts, IsWord text := by decide
  have hwords' : ∀ text ∈ reroutedConfig.texts, IsWord text := by decide
  have hdifferent : ¬ routedConfig.Matches reroutedConfig := by
    intro h
    cases h.dhcps with
    | cons hrecord _ => cases hrecord.routes
  obtain ⟨hfile, hchange⟩ := interfaces_eq_iff (H := Scripted) hwords hwords'
  have hcontents : Files.contents routedHost ({} : NetPaths).interfaces
      = .ok (Utf8.encode routedConfig.interfaces) := by
    simp [routedHost, Files.contents, Scripted.contents, Scripted.fileAt?, Scripted.putFile,
      Scripted.resolve, Scripted.follow, Assoc.get?_set, Assoc.get?]
  exact ⟨hwords, hwords', hdifferent, mt hfile.mp hdifferent,
    hchange {} routedHost hcontents hdifferent⟩

end HostAgent.Net
