import HostAgent.Host.Scripted
import HostAgent.Net.Resolver
import Mathlib.Data.List.Infix
import Mathlib.Data.List.TakeWhile

/-!
# Name servers that the resolver knows

The resolver's configuration is looked through for each desired server as a text, wherever it occurs.
A server that stands there as a word is found. But so is one whose address is a part of another one,
as `8.8.8.8` is of `18.8.8.8`, which the resolver does not know.

* `infix_iff_words` -- where a word can occur in a text;
* `validateDns_apply` -- what is looked for;
* `validateDns_names_word` -- when a server is found, and when it is not really there.
-/

namespace HostAgent

/-! ## 1. Words -/

namespace Text

/-- The text is one word: it is not empty and holds no blank. -/
structure Unbroken (w : List Char) : Prop where
  nonempty : w ≠ []
  solid : ∀ c ∈ w, isBlank c = false

instance (w : List Char) : Decidable (Unbroken w) :=
  decidable_of_iff (w ≠ [] ∧ (w.all fun c => !isBlank c) = true)
    ⟨fun h => ⟨h.1, by simpa using h.2⟩, fun h => ⟨h.nonempty, by simpa using h.solid⟩⟩

/-- The words of a text: whatever stands between its blanks. -/
def words (t : List Char) : List (List Char) := (t.splitOnP isBlank).filter fun w => !w.isEmpty

/-- The first piece of a text ends at the first blank. -/
theorem splitOnP_isBlank (t : List Char) :
    ∃ more, t.splitOnP isBlank = t.takeWhile (fun c => !isBlank c) :: more := by
  induction t with
  | nil => exact ⟨[], rfl⟩
  | cons c t ih =>
    obtain ⟨more, hmore⟩ := ih
    rw [List.splitOnP_cons_eq_if_modifyHead, hmore, List.takeWhile_cons]
    cases isBlank c with
    | true => exact ⟨_, rfl⟩
    | false => exact ⟨_, rfl⟩

/-- What holds no blank and starts a text does not reach beyond its first piece. -/
theorem prefix_takeWhile_iff {w t : List Char} (hw : ∀ c ∈ w, isBlank c = false) :
    w <+: t.takeWhile (fun c => !isBlank c) ↔ w <+: t := by
  constructor
  · exact fun h => h.trans (List.takeWhile_prefix _)
  · rintro ⟨rest, rfl⟩
    rw [List.takeWhile_append_of_pos fun c hc => by rw [hw c hc]; rfl]
    exact List.prefix_append _ _

/-- A word occurs in a text exactly if it occurs in one of the pieces between blanks. -/
theorem infix_iff_pieces {w : List Char} (hw : Unbroken w) (t : List Char) :
    w <:+: t ↔ ∃ piece ∈ t.splitOnP isBlank, w <:+: piece := by
  induction t with
  | nil => simp
  | cons c t ih =>
    obtain ⟨more, hpieces⟩ := splitOnP_isBlank t
    rw [List.infix_cons_iff, ih, List.splitOnP_cons_eq_if_modifyHead, hpieces,
      ← prefix_takeWhile_iff hw.solid, List.takeWhile_cons]
    cases isBlank c with
    | true => simp [hw.nonempty]
    | false => simp [List.infix_cons_iff, or_assoc]

/-- **A word occurs in a text exactly if it is a part of one of the text's words.** -/
theorem infix_iff_words {w : List Char} (hw : Unbroken w) (t : List Char) :
    w <:+: t ↔ ∃ word ∈ words t, w <:+: word := by
  rw [infix_iff_pieces hw]
  refine exists_congr fun piece => ?_
  unfold words
  rw [List.mem_filter, and_assoc]
  refine and_congr_right fun _ => ⟨fun h => ⟨?_, h⟩, fun h => h.2⟩
  have hne : piece ≠ [] := by
    rintro rfl
    exact hw.nonempty (List.infix_nil.mp h)
  simpa using hne

end Text

namespace Net

/-! ## 2. What is looked for -/

variable {S : Type} [Files S] {resolvConf : Path} {servers : List String} {s : S} {text : String}

/-- Some server occurs in the text. -/
theorem mentionsServer_iff : mentionsServer servers text = true
    ↔ ∃ server ∈ servers, server.toList <:+: text.toList := by
  unfold mentionsServer
  rw [List.any_eq_true]
  exact exists_congr fun server => and_congr_right fun _ => Text.occursIn_iff

/-- With servers to look for and a configuration that can be read, the check succeeds when one of
    them occurs there; else it names them all. It only looks. -/
theorem validateDns_apply (hservers : servers ≠ []) (hread : readText resolvConf s = (.ok text, s)) :
    validateDns resolvConf servers s
      = (if mentionsServer servers text then .ok () else .error (.dnsNotConfigured servers), s) := by
  have hsome : servers.isEmpty = false := by simpa using hservers
  have hwithin : (readText resolvConf).within ("Reading " ++ resolvConf.text) s = (.ok text, s) := by
    rw [Pass.within_apply, hread]
    rfl
  unfold validateDns
  rw [hsome]
  refine (Pass.bind_ok hwithin).trans ?_
  cases mentionsServer servers text with
  | true => rfl
  | false => rfl

/-! ## 3. When a server is found -/

/-- Some server is a word of the text. -/
def NamesServer (servers : List String) (text : String) : Prop :=
  ∃ server ∈ servers, server.toList ∈ Text.words text.toList

/-- Some server is a part of a longer word of the text. -/
def HidesServer (servers : List String) (text : String) : Prop :=
  ∃ server ∈ servers, ∃ word ∈ Text.words text.toList,
    server.toList <:+: word ∧ word ≠ server.toList

instance (servers : List String) (text : String) : Decidable (NamesServer servers text) :=
  inferInstanceAs (Decidable (∃ server ∈ servers, _))

instance (servers : List String) (text : String) : Decidable (HidesServer servers text) :=
  inferInstanceAs (Decidable (∃ server ∈ servers, ∃ word ∈ Text.words text.toList, _))

/-- A server occurs in a text as one of its words, or inside a longer one. -/
theorem mentionsServer_iff_words (hwords : ∀ server ∈ servers, Text.Unbroken server.toList) :
    mentionsServer servers text = true ↔ NamesServer servers text ∨ HidesServer servers text := by
  rw [mentionsServer_iff]
  constructor
  · intro h
    obtain ⟨server, hserver, hoccurs⟩ := h
    obtain ⟨word, hword, hpart⟩ := (Text.infix_iff_words (hwords server hserver) _).mp hoccurs
    by_cases hwhole : word = server.toList
    · exact Or.inl ⟨server, hserver, hwhole ▸ hword⟩
    · exact Or.inr ⟨server, hserver, word, hword, hpart, hwhole⟩
  · intro h
    rcases h with ⟨server, hserver, hword⟩ | ⟨server, hserver, word, hword, hpart, -⟩
    · exact ⟨server, hserver, (Text.infix_iff_words (hwords server hserver) _).mpr
        ⟨_, hword, List.infix_rfl⟩⟩
    · exact ⟨server, hserver, (Text.infix_iff_words (hwords server hserver) _).mpr
        ⟨word, hword, hpart⟩⟩

/-- **The check of the resolver succeeds exactly if a desired server is a word of its configuration,
    or a part of a longer one**; else it names all desired servers. So its success means that a
    server is configured exactly if no server is hidden in a longer word, or one is named besides. -/
theorem validateDns_names_word (hservers : servers ≠ [])
    (hwords : ∀ server ∈ servers, Text.Unbroken server.toList)
    (hread : readText resolvConf s = (.ok text, s)) :
    (NamesServer servers text ∨ HidesServer servers text →
        validateDns resolvConf servers s = (.ok (), s))
      ∧ (¬ NamesServer servers text → ¬ HidesServer servers text →
        validateDns resolvConf servers s = (.error (.dnsNotConfigured servers), s))
      ∧ (((validateDns resolvConf servers s).1 = .ok () ↔ NamesServer servers text)
        ↔ (HidesServer servers text → NamesServer servers text)) := by
  have hmentions : mentionsServer servers text = true
      ↔ NamesServer servers text ∨ HidesServer servers text := mentionsServer_iff_words hwords
  rw [validateDns_apply hservers hread]
  by_cases hfound : NamesServer servers text ∨ HidesServer servers text
  · rw [hmentions.mpr hfound]
    refine ⟨fun _ => rfl, fun hnames hhides => absurd hfound (not_or.mpr ⟨hnames, hhides⟩), ?_⟩
    exact ⟨fun h _ => h.mp rfl, fun h => ⟨fun _ => hfound.elim id h, fun _ => rfl⟩⟩
  · obtain ⟨hnames, hhides⟩ := not_or.mp hfound
    rw [Bool.eq_false_iff.mpr (fun h => hfound (hmentions.mp h))]
    refine ⟨fun h => absurd h hfound, fun _ _ => rfl, fun _ h => absurd h hhides, fun _ => ?_⟩
    exact ⟨nofun, fun h => absurd h hnames⟩

/-- A host whose resolver is configured with one server. -/
def servedHost (server : String) : Scripted :=
  ({} : Scripted).putFile ⟨"/etc/resolv.conf"⟩ (Utf8.encode ("nameserver " ++ server ++ "\n"))

/-- The resolver knows `18.8.8.8`, and the check is content though `8.8.8.8` is desired. -/
theorem validateDns_hidden_server :
    (["8.8.8.8"] : List String) ≠ [] ∧ (∀ server ∈ ["8.8.8.8"], Text.Unbroken server.toList)
      ∧ readText ⟨"/etc/resolv.conf"⟩ (servedHost "18.8.8.8")
        = (.ok "nameserver 18.8.8.8\n", servedHost "18.8.8.8")
      ∧ ¬ NamesServer ["8.8.8.8"] "nameserver 18.8.8.8\n"
      ∧ (validateDns ⟨"/etc/resolv.conf"⟩ ["8.8.8.8"] (servedHost "18.8.8.8")).1 = .ok () := by
  exact ⟨by decide, by decide +kernel, rfl, by decide +kernel, rfl⟩

/-- Two desired servers, the second of which is configured; and none of them is. -/
theorem validateDns_names_word_second :
    let servers := ["8.8.8.8", "1.1.1.1"]
    servers ≠ [] ∧ (∀ server ∈ servers, Text.Unbroken server.toList)
      ∧ readText ⟨"/etc/resolv.conf"⟩ (servedHost "1.1.1.1")
        = (.ok "nameserver 1.1.1.1\n", servedHost "1.1.1.1")
      ∧ NamesServer servers "nameserver 1.1.1.1\n"
      ∧ validateDns ⟨"/etc/resolv.conf"⟩ servers (servedHost "1.1.1.1")
        = (.ok (), servedHost "1.1.1.1")
      ∧ ¬ NamesServer servers "nameserver 9.9.9.9\n" ∧ ¬ HidesServer servers "nameserver 9.9.9.9\n"
      ∧ validateDns ⟨"/etc/resolv.conf"⟩ servers (servedHost "9.9.9.9")
        = (.error (.dnsNotConfigured servers), servedHost "9.9.9.9") := by
  intro servers
  have hservers : servers ≠ [] := by decide
  have hwords : ∀ server ∈ servers, Text.Unbroken server.toList := by decide +kernel
  have hnamed : NamesServer servers "nameserver 1.1.1.1\n" := by decide +kernel
  have hunnamed : ¬ NamesServer servers "nameserver 9.9.9.9\n" := by decide +kernel
  have hunhidden : ¬ HidesServer servers "nameserver 9.9.9.9\n" := by decide +kernel
  exact ⟨hservers, hwords, rfl, hnamed,
    (validateDns_names_word hservers hwords rfl).1 (Or.inl hnamed), hunnamed, hunhidden,
    (validateDns_names_word hservers hwords rfl).2.1 hunnamed hunhidden⟩

end Net

end HostAgent
