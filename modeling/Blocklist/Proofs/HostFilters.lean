import Blocklist.Proofs.EscapedPatterns
import Blocklist.Proofs.WhitelistRules

/-!
# Filters for a host, and the whitelist

A host is read twice, by different rules: between `||` and `^` of a filter, as a text of host
characters and dots, and by the whitelist, label by label and with a bound on its length. Whatever
the whitelist accepts the filter accepts as well, under the same name. The whitelist rule for a name
then wins over every rule that a filter has for it.

* `Pattern.hostName?`, `Whitelist.normalize?`   the two readings;
* `Whitelist.normalize?_eq_some_iff`   the names that the whitelist has for a host;
* `Filter.hostLine`, `Filter.parse_hostLine`   the filter for a host, and its rule;
* `Rule.Overrides`                     an allow rule that leaves a rule no say;
* `Filter.whitelist_overrides`         both readings agree, and the whitelist wins.
-/

namespace Blocklist

namespace Text

variable {p : Char → Bool} {c : Char} {cs : List Char}

theorem mem_dropWhile_or (h : c ∈ cs) : p c = true ∨ c ∈ cs.dropWhile p := by
  rw [← List.takeWhile_append_dropWhile (p := p) (l := cs)] at h
  exact (List.mem_append.mp h).imp_left List.mem_takeWhile_imp

/-- a character that is gone after trimming is one of those that are trimmed -/
theorem mem_trimWhile_or (h : c ∈ cs) : p c = true ∨ c ∈ trimWhile p cs := by
  rcases mem_dropWhile_or (p := p) h with hp | h
  · exact .inl hp
  · rw [trimWhile, List.mem_reverse]
    exact mem_dropWhile_or (List.mem_reverse.mpr h)

theorem isHostChar_toLower (c : Char) : isHostChar c.toLower = isHostChar c := by
  by_cases hupper : c.isUpper = true
  · have hlower : c.toLower.isAlphanum = c.isAlphanum := by
      rw [Char.isAlphanum, Char.isAlphanum, Char.isAlpha_toLower_eq_isAlpha,
        isAlpha_of_isUpper hupper, Bool.true_or, Bool.true_or]
    have halpha : c.isAlphanum = true := by
      rw [Char.isAlphanum, isAlpha_of_isUpper hupper, Bool.true_or]
    rw [isHostChar, isHostChar, hlower, halpha]
    rfl
  · rw [Char.toLower_eq_of_not_isUpper hupper]

end Text

namespace Pattern

variable {host name : List Char} {c : Char}

/-- a literal host has blanks and dots around it and host characters and dots in it -/
theorem char_of_hostName? (h : hostName? host = some name) (hc : c ∈ host) :
    Text.isBlank c = true ∨ c = '.' ∨ Text.isHostChar c = true := by
  rw [hostName?] at h
  split at h
  · rename_i hname
    rcases Text.mem_trimWhile_or (p := Text.isBlank) hc with hblank | hc
    · exact .inl hblank
    · rcases Text.mem_trimWhile_or (p := (· == '.')) hc with hdot | hc
      · exact .inr (.inl (eq_of_beq hdot))
      · have hchar := List.all_eq_true.mp hname.2 c hc
        rw [Bool.or_eq_true, beq_iff_eq] at hchar
        exact .inr hchar.symm
  · cases h

/-- marks of patterns, options and slashes are in no literal host -/
theorem ne_of_hostName? (h : hostName? host = some name) (hc : c ∈ host) {mark : Char}
    (hmark : (Text.isBlank mark || mark == '.' || Text.isHostChar mark) = false) : c ≠ mark := by
  rintro rfl
  rw [Bool.or_eq_false_iff, Bool.or_eq_false_iff, beq_eq_false_iff_ne] at hmark
  obtain ⟨⟨hblank, hdot⟩, hchar⟩ := hmark
  rcases char_of_hostName? h hc with hc | hc | hc
  · rw [hblank] at hc
    cases hc
  · exact hdot hc
  · rw [hchar] at hc
    cases hc

end Pattern

namespace Whitelist

variable {host : List Char} {s d : String}

/-- A host that the whitelist accepts is a literal host of filters, with the same name. -/
theorem hostName?_of_isName (h : isName (bare host) = true) :
    Pattern.hostName? host = some (bare host) := by
  have hne : Text.trimWhile (· == '.') (Text.trim host) ≠ [] := by
    intro hnil
    rw [bare, hnil] at h
    exact absurd h (by decide)
  have hall : (Text.trimWhile (· == '.') (Text.trim host)).all
      (fun c => Text.isHostChar c || c == '.') = true := by
    rw [List.all_eq_true]
    intro c hc
    rw [Bool.or_eq_true, beq_iff_eq]
    -- letters in lower case and other characters come from host characters and dots
    rcases char_of_isName h (List.mem_map_of_mem hc) with hdot | hchar
    · exact .inr (Text.eq_of_toLower_eq (by decide) hdot)
    · rw [Text.isHostChar_toLower] at hchar
      exact .inl hchar
  rw [Pattern.hostName?, if_pos ⟨hne, hall⟩, bare]

/-- The whitelist has the names of hosts that filters have, as far as they are not too long and have
no empty label. -/
theorem normalize?_eq_some_iff :
    normalize? s = some d ↔
      Pattern.hostName? s.toList = some d.toList ∧ isName d.toList = true := by
  constructor
  · intro h
    rw [normalize?] at h
    split at h
    · rename_i hname
      cases h
      rw [String.toList_ofList]
      exact ⟨hostName?_of_isName hname, hname⟩
    · cases h
  · rintro ⟨hhost, hname⟩
    have hbare : bare s.toList = d.toList := by
      rw [Pattern.hostName?] at hhost
      split at hhost
      · exact Option.some.inj hhost
      · cases hhost
    rw [normalize?, hbare, if_pos hname, String.ofList_toList]

end Whitelist

namespace Filter

/-! ## the filter for a host -/

/-- the pattern that is about all of a host -/
def hostPattern (host : List Char) : List Char := '|' :: '|' :: (host ++ ['^'])

/-- the line that blocks a host, with a text of options or without -/
def hostLine (host : List Char) (text? : Option (List Char)) : List Char :=
  hostPattern host ++ text?.elim [] ('$' :: ·)

/-- the rule that blocks a domain, compiled from `line` -/
def domainRule (line : List Char) (id : RuleId) (domain : String) (o : Options) : Rule where
  id := id
  priority := blockPriority
  action := .block
  condition :=
    { urlFilter := none
      requestDomains := some [domain]
      resourceTypes := o.resourceTypes
      initiatorDomains := nonEmpty? o.initiators
      excludedInitiatorDomains := nonEmpty? o.excludedInitiators
      party := o.party
      caseSensitive := if o.matchCase then some true else none }
  source := some (String.ofList (Text.trim line))

variable {host name : List Char} {text? : Option (List Char)} {o : Options}

section
variable (host)

theorem getLast?_hostPattern : (hostPattern host).getLast? = some '^' := by
  rw [hostPattern, ← List.cons_append, ← List.cons_append, List.getLast?_concat]

theorem trim_hostPattern : Text.trim (hostPattern host) = hostPattern host := by
  refine Text.trimWhile_eq_self (fun c hc => ?_) fun c hc => ?_
  · cases hc
    decide
  · rw [getLast?_hostPattern] at hc
    cases hc
    decide

theorem unmarked_hostPattern : unmarked (hostPattern host) = hostPattern host := by
  refine if_neg ?_
  rintro ⟨rest, heq⟩
  exact absurd (List.cons.inj heq).1 (by decide)

theorem splitException_hostLine (text? : Option (List Char)) :
    (splitException (hostLine host text?)).1 = false := rfl

theorem isComment_hostLine (text? : Option (List Char)) :
    isComment (hostLine host text?) = false := rfl

/-- Blanks at the end of the options are no part of them, and there are none around the rest. -/
theorem trim_hostLine (text? : Option (List Char)) :
    Text.trim (hostLine host text?) = hostLine host (text?.map (List.rdropWhile Text.isBlank)) := by
  cases text? with
  | none =>
    rw [Option.map_none, hostLine, Option.elim_none, List.append_nil, trim_hostPattern]
  | some text =>
    have hfront : (hostPattern host).dropWhile Text.isBlank = hostPattern host :=
      Text.dropWhile_eq_self fun c hc => by cases hc; decide
    show Text.trim (hostPattern host ++ '$' :: text) = _
    rw [trim_append_dollar, hfront]
    rfl

end

section
variable (h : Pattern.hostName? host = some name)
include h

/-- bars and a caret are the only marks in the pattern for a host -/
theorem not_mem_hostPattern {mark : Char} (hbar : mark ≠ '|') (hcaret : mark ≠ '^')
    (hmark : (Text.isBlank mark || mark == '.' || Text.isHostChar mark) = false) :
    mark ∉ hostPattern host := by
  intro hmem
  simp only [hostPattern, List.mem_cons, List.mem_append, List.not_mem_nil, or_false] at hmem
  rcases hmem with hc | hc | hc | hc
  · exact hbar hc
  · exact hbar hc
  · exact Pattern.ne_of_hostName? h hc hmark rfl
  · exact hcaret hc

theorem opens_hostPattern : Pattern.Opens (hostPattern host) := by
  constructor
  · rintro before after heq
    have hdollar : '$' ∉ hostPattern host :=
      not_mem_hostPattern h (by decide) (by decide) (by decide)
    rw [heq] at hdollar
    exact absurd (List.mem_append_right before List.mem_cons_self) hdollar
  · rw [getLast?_hostPattern]
    decide

theorem parts_hostLine (text? : Option (List Char)) :
    parts (hostLine host text?) = (hostPattern host, text?) := by
  cases text? with
  | none =>
    have hescaped := (opens_hostPattern h).escaped
    rw [hostLine, Option.elim_none, List.append_nil, ← cut_unmarked_iff, unmarked_hostPattern]
    exact .whole hescaped
  | some text =>
    show parts (hostPattern host ++ '$' :: text) = _
    rw [parts_append_dollar (opens_hostPattern h), unmarked_hostPattern]

/-- the whole pattern is taken off as the host -/
theorem target_hostLine (text? : Option (List Char)) :
    target (hostLine host text?) = (some name, []) := by
  have hhost : ∀ c ∈ host, c ≠ '/' ∧ c ≠ '^' := fun c hc =>
    ⟨Pattern.ne_of_hostName? h hc (by decide), Pattern.ne_of_hostName? h hc (by decide)⟩
  have htake : (host ++ ['^']).takeWhile (fun c => c ≠ '/' ∧ c ≠ '^') = host :=
    Pattern.takeWhile_host hhost fun c hc => .inr (Option.some.inj hc).symm
  have hdrop : (host ++ ['^']).dropWhile (· ≠ '/') = [] := by
    rw [List.dropWhile_eq_nil_iff]
    intro c hc
    rw [decide_eq_true_eq]
    rcases List.mem_append.mp hc with hc | hc
    · exact (hhost c hc).1
    · rw [List.mem_singleton.mp hc]
      decide
  rw [target, parts_hostLine h, trim_hostPattern, hostPattern, Pattern.splitAnchor_anchored, htake,
    h, hdrop]

theorem url_hostLine (text? : Option (List Char)) : url (hostLine host text?) = [] := by
  rw [url, target_hostLine h]
  rfl

theorem accepted_hostLine (ho : optionsOf text? = .ok o)
    (hhides : ¬ HidesElements (hostLine host text?)) : Accepted (hostLine host text?) o where
  ne_nil := List.cons_ne_nil _ _
  not_cosmetic := Bool.eq_false_iff.mpr (mt isCosmetic_iff.mp hhides)
  not_comment := isComment_hostLine host text?
  options := by
    rw [parts_hostLine h]
    exact ho
  pattern := by
    rw [target_hostLine h]
    exact .inl (Option.some_ne_none name)

/-- a host has no mark of element hiding -/
theorem not_hidesElements_hostLine : ¬ HidesElements (hostLine host none) := by
  rintro ⟨mark, hmark, hinfix⟩
  have hhash : '#' ∈ hostLine host none := by
    refine hinfix.subset ?_
    simp only [List.mem_cons, List.not_mem_nil, or_false] at hmark
    rcases hmark with rfl | rfl | rfl | rfl <;> decide
  rw [hostLine, Option.elim_none, List.append_nil] at hhash
  exact not_mem_hostPattern h (by decide) (by decide) (by decide) hhash

/-- The filter for a literal host blocks the domain of this name, and is about nothing else. -/
theorem parse_hostLine (ho : optionsOf text? = .ok o)
    (hhides : ¬ HidesElements (hostLine host text?)) (id : RuleId) :
    parse (hostLine host text?) id =
      .ok (domainRule (hostLine host text?) id (String.ofList name) o) := by
  have htrim := trim_hostLine host text?
  have ho' : optionsOf (text?.map (List.rdropWhile Text.isBlank)) = .ok o := by
    cases text? with
    | none => exact ho
    | some text => exact Options.parse_of_pieces_eq (Options.pieces_rdropWhile text).symm ho
  rw [← hidesElements_trim_iff, htrim] at hhides
  refine parse_eq_ok_iff.mpr ⟨o, ?_, ?_⟩
  · rw [htrim]
    exact accepted_hostLine h ho' hhides
  · simp only [htrim, domainRule, ruleOf, rule, splitException_hostLine, target_hostLine h,
      url_hostLine h, nonEmpty?, Option.map_some, Option.map_none, caseSensitive?,
      List.not_mem_nil, if_false, Bool.false_eq_true]

end

end Filter

/-! ## the whitelist wins -/

/-- `w` allows what `r` is about, for the same domains and for at least the same types, and nothing
else restricts it; `r` has the lower priority. -/
structure Rule.Overrides (w r : Rule) : Prop where
  allows : w.action = .allow
  condition : w.condition =
    { requestDomains := r.condition.requestDomains, resourceTypes := w.condition.resourceTypes }
  types : ∀ t ∈ r.condition.resourceTypes, t ∈ w.condition.resourceTypes
  priority : r.priority < w.priority

theorem Filter.priority_lt_whitelist {line : List Char} {id : RuleId} {r : Rule}
    (h : parse line id = .ok r) : r.priority < whitelistPriority := by
  have haction := (wellFormed_of_parse h).action
  split at haction
  · rw [(Prod.mk.inj haction).2]
    decide
  · rw [(Prod.mk.inj haction).2]
    decide

theorem Whitelist.exists_mem_rules {domains : List String} {d : String} (h : d ∈ domains) :
    ∃ i, rule i d ∈ rules domains := by
  obtain ⟨i, hi, rfl⟩ := List.getElem_of_mem h
  exact ⟨i, List.mem_mapIdx.mpr ⟨i, hi, rfl⟩⟩

namespace Filter

/-- A host that the whitelist accepts is blocked by its filter under the name that the whitelist has
for it, and where a whitelist has a name, one of its rules wins over every rule of a filter for it.
-/
theorem whitelist_overrides :
    (∀ s d, Whitelist.normalize? s = some d → ∀ id,
      parse (hostLine s.toList none) id = .ok (domainRule (hostLine s.toList none) id d {}) ∧
      ∀ text o, Options.parse text = .ok o → ¬ HidesElements (hostLine s.toList (some text)) →
        parse (hostLine s.toList (some text)) id =
          .ok (domainRule (hostLine s.toList (some text)) id d o)) ∧
    ∀ line id r d domains, parse line id = .ok r → r.condition.requestDomains = some [d] →
      d ∈ domains → ∃ w ∈ Whitelist.rules domains, w.Overrides r := by
  constructor
  · intro s d hd id
    have hhost := (Whitelist.normalize?_eq_some_iff.mp hd).1
    have hparse (text? : Option (List Char)) (o : Options) (ho : optionsOf text? = .ok o)
        (hhides : ¬ HidesElements (hostLine s.toList text?)) :
        parse (hostLine s.toList text?) id = .ok (domainRule (hostLine s.toList text?) id d o) := by
      rw [parse_hostLine hhost ho hhides, String.ofList_toList]
    exact ⟨hparse none {} rfl (not_hidesElements_hostLine hhost),
      fun text o ho hhides => hparse (some text) o ho hhides⟩
  · intro line id r d domains hparse hdomain hd
    obtain ⟨i, hi⟩ := Whitelist.exists_mem_rules hd
    refine ⟨_, hi, rfl, ?_, fun t _ => ResourceTypes.mem_all t, priority_lt_whitelist hparse⟩
    rw [hdomain]
    rfl

/-- a host with blanks and dots around it, blocked for some pages, and an exception for it -/
theorem whitelist_overrides_exception :
    let s := " .Ads.Example.COM. "
    let d := "ads.example.com"
    let text := " Script,domain=A.org|~b.org ".toList
    let o : Options :=
      { resourceTypes := ResourceTypes.ofList [.script]
        initiators := ["a.org"], excludedInitiators := ["b.org"] }
    let line := "|| .Ads.Example.COM. ^$ Script,domain=A.org|~b.org ".toList
    let r : Rule :=
      { id := 9, priority := 2, action := .allow
        condition :=
          { urlFilter := some "/a", requestDomains := some [d], caseSensitive := some true }
        source := some "@@||ads.example.com/a$match-case" }
    Whitelist.normalize? s = some d ∧ Options.parse text = .ok o ∧
    hostLine s.toList (some text) = line ∧ ¬ HidesElements line ∧
    parse line 7 = .ok (domainRule line 7 d o) ∧
    parse "@@||ads.example.com/a$match-case".toList 9 = .ok r ∧
    ∃ w ∈ Whitelist.rules ["b.org", d], w.Overrides r := by
  intro s d text o line r
  have hd : Whitelist.normalize? s = some d := by decide +kernel
  have ho : Options.parse text = .ok o := by decide +kernel
  have hline : hostLine s.toList (some text) = line := by decide +kernel
  have hhides : ¬ HidesElements line := by
    rw [← isCosmetic_iff]
    decide +kernel
  have hr : parse "@@||ads.example.com/a$match-case".toList 9 = .ok r := by decide +kernel
  have hblocked := (whitelist_overrides.1 s d hd 7).2 text o ho
  rw [hline] at hblocked
  exact ⟨hd, ho, hline, hhides, hblocked hhides, hr,
    whitelist_overrides.2 _ 9 r d ["b.org", d] hr rfl (by decide)⟩

end Filter

end Blocklist
