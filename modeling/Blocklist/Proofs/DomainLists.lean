import Blocklist.Proofs.RejectedLines

/-!
# Lists of domains

A list of domains keeps a rule to the pages of some domains, or away from those of others. Its
parts are read one by one, without the blanks around them. A part without a tilde is a domain; of a
part with one, all that follows the tilde is taken as it stands. So a list whose parts are all blank
or tildes alone restricts nothing, and the rule of its line is about all pages; and blanks and
further tildes right after a tilde become a part of the domain.

* `Segment.IsTidy`             a domain without blanks around it and without a tilde before it;
* `Rule.Restricted`            a rule that is not about all pages;
* `Filter.listedParts`         the parts of all lists of domains in a line;
* `Filter.restricted_iff_of_parse`   which lines have restricted rules;
* `Options.tidy_entries`       which entries of lists are tidy.
-/

namespace Blocklist

/-- a rule for the pages of some domains, or for all pages but those of some -/
def Rule.Restricted (r : Rule) : Prop :=
  r.condition.initiatorDomains ≠ none ∨ r.condition.excludedInitiatorDomains ≠ none

instance (r : Rule) : Decidable r.Restricted := inferInstanceAs (Decidable (_ ∨ _))

namespace Segment

/-! ## the parts of a list -/

variable {cs part d : List Char} {parts : List (List Char)}

/-- an entry that a domain can be: with no blanks around it and no tilde before it -/
structure IsTidy (d : List Char) : Prop where
  ne_nil : d ≠ []
  trimmed : Text.trim d = d
  plain : d.head? ≠ some '~'

instance (d : List Char) : Decidable (IsTidy d) :=
  decidable_of_iff (d ≠ [] ∧ Text.trim d = d ∧ d.head? ≠ some '~')
    ⟨fun h => ⟨h.1, h.2.1, h.2.2⟩, fun h => ⟨h.ne_nil, h.trimmed, h.plain⟩⟩

/-- the parts of a list are trimmed and not blank -/
theorem trim_of_mem_domainParts (h : part ∈ domainParts cs) :
    part ≠ [] ∧ Text.trim part = part := by
  unfold domainParts at h
  split at h
  · obtain ⟨hmem, hne⟩ := List.mem_filter.mp h
    obtain ⟨piece, -, rfl⟩ := List.mem_map.mp hmem
    exact ⟨of_decide_eq_true hne, Text.trimWhile_trimWhile _ _⟩
  · cases h

/-- what is excluded stands in a part of the list, right after its tilde -/
theorem mem_excludedParts_iff : d ∈ excludedParts parts ↔ d ≠ [] ∧ '~' :: d ∈ parts := by
  simp only [excludedParts, List.mem_filter, List.mem_map, decide_eq_true_eq]
  constructor
  · rintro ⟨⟨part, ⟨hpart, htilde⟩, rfl⟩, hne⟩
    obtain ⟨rest, rfl⟩ := List.head?_eq_some_iff.mp htilde
    exact ⟨hne, hpart⟩
  · rintro ⟨hne, hpart⟩
    exact ⟨⟨'~' :: d, ⟨hpart, rfl⟩, rfl⟩, hne⟩

/-- An included domain is a whole part. -/
theorem isTidy_of_part (h : part ∈ domainParts cs) (hplain : part.head? ≠ some '~') :
    IsTidy part := by
  obtain ⟨hne, htrim⟩ := trim_of_mem_domainParts h
  exact ⟨hne, htrim, hplain⟩

/-- The end of an excluded domain is the end of its part. -/
theorem getLast?_of_excluded (h : '~' :: d ∈ domainParts cs) {c : Char}
    (hlast : d.getLast? = some c) : Text.isBlank c = false := by
  obtain ⟨-, htrim⟩ := trim_of_mem_domainParts h
  have hpart : ('~' :: d).getLast? = some c := by
    rw [List.getLast?_cons, hlast]
    rfl
  exact Text.isBlank_of_getLast? htrim hpart

/-- What an excluded domain begins with is right after the tilde, and that alone can spoil it. -/
theorem isTidy_excluded_iff (h : '~' :: d ∈ domainParts cs) (hne : d ≠ []) :
    IsTidy d ↔ ∀ c, d.head? = some c → Text.isBlank c = false ∧ c ≠ '~' := by
  constructor
  · intro htidy c hc
    exact ⟨Text.isBlank_of_head? htidy.trimmed hc, fun htilde => htidy.plain (htilde ▸ hc)⟩
  · intro hhead
    have htrim : Text.trim d = d :=
      Text.trimWhile_eq_self (fun c hc => (hhead c hc).1) (fun _ => getLast?_of_excluded h)
    exact ⟨hne, htrim, fun htilde => (hhead '~' htilde).2 rfl⟩

end Segment

namespace Options

/-! ## the entries of options -/

variable {text : List Char} {o : Options} {d : String}

theorem mem_initiators_iff (h : parse text = .ok o) :
    d ∈ o.initiators ↔
      ∃ piece ∈ pieces text, d.toList ∈ Segment.domainParts piece ∧ d.toList.head? ≠ some '~' := by
  rw [(describes_of_parse h).initiators]
  simp only [List.mem_map, List.mem_filter, List.mem_flatMap, decide_eq_true_eq]
  constructor
  · rintro ⟨part, ⟨⟨piece, hpiece, hpart⟩, hplain⟩, rfl⟩
    rw [String.toList_ofList]
    exact ⟨piece, hpiece, hpart, hplain⟩
  · rintro ⟨piece, hpiece, hpart, hplain⟩
    exact ⟨d.toList, ⟨⟨piece, hpiece, hpart⟩, hplain⟩, String.ofList_toList⟩

theorem mem_excludedInitiators_iff (h : parse text = .ok o) :
    d ∈ o.excludedInitiators ↔
      d.toList ≠ [] ∧ ∃ piece ∈ pieces text, '~' :: d.toList ∈ Segment.domainParts piece := by
  rw [(describes_of_parse h).excluded, List.mem_map]
  simp only [Segment.mem_excludedParts_iff, List.mem_flatMap]
  constructor
  · rintro ⟨domain, hdomain, rfl⟩
    rwa [String.toList_ofList]
  · exact fun hd => ⟨d.toList, hd, String.ofList_toList⟩

/-- Included domains are tidy. Excluded ones are not empty and have no blank at their end. They are
all tidy exactly if no tilde that begins a part has a blank or another tilde right after it. -/
theorem tidy_entries (h : parse text = .ok o) :
    (∀ d ∈ o.initiators, Segment.IsTidy d.toList) ∧
    (∀ d ∈ o.excludedInitiators,
      d ≠ "" ∧ ∀ c, d.toList.getLast? = some c → Text.isBlank c = false) ∧
    ((∀ d ∈ o.excludedInitiators, Segment.IsTidy d.toList) ↔
      ∀ piece ∈ pieces text, ∀ c rest, '~' :: c :: rest ∈ Segment.domainParts piece →
        Text.isBlank c = false ∧ c ≠ '~') := by
  refine ⟨fun d hd => ?_, fun d hd => ?_, ?_⟩
  · obtain ⟨piece, -, hpart, hplain⟩ := (mem_initiators_iff h).mp hd
    exact Segment.isTidy_of_part hpart hplain
  · obtain ⟨hne, piece, -, hpart⟩ := (mem_excludedInitiators_iff h).mp hd
    refine ⟨?_, fun c => Segment.getLast?_of_excluded hpart⟩
    rintro rfl
    exact hne rfl
  · constructor
    · intro htidy piece hpiece c rest hpart
      have hne : c :: rest ≠ [] := List.cons_ne_nil c rest
      have hmem : String.ofList (c :: rest) ∈ o.excludedInitiators := by
        rw [mem_excludedInitiators_iff h, String.toList_ofList]
        exact ⟨hne, piece, hpiece, hpart⟩
      have hentry := htidy _ hmem
      rw [String.toList_ofList, Segment.isTidy_excluded_iff hpart hne] at hentry
      exact hentry c rfl
    · intro hparts d hd
      obtain ⟨hne, piece, hpiece, hpart⟩ := (mem_excludedInitiators_iff h).mp hd
      rw [Segment.isTidy_excluded_iff hpart hne]
      intro c hc
      obtain ⟨rest, hrest⟩ := List.head?_eq_some_iff.mp hc
      rw [hrest] at hpart
      exact hparts piece hpiece c rest hpart

/-- a list with blanks around its bars, and tildes with a blank and a tilde after them -/
theorem tidy_entries_mixed :
    let text := "3p,domain= A.com | ~b.com|~ c.com | ~~D.com|~".toList
    let o : Options :=
      { party := some .third, initiators := ["a.com"]
        excludedInitiators := ["b.com", " c.com", "~d.com"] }
    parse text = .ok o ∧ (∀ d ∈ o.initiators, Segment.IsTidy d.toList) ∧
      ¬ ∀ piece ∈ pieces text, ∀ c rest, '~' :: c :: rest ∈ Segment.domainParts piece →
        Text.isBlank c = false ∧ c ≠ '~' := by
  intro text o
  have hparse : parse text = .ok o := by decide +kernel
  have huntidy : ¬ ∀ d ∈ o.excludedInitiators, Segment.IsTidy d.toList := by decide +kernel
  obtain ⟨hincluded, -, hexcluded⟩ := tidy_entries hparse
  exact ⟨hparse, hincluded, mt hexcluded.mpr huntidy⟩

/-- A blank after a tilde is taken for the start of the domain. -/
theorem untidy_entry :
    ¬ ∀ text o, parse text = .ok o →
      ∀ d, d ∈ o.initiators ∨ d ∈ o.excludedInitiators → Segment.IsTidy d.toList := by
  intro hall
  have hparse : parse "domain=~ a.com".toList = .ok { excludedInitiators := [" a.com"] } := by
    decide +kernel
  have htidy := hall _ _ hparse " a.com" (.inr List.mem_cons_self)
  exact absurd htidy (by decide +kernel)

end Options

namespace Filter

/-! ## lines -/

variable {line : List Char} {id : RuleId} {r : Rule} {o : Options}

/-- the parts of all lists of domains among the options of a line -/
def listedParts (line : List Char) : List (List Char) :=
  (parts line).2.toList.flatMap fun text => (Options.pieces text).flatMap Segment.domainParts

/-- one of the options of a line is a list of domains -/
def HasList (line : List Char) : Prop :=
  ∃ text, (parts line).2 = some text ∧ ∃ piece ∈ Options.pieces text, "domain=".toList <+: piece

/-- the domains of the rule of a line are those of its lists -/
theorem Accepted.domains (h : Accepted line o) :
    o.initiators =
      ((listedParts line).filter fun part => part.head? ≠ some '~').map String.ofList ∧
    o.excludedInitiators = (Segment.excludedParts (listedParts line)).map String.ofList := by
  have hoptions := h.options
  unfold listedParts
  cases htext : (parts line).2 with
  | none =>
    rw [htext] at hoptions
    cases hoptions
    exact ⟨rfl, rfl⟩
  | some text =>
    rw [htext] at hoptions
    have hdescribes := Options.describes_of_parse hoptions
    simp only [Option.toList_some, List.flatMap_singleton]
    exact ⟨hdescribes.initiators, hdescribes.excluded⟩

theorem nonEmpty?_ne_none_iff {α : Type} {as : List α} : nonEmpty? as ≠ none ↔ as ≠ [] := by
  cases as <;> simp [nonEmpty?]

theorem Accepted.initiatorDomains_ne_none_iff (h : Accepted line o) (id : RuleId) :
    (ruleOf line o id).condition.initiatorDomains ≠ none ↔
      ∃ part ∈ listedParts line, part.head? ≠ some '~' := by
  show nonEmpty? o.initiators ≠ none ↔ _
  rw [nonEmpty?_ne_none_iff, h.domains.1, Ne, List.map_eq_nil_iff, List.filter_eq_nil_iff]
  simp

theorem Accepted.excludedInitiatorDomains_ne_none_iff (h : Accepted line o) (id : RuleId) :
    (ruleOf line o id).condition.excludedInitiatorDomains ≠ none ↔
      ∃ domain, domain ≠ [] ∧ '~' :: domain ∈ listedParts line := by
  show nonEmpty? o.excludedInitiators ≠ none ↔ _
  rw [nonEmpty?_ne_none_iff, h.domains.2, Ne, List.map_eq_nil_iff, List.eq_nil_iff_forall_not_mem,
    not_forall]
  simp only [not_not, Segment.mem_excludedParts_iff]

theorem Accepted.restricted_iff (h : Accepted line o) (id : RuleId) :
    (ruleOf line o id).Restricted ↔ ∃ part ∈ listedParts line, part ≠ ['~'] := by
  rw [Rule.Restricted, h.initiatorDomains_ne_none_iff, h.excludedInitiatorDomains_ne_none_iff]
  constructor
  · rintro (⟨part, hpart, hplain⟩ | ⟨domain, hne, hpart⟩)
    · refine ⟨part, hpart, ?_⟩
      rintro rfl
      exact hplain rfl
    · exact ⟨'~' :: domain, hpart, fun heq => hne (List.cons.inj heq).2⟩
  · rintro ⟨part, hpart, hne⟩
    by_cases htilde : part.head? = some '~'
    · obtain ⟨domain, rfl⟩ := List.head?_eq_some_iff.mp htilde
      refine .inr ⟨domain, ?_, hpart⟩
      rintro rfl
      exact hne rfl
    · exact .inl ⟨part, hpart, htilde⟩

/-- The rule of a line is for the pages of some domains exactly if a part of its lists has no tilde,
and not for those of some exactly if something follows the tilde of a part. It is about all pages
exactly if all parts are tildes alone, also where there are lists. -/
theorem restricted_iff_of_parse (h : parse line id = .ok r) :
    (r.condition.initiatorDomains ≠ none ↔
      ∃ part ∈ listedParts (Text.trim line), part.head? ≠ some '~') ∧
    (r.condition.excludedInitiatorDomains ≠ none ↔
      ∃ domain, domain ≠ [] ∧ '~' :: domain ∈ listedParts (Text.trim line)) ∧
    (r.Restricted ↔ ∃ part ∈ listedParts (Text.trim line), part ≠ ['~']) := by
  obtain ⟨o, ho, rfl⟩ := parse_eq_ok_iff.mp h
  exact ⟨ho.initiatorDomains_ne_none_iff id, ho.excludedInitiatorDomains_ne_none_iff id,
    ho.restricted_iff id⟩

/-- an exception with two lists, of which the first says nothing -/
theorem restricted_by_second_list :
    let line := "@@/banner/*$DOMAIN= | ~ |,script,domain=~ | ~B.org".toList
    let r : Rule :=
      { id := 7, priority := exceptionPriority, action := .allow
        condition :=
          { urlFilter := some "/banner/*"
            resourceTypes := ResourceTypes.ofList [.script]
            excludedInitiatorDomains := some ["b.org"]
            caseSensitive := some false }
        source := some (String.ofList line) }
    parse line 7 = .ok r ∧ listedParts (Text.trim line) = [['~'], ['~'], "~b.org".toList] ∧
      r.Restricted := by
  intro line r
  have hparse : parse line 7 = .ok r := by decide +kernel
  have hparts : listedParts (Text.trim line) = [['~'], ['~'], "~b.org".toList] := by decide +kernel
  obtain ⟨-, -, hrestricted⟩ := restricted_iff_of_parse hparse
  rw [hparts] at hrestricted
  exact ⟨hparse, hparts, hrestricted.mpr ⟨"~b.org".toList, by decide, by decide⟩⟩

/-- A list that holds a tilde alone is accepted, and the rule is for all pages. -/
theorem list_restricts_nothing :
    ¬ ∀ line id r, parse line id = .ok r → HasList (Text.trim line) → r.Restricted := by
  intro hall
  let r : Rule :=
    { id := 1, priority := blockPriority, action := .block
      condition := { requestDomains := some ["ads.example.com"] }
      source := some "||ads.example.com^$domain=~" }
  have hparse : parse "||ads.example.com^$domain=~".toList 1 = .ok r := by decide +kernel
  have hlist : HasList (Text.trim "||ads.example.com^$domain=~".toList) :=
    ⟨"domain=~".toList, by decide +kernel, "domain=~".toList, by decide +kernel, by decide⟩
  exact absurd (hall _ _ r hparse hlist) (by decide)

end Filter

end Blocklist
