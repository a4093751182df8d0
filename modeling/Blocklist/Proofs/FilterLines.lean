import Blocklist.Filter
import Blocklist.Proofs.OptionTexts

/-!
# The rules of filter lines

A line is taken apart into its mark of exceptions, its pattern and its options, and the pattern into
a domain and a pattern of the address. The id plays no part in this: a line is accepted with one id
if it is with another, and then its rules differ in the id only.

* `Pattern.IsDomainName`        the domains that are taken off a pattern;
* `Filter.Accepted`             a line that is a rule, with the options it has;
* `Filter.parse_eq_ok_iff`      the rule of an accepted line;
* `Filter.parse_of_parse`       the same line with another id;
* `Filter.WellFormed`           what a rule is like that is compiled from a line;
* `Filter.wellFormed_of_parse`  every line that is a rule leads to such a rule.
-/

namespace Blocklist

/-! ## patterns -/

namespace Pattern

variable {host name pattern cs : List Char}

/-- a literal domain in lower case, without a dot at its ends -/
structure IsDomainName (name : List Char) : Prop where
  ne_nil : name ≠ []
  chars : ∀ c ∈ name, c.isLower = true ∨ c.isDigit = true ∨ c = '.' ∨ c = '-' ∨ c = '_'
  head : name.head? ≠ some '.'
  last : name.getLast? ≠ some '.'

theorem toLower_of_isHostChar {c : Char} (h : Text.isHostChar c = true) :
    c.toLower.isLower = true ∨ c.toLower.isDigit = true ∨ c.toLower = '-' ∨ c.toLower = '_' := by
  by_cases hupper : c.isUpper = true
  · rw [Char.isLower_toLower_eq_isAlpha, Text.isAlpha_of_isUpper hupper]
    exact .inl rfl
  · rw [Char.toLower_eq_of_not_isUpper hupper]
    exact (Text.isHostChar_cases h).resolve_left hupper

theorem isDomainName_of_hostName? (h : hostName? host = some name) : IsDomainName name := by
  rw [hostName?] at h
  split at h
  · rename_i hname
    obtain ⟨hne, hall⟩ := hname
    cases h
    -- a dot in lower case comes from a dot, and none is left at the ends
    have dot : ∀ o : Option Char, o ≠ some '.' → o.map Char.toLower ≠ some '.' := by
      intro o ho hdot
      obtain ⟨c, rfl, hc⟩ := Option.map_eq_some_iff.mp hdot
      exact ho (congrArg some (Text.eq_of_toLower_eq (by decide) hc))
    refine ⟨mt List.map_eq_nil_iff.mp hne, fun c hc => ?_, ?_, ?_⟩
    · obtain ⟨c', hc', rfl⟩ := List.mem_map.mp hc
      have hchar := List.all_eq_true.mp hall c' hc'
      rcases (Bool.or_eq_true _ _).mp hchar with hchar | hchar
      · rcases toLower_of_isHostChar hchar with hc | hc | hc | hc
        · exact .inl hc
        · exact .inr (.inl hc)
        · exact .inr (.inr (.inr (.inl hc)))
        · exact .inr (.inr (.inr (.inr hc)))
      · rw [eq_of_beq hchar]
        exact .inr (.inr (.inl rfl))
    · rw [Text.lower, List.head?_map]
      exact dot _ fun hhead => absurd (Text.head?_trimWhile hhead) (by decide)
    · rw [Text.lower, List.getLast?_map]
      exact dot _ fun hlast => absurd (Text.getLast?_trimWhile hlast) (by decide)
  · cases h

theorem isDomainName_of_splitAnchor (h : (splitAnchor pattern).1 = some name) :
    IsDomainName name := by
  rw [splitAnchor] at h
  split at h
  · cases h
  · split at h
    · rename_i hhost
      cases h
      exact isDomainName_of_hostName? hhost
    · cases h

theorem mem_of_mem_unescape {c : Char} (h : c ∈ unescape cs) : c ∈ cs := by
  induction cs using unescape.induct with
  | case1 => exact h
  | case2 cs ih =>
    rw [unescape] at h
    rcases List.mem_cons.mp h with rfl | h
    · exact List.mem_cons_of_mem _ List.mem_cons_self
    · exact List.mem_cons_of_mem _ (List.mem_cons_of_mem _ (ih h))
  | case3 d cs hnot ih =>
    rw [unescape.eq_3 d cs hnot] at h
    rcases List.mem_cons.mp h with rfl | h
    · exact List.mem_cons_self
    · exact List.mem_cons_of_mem _ (ih h)

/-- marks of separators are not given to the engine -/
theorem caret_not_mem_urlFilter (pattern : List Char) : '^' ∉ urlFilter pattern := by
  intro h
  have hkept := (List.mem_filter.mp (mem_of_mem_unescape h)).2
  exact of_decide_eq_true hkept rfl

end Pattern

namespace Filter

/-! ## a line taken apart -/

section
variable (line : List Char)

/-- the pattern of a line, and its options if it has a part for them -/
def parts : List Char × Option (List Char) :=
  Pattern.cutOptions false (splitException line).2

/-- the domain a line is about and what remains of its pattern -/
def target : Option (List Char) × List Char := Pattern.splitAnchor (Text.trim (parts line).1)

/-- the pattern of addresses that a line is about -/
def url : List Char := Pattern.urlFilter (target line).2

/-- the rule of a line with these options -/
def ruleOf (o : Options) (id : RuleId) : Rule :=
  rule line id (splitException line).1 (target line).1 (url line) o

/-- A line that is a rule. There is no white space around it. -/
structure Accepted (o : Options) : Prop where
  ne_nil : line ≠ []
  not_cosmetic : isCosmetic line = false
  not_comment : isComment line = false
  options : optionsOf (parts line).2 = .ok o
  pattern : (target line).1 ≠ none ∨ url line ≠ []

variable (o : Options) (id : RuleId)

theorem action_ruleOf :
    (ruleOf line o id).action = if (splitException line).1 then .allow else .block := rfl

theorem priority_ruleOf :
    (ruleOf line o id).priority =
      if (splitException line).1 then exceptionPriority else blockPriority := rfl

theorem urlFilter_ruleOf :
    (ruleOf line o id).condition.urlFilter = (nonEmpty? (url line)).map String.ofList := rfl

theorem requestDomains_ruleOf :
    (ruleOf line o id).condition.requestDomains =
      (target line).1.map fun d => [String.ofList d] := rfl

theorem caseSensitive_ruleOf :
    (ruleOf line o id).condition.caseSensitive = caseSensitive? (url line) o.matchCase := rfl

end

variable {line : List Char} {id : RuleId} {r : Rule} {o : Options}

theorem parse_eq_ok_iff :
    parse line id = .ok r ↔
      ∃ o, Accepted (Text.trim line) o ∧ r = ruleOf (Text.trim line) o id := by
  constructor
  · intro h
    rw [parse] at h
    split at h
    · cases h
    · rename_i hne
      split at h
      · cases h
      · rename_i hcosmetic
        split at h
        · cases h
        · rename_i hcomment
          dsimp only at h
          split at h
          · cases h
          · rename_i o hoptions
            split at h
            · cases h
            · rename_i hpattern
              refine ⟨o, ⟨hne, Bool.eq_false_iff.mpr hcosmetic, Bool.eq_false_iff.mpr hcomment,
                hoptions, Decidable.not_and_iff_not_or_not.mp hpattern⟩, ?_⟩
              exact (Except.ok.inj h).symm
  · rintro ⟨o, h, rfl⟩
    have hoptions := h.options
    have hpattern := Decidable.not_and_iff_not_or_not.mpr h.pattern
    rw [parts] at hoptions
    rw [target, url, target, parts] at hpattern
    simp only [parse, if_neg h.ne_nil, h.not_cosmetic, h.not_comment, Bool.false_eq_true, if_false,
      hoptions, if_neg hpattern]
    rfl

/-- A line stands for the same rule with every id. -/
theorem parse_of_parse (h : parse line id = .ok r) (id' : RuleId) :
    parse line id' = .ok { r with id := id' } := by
  obtain ⟨o, ho, rfl⟩ := parse_eq_ok_iff.mp h
  exact parse_eq_ok_iff.mpr ⟨o, ho, rfl⟩

theorem id_of_parse (h : parse line id = .ok r) : r.id = id := by
  obtain ⟨o, -, rfl⟩ := parse_eq_ok_iff.mp h
  rfl

/-! ## well-formed rules -/

/-- one of the options of a line asks for case to count -/
def AsksMatchCase (line : List Char) : Prop :=
  ∃ text, (parts line).2 = some text ∧ ∃ raw ∈ Options.segmentTexts text,
    String.ofList (Text.lower raw) ∈ Segment.matchCaseKeywords

/-- an address pattern that stands for several addresses -/
def HasWildcard (r : Rule) : Prop := ∃ pattern, r.condition.urlFilter = some pattern ∧
  '*' ∈ pattern.toList

/-- What a rule is like that was compiled from a line. -/
structure WellFormed (line : List Char) (id : RuleId) (r : Rule) : Prop where
  id_eq : r.id = id
  source : r.source = some (String.ofList (Text.trim line))
  hasPattern : r.hasPattern = true
  action : (r.action, r.priority) =
    if ['@', '@'] <+: Text.trim line then (Action.allow, 2) else (Action.block, 1)
  types_ne : r.condition.resourceTypes ≠ ∅
  types : ∀ t ∈ r.condition.resourceTypes, t ∈ ResourceTypes.filterable ∧ t ≠ .mainFrame
  domains : ∀ ds, r.condition.requestDomains = some ds →
    ∃ name, ds = [String.ofList name] ∧ Pattern.IsDomainName name
  url : ∀ pattern, r.condition.urlFilter = some pattern → pattern ≠ "" ∧ '^' ∉ pattern.toList
  letterCase :
    AsksMatchCase (Text.trim line) ∧ r.condition.caseSensitive = some true ∨
    ¬ AsksMatchCase (Text.trim line) ∧ HasWildcard r ∧ r.condition.caseSensitive = some false ∨
    ¬ AsksMatchCase (Text.trim line) ∧ ¬ HasWildcard r ∧ r.condition.caseSensitive = none
  initiators : ∀ ds, r.condition.initiatorDomains = some ds →
    ds ≠ [] ∧ ∀ d ∈ ds, Segment.IsEntry d
  excluded : ∀ ds, r.condition.excludedInitiatorDomains = some ds →
    ds ≠ [] ∧ ∀ d ∈ ds, Segment.IsEntry d

theorem nonEmpty?_eq_some_iff {α : Type} {as as' : List α} :
    nonEmpty? as = some as' ↔ as = as' ∧ as ≠ [] := by
  cases as with
  | nil => exact ⟨nofun, fun h => absurd rfl h.2⟩
  | cons a as => exact ⟨fun h => ⟨Option.some.inj h, List.cons_ne_nil a as⟩, fun h => h.1 ▸ rfl⟩

theorem splitException_fst : (splitException line).1 = true ↔ ['@', '@'] <+: line := by
  rw [splitException]
  split
  · rename_i body hbody
    exact ⟨fun _ => ⟨body, (Text.after?_eq_some_iff.mp hbody).symm⟩, fun _ => rfl⟩
  · rename_i hnone
    refine ⟨nofun, fun ⟨body, hbody⟩ => ?_⟩
    rw [Text.after?_eq_some_iff.mpr hbody.symm] at hnone
    cases hnone

theorem urlFilter_ruleOf_eq_some_iff {pattern : String} :
    (ruleOf line o id).condition.urlFilter = some pattern ↔
      pattern = String.ofList (Filter.url line) ∧ Filter.url line ≠ [] := by
  rw [urlFilter_ruleOf, Option.map_eq_some_iff]
  constructor
  · rintro ⟨cs, hcs, rfl⟩
    obtain ⟨rfl, hne⟩ := nonEmpty?_eq_some_iff.mp hcs
    exact ⟨rfl, hne⟩
  · rintro ⟨rfl, hne⟩
    exact ⟨Filter.url line, nonEmpty?_eq_some_iff.mpr ⟨rfl, hne⟩, rfl⟩

theorem hasWildcard_ruleOf_iff : HasWildcard (ruleOf line o id) ↔ '*' ∈ Filter.url line := by
  constructor
  · rintro ⟨pattern, hpattern, hstar⟩
    rw [(urlFilter_ruleOf_eq_some_iff.mp hpattern).1, String.toList_ofList] at hstar
    exact hstar
  · intro hstar
    refine ⟨_, urlFilter_ruleOf_eq_some_iff.mpr ⟨rfl, List.ne_nil_of_mem hstar⟩, ?_⟩
    rwa [String.toList_ofList]

namespace Accepted

theorem clean (h : Accepted line o) : o.Clean := by
  have hoptions := h.options
  rw [optionsOf.eq_def] at hoptions
  split at hoptions
  · cases hoptions
    exact Options.clean_default
  · exact Options.clean_of_parse hoptions

theorem matchCase_iff (h : Accepted line o) : o.matchCase = true ↔ AsksMatchCase line := by
  have hoptions := h.options
  rw [AsksMatchCase]
  rw [optionsOf.eq_def] at hoptions
  split at hoptions
  · rename_i hnone
    cases hoptions
    exact ⟨nofun, fun ⟨text, htext, _⟩ => nomatch hnone.symm.trans htext⟩
  · rename_i text htext
    rw [Options.matchCase_of_parse hoptions]
    constructor
    · exact fun hasks => ⟨text, htext, hasks⟩
    · rintro ⟨text', htext', hasks⟩
      cases htext.symm.trans htext'
      exact hasks

theorem hasPattern (h : Accepted line o) (id : RuleId) : (ruleOf line o id).hasPattern = true := by
  rw [Rule.hasPattern, Bool.or_eq_true]
  rcases h.pattern with hdomain | hurl
  · obtain ⟨domain, hdomain⟩ := Option.ne_none_iff_exists'.mp hdomain
    rw [requestDomains_ruleOf, hdomain]
    exact .inr rfl
  · rw [urlFilter_ruleOf_eq_some_iff.mpr ⟨rfl, hurl⟩, Option.any_some]
    exact .inl (decide_eq_true (Text.ofList_ne_empty hurl))

theorem wellFormed (h : Accepted (Text.trim line) o) (id : RuleId) :
    WellFormed line id (ruleOf (Text.trim line) o id) where
  id_eq := rfl
  source := rfl
  hasPattern := h.hasPattern id
  action := by
    rw [action_ruleOf, priority_ruleOf]
    by_cases hmark : ['@', '@'] <+: Text.trim line
    · rw [if_pos hmark, splitException_fst.mpr hmark]
      rfl
    · rw [if_neg hmark, Bool.eq_false_iff.mpr (mt splitException_fst.mp hmark)]
      rfl
  types_ne := h.clean.types_ne
  types t ht := by
    have hfilterable := h.clean.types t ht
    have hframe : ResourceType.mainFrame ∉ ResourceTypes.filterable := by decide
    exact ⟨hfilterable, fun heq => hframe (heq ▸ hfilterable)⟩
  domains ds hds := by
    obtain ⟨name, hname, rfl⟩ := Option.map_eq_some_iff.mp hds
    exact ⟨name, rfl, Pattern.isDomainName_of_splitAnchor hname⟩
  url pattern hpattern := by
    obtain ⟨rfl, hne⟩ := urlFilter_ruleOf_eq_some_iff.mp hpattern
    refine ⟨Text.ofList_ne_empty hne, ?_⟩
    rw [String.toList_ofList]
    exact Pattern.caret_not_mem_urlFilter _
  letterCase := by
    rw [hasWildcard_ruleOf_iff, ← h.matchCase_iff, caseSensitive_ruleOf]
    by_cases hasks : o.matchCase = true
    · exact .inl ⟨hasks, if_pos hasks⟩
    · by_cases hstar : '*' ∈ Filter.url (Text.trim line)
      · exact .inr (.inl ⟨hasks, hstar, (if_neg hasks).trans (if_pos hstar)⟩)
      · exact .inr (.inr ⟨hasks, hstar, (if_neg hasks).trans (if_neg hstar)⟩)
  initiators ds hds := by
    obtain ⟨rfl, hne⟩ := nonEmpty?_eq_some_iff.mp hds
    exact ⟨hne, h.clean.initiators⟩
  excluded ds hds := by
    obtain ⟨rfl, hne⟩ := nonEmpty?_eq_some_iff.mp hds
    exact ⟨hne, h.clean.excluded⟩

end Accepted

/-- Every line that is a rule leads to a well-formed one, whatever the id. -/
theorem wellFormed_of_parse (h : parse line id = .ok r) : WellFormed line id r := by
  obtain ⟨o, ho, rfl⟩ := parse_eq_ok_iff.mp h
  exact ho.wellFormed id

/-- an exception with a domain, an escaped dollar, a wildcard and options -/
theorem wellFormed_exception :
    let line := " @@||.Ads.Example.COM./a\\$b^*|$~image,Match-Case,domain=A.org|~b.org| |~ ".toList
    let r : Rule :=
      { id := 7, priority := 2, action := .allow,
        condition :=
          { urlFilter := some "/a$b*"
            requestDomains := some ["ads.example.com"]
            resourceTypes := ResourceTypes.filterable \ ResourceTypes.ofList [.image]
            initiatorDomains := some ["a.org"]
            excludedInitiatorDomains := some ["b.org"]
            caseSensitive := some true }
        source := some (String.ofList (Text.trim line)) }
    parse line 7 = .ok r ∧ WellFormed line 7 r :=
  ⟨by decide +kernel, wellFormed_of_parse (by decide +kernel)⟩

end Filter

end Blocklist
