import Blocklist.Filter.Options
import Blocklist.Proofs.RuleText
import Blocklist.Proofs.Texts

/-!
# What the options of a line are made of

The options of a text come from its segments, one by one. Whatever a segment says, it is a resource
type that lines can name, or domains without blanks, separators and capitals around or in them.

* `Segment.ofText?_cases`             the kinds of segments, by their texts;
* `Segment.ofText?_eq_matchCase_iff`  the texts that ask for case to count;
* `Segment.IsEntry`                   what an entry of a list of domains looks like;
* `Options.readSegments_eq_ok_iff`    each text is read by itself;
* `Options.parse_eq_ok_iff`           the options of a text that is not rejected;
* `Options.Clean`, `Options.clean_of_parse`   what holds of all of them;
* `Options.matchCase_of_parse`        when case counts.
-/

namespace Blocklist

namespace Segment

/-! ## one segment -/

/-- a keyword, after a tilde if it is negated -/
def keywordText (negated : Bool) (name : String) : List Char :=
  if negated then '~' :: name.toList else name.toList

theorem ofKeyword?_cases {negated : Bool} {name : String} {segment : Segment}
    (h : ofKeyword? negated name = some segment) :
    (∃ t, resourceKeywords.lookup name = some t ∧ segment = resource negated t) ∨
    (∃ p, partyKeywords.lookup name = some p ∧
      segment = party (if negated then p.opposite else p)) ∨
    (negated = false ∧ name ∈ matchCaseKeywords ∧ segment = matchCase) ∨
    (negated = false ∧ name = "important" ∧ segment = important) := by
  rw [ofKeyword?] at h
  split at h
  · rename_i t ht
    exact .inl ⟨t, ht, (Option.some.inj h).symm⟩
  · split at h
    · rename_i p hp
      exact .inr (.inl ⟨p, hp, (Option.some.inj h).symm⟩)
    · cases negated with
      | true => cases h
      | false =>
        rw [if_neg Bool.false_ne_true] at h
        split at h
        · rename_i hname
          exact .inr (.inr (.inl ⟨rfl, hname, (Option.some.inj h).symm⟩))
        · split at h
          · rename_i hname
            exact .inr (.inr (.inr ⟨rfl, hname, (Option.some.inj h).symm⟩))
          · cases h

theorem ofText?_cases {cs : List Char} {segment : Segment} (h : ofText? cs = some segment) :
    (∃ value, cs = "domain=".toList ++ value ∧ segment = ofDomains value) ∨
    ∃ negated name, cs = keywordText negated name ∧ ofKeyword? negated name = some segment := by
  rw [ofText?.eq_def] at h
  split at h
  · rename_i value hvalue
    exact .inl ⟨value, Text.after?_eq_some_iff.mp hvalue, (Option.some.inj h).symm⟩
  · split at h
    · rename_i name _
      refine .inr ⟨true, String.ofList name, ?_, h⟩
      rw [keywordText, if_pos rfl, String.toList_ofList]
    · refine .inr ⟨false, String.ofList cs, ?_, h⟩
      rw [keywordText, if_neg Bool.false_ne_true, String.toList_ofList]

theorem ofText?_eq_matchCase_iff {cs : List Char} :
    ofText? cs = some matchCase ↔ String.ofList cs ∈ matchCaseKeywords := by
  constructor
  · intro h
    rcases ofText?_cases h with ⟨value, -, hsegment⟩ | ⟨negated, name, hcs, hkeyword⟩
    · cases hsegment
    · rcases ofKeyword?_cases hkeyword with ⟨t, -, hsegment⟩ | ⟨p, -, hsegment⟩ |
        ⟨rfl, hname, -⟩ | ⟨-, -, hsegment⟩
      · cases hsegment
      · cases hsegment
      · rw [hcs, keywordText, if_neg Bool.false_ne_true, String.ofList_toList]
        exact hname
      · cases hsegment
  · intro h
    have hread : ∀ name ∈ matchCaseKeywords, ofText? name.toList = some matchCase := by decide
    have hcs := hread _ h
    rwa [String.toList_ofList] at hcs

/-- a line names only types that can be filtered -/
theorem mem_filterable_of_ofText? {cs : List Char} {negated : Bool} {t : ResourceType}
    (h : ofText? cs = some (resource negated t)) : t ∈ ResourceTypes.filterable := by
  rcases ofText?_cases h with ⟨value, -, hsegment⟩ | ⟨negated', name, -, hkeyword⟩
  · cases hsegment
  · rcases ofKeyword?_cases hkeyword with ⟨t', ht', hsegment⟩ | ⟨p, -, hsegment⟩ |
      ⟨-, -, hsegment⟩ | ⟨-, -, hsegment⟩
    · cases hsegment
      obtain ⟨before, after, hentry, -⟩ := List.lookup_eq_some_iff.mp ht'
      have hall : ∀ entry ∈ resourceKeywords, entry.2 ∈ ResourceTypes.filterable := by decide
      exact hall _ (hentry ▸ List.mem_append_right before List.mem_cons_self)
    · cases hsegment
    · cases hsegment
    · cases hsegment

/-! ## lists of domains -/

/-- an entry of a list of domains: not empty, without capitals and separators -/
structure IsEntry (d : String) : Prop where
  ne_empty : d ≠ ""
  clean : ∀ c ∈ d.toList, c.isUpper = false ∧ c ≠ ',' ∧ c ≠ '|'

section
variable {value : List Char}

theorem mem_of_mem_domainEntries {e : List Char} (h : e ∈ domainEntries value) :
    e ≠ [] ∧ ∀ c ∈ e, c ∈ value ∧ c ≠ '|' := by
  obtain ⟨hmem, hne⟩ := List.mem_filter.mp h
  obtain ⟨piece, hpiece, rfl⟩ := List.mem_map.mp hmem
  refine ⟨of_decide_eq_true hne, fun c hc => ?_⟩
  exact Text.mem_of_mem_splitOn hpiece (Text.mem_of_mem_trimWhile hc)

/-- an included domain is an entry, an excluded one what follows the tilde of one -/
theorem entry_of_mem_ofDomains {d : String}
    (h : d ∈ (ofDomains value).included ∨ d ∈ (ofDomains value).excluded) :
    ∃ e ∈ domainEntries value, d.toList ≠ [] ∧ ∀ c ∈ d.toList, c ∈ e := by
  rcases h with h | h
  · obtain ⟨e, he, rfl⟩ := List.mem_map.mp h
    have hentry := List.mem_of_mem_filter he
    rw [String.toList_ofList]
    exact ⟨e, hentry, (mem_of_mem_domainEntries hentry).1, fun c hc => hc⟩
  · obtain ⟨domain, hdomain, rfl⟩ := List.mem_map.mp h
    obtain ⟨e, hentry, he⟩ := List.mem_filterMap.mp hdomain
    rw [String.toList_ofList]
    split at he
    · split at he
      · cases he
      · rename_i hne
        cases he
        exact ⟨_, hentry, hne, fun c hc => List.mem_cons_of_mem '~' hc⟩
    · cases he

end

/-- the domains of a segment without capitals and commas -/
theorem isEntry_of_ofText? {cs : List Char} {segment : Segment} (h : ofText? cs = some segment)
    (hcs : ∀ c ∈ cs, c.isUpper = false ∧ c ≠ ',') {d : String}
    (hd : d ∈ segment.included ∨ d ∈ segment.excluded) : IsEntry d := by
  rcases ofText?_cases h with ⟨value, rfl, rfl⟩ | ⟨negated, name, -, hkeyword⟩
  · obtain ⟨e, he, hne, hmem⟩ := entry_of_mem_ofDomains hd
    refine ⟨fun hempty => hne (String.toList_eq_nil_iff.mpr hempty), fun c hc => ?_⟩
    obtain ⟨hvalue, hbar⟩ := (mem_of_mem_domainEntries he).2 c (hmem c hc)
    obtain ⟨hupper, hcomma⟩ := hcs c (List.mem_append_right _ hvalue)
    exact ⟨hupper, hcomma, hbar⟩
  · -- no keyword names a domain
    exfalso
    rcases ofKeyword?_cases hkeyword with ⟨t, -, rfl⟩ | ⟨p, -, rfl⟩ | ⟨-, -, rfl⟩ | ⟨-, -, rfl⟩ <;>
      exact hd.elim nofun nofun

end Segment

/-! ## all segments -/

namespace Options

variable {text : List Char} {raws : List (List Char)} {segments : List Segment} {o : Options}

theorem readSegments_eq_ok_iff :
    readSegments raws = .ok segments ↔
      raws.map (fun raw => Segment.ofText? (Text.lower raw)) = segments.map some := by
  induction raws generalizing segments with
  | nil =>
    rw [readSegments_nil, List.map_nil, eq_comm (a := []), List.map_eq_nil_iff, Except.ok.injEq,
      eq_comm]
  | cons raw raws ih =>
    rw [readSegments, List.map_cons]
    cases hraw : Segment.ofText? (Text.lower raw) with
    | none =>
      refine ⟨nofun, fun h => ?_⟩
      cases segments with
      | nil => cases h
      | cons segment segments => cases (List.cons.inj h).1
    | some segment =>
      dsimp only
      cases hraws : readSegments raws with
      | error rejection =>
        refine ⟨nofun, fun h => ?_⟩
        cases segments with
        | nil => cases h
        | cons segment' segments' =>
          rw [ih.mpr (List.cons.inj h).2] at hraws
          cases hraws
      | ok rest =>
        have hrest := ih.mp hraws
        rw [hrest, Except.ok.injEq]
        constructor
        · rintro rfl
          rfl
        · intro h
          exact List.map_injective_iff.mpr (fun _ _ => Option.some.inj) h

theorem exists_raw_of_mem (h : readSegments raws = .ok segments) {segment : Segment}
    (hsegment : segment ∈ segments) :
    ∃ raw ∈ raws, Segment.ofText? (Text.lower raw) = some segment := by
  have hmem := List.mem_map_of_mem (f := some) hsegment
  rw [← readSegments_eq_ok_iff.mp h] at hmem
  exact List.mem_map.mp hmem

theorem exists_segment_of_mem (h : readSegments raws = .ok segments) {raw : List Char}
    (hraw : raw ∈ raws) :
    ∃ segment ∈ segments, Segment.ofText? (Text.lower raw) = some segment := by
  have hmem := List.mem_map_of_mem (f := fun raw => Segment.ofText? (Text.lower raw)) hraw
  rw [readSegments_eq_ok_iff.mp h] at hmem
  obtain ⟨segment, hsegment, heq⟩ := List.mem_map.mp hmem
  exact ⟨segment, hsegment, heq.symm⟩

theorem parse_eq_ok_iff :
    parse text = .ok o ↔
      ∃ segments, readSegments (segmentTexts text) = .ok segments ∧
        ofSegments? segments = some o := by
  rw [parse]
  cases hread : readSegments (segmentTexts text) with
  | error rejection => exact ⟨nofun, fun ⟨_, h, _⟩ => nomatch h⟩
  | ok segments =>
    dsimp only
    cases ho : ofSegments? segments with
    | none =>
      refine ⟨nofun, fun ⟨segments', h, ho'⟩ => ?_⟩
      cases h
      rw [ho] at ho'
      cases ho'
    | some o' =>
      constructor
      · intro h
        cases h
        exact ⟨segments, rfl, ho⟩
      · rintro ⟨segments', h, ho'⟩
        cases h
        rw [ho] at ho'
        rw [Option.some.inj ho']

theorem ofSegments?_eq_some_iff :
    ofSegments? segments = some o ↔
      resourceTypesOf segments ≠ ∅ ∧
        o = { resourceTypes := resourceTypesOf segments
              party := (segments.filterMap Segment.party?).getLast?
              initiators := segments.flatMap Segment.included
              excludedInitiators := segments.flatMap Segment.excluded
              matchCase := segments.contains .matchCase } := by
  rw [ofSegments?]
  split
  · rename_i hempty
    exact ⟨nofun, fun h => absurd hempty h.1⟩
  · rename_i hne
    rw [Option.some.injEq, eq_comm]
    exact ⟨fun h => ⟨hne, h⟩, fun h => h.2⟩

/-- no capitals or commas are left in a segment that is read -/
theorem clean_of_mem_segmentTexts {raw : List Char} (h : raw ∈ segmentTexts text) :
    ∀ c ∈ Text.lower raw, c.isUpper = false ∧ c ≠ ',' := by
  obtain ⟨piece, hpiece, rfl⟩ := List.mem_map.mp (List.mem_of_mem_filter h)
  intro c hc
  obtain ⟨c', hc', rfl⟩ := List.mem_map.mp hc
  refine ⟨Char.isUpper_toLower_eq_false c', fun hcomma => ?_⟩
  have hmem := Text.mem_of_mem_splitOn hpiece (Text.mem_of_mem_trimWhile hc')
  exact hmem.2 (Text.eq_of_toLower_eq (by decide) hcomma)

/-! ## types -/

theorem mem_resourceTypesOf
    (h : ∀ negated t, .resource negated t ∈ segments → t ∈ ResourceTypes.filterable)
    {t : ResourceType} (ht : t ∈ resourceTypesOf segments) : t ∈ ResourceTypes.filterable := by
  rw [resourceTypesOf] at ht
  split at ht
  · rw [ResourceTypes.ofList, ResourceTypes.mem_foldl_insert] at ht
    rcases ht with ht | ht
    · exact absurd ht (ResourceTypes.not_mem_empty t)
    · obtain ⟨segment, hsegment, hresource⟩ := List.mem_filterMap.mp ht
      rw [Segment.resource?.eq_def] at hresource
      split at hresource
      · split at hresource
        · cases hresource
          exact h _ _ hsegment
        · cases hresource
      · cases hresource
  · split at ht
    · exact (ResourceTypes.mem_diff.mp ht).1
    · have hall : ∀ t ∈ ResourceType.all, t ∈ ResourceTypes.usual →
          t ∈ ResourceTypes.filterable := by decide
      exact hall t (ResourceType.mem_all t) ht

/-! ## options that are not rejected -/

/-- options that the engine can be given -/
structure Clean (o : Options) : Prop where
  types_ne : o.resourceTypes ≠ ∅
  types : ∀ t ∈ o.resourceTypes, t ∈ ResourceTypes.filterable
  initiators : ∀ d ∈ o.initiators, Segment.IsEntry d
  excluded : ∀ d ∈ o.excludedInitiators, Segment.IsEntry d

theorem clean_of_parse (h : parse text = .ok o) : Clean o := by
  obtain ⟨segments, hread, ho⟩ := parse_eq_ok_iff.mp h
  obtain ⟨hne, rfl⟩ := ofSegments?_eq_some_iff.mp ho
  have entry : ∀ segment ∈ segments, ∀ d, d ∈ segment.included ∨ d ∈ segment.excluded →
      Segment.IsEntry d := by
    intro segment hsegment d hd
    obtain ⟨raw, hraw, htext⟩ := exists_raw_of_mem hread hsegment
    exact Segment.isEntry_of_ofText? htext (clean_of_mem_segmentTexts hraw) hd
  refine ⟨hne, fun t ht => mem_resourceTypesOf (fun negated t hsegment => ?_) ht, fun d hd => ?_,
    fun d hd => ?_⟩
  · obtain ⟨raw, -, htext⟩ := exists_raw_of_mem hread hsegment
    exact Segment.mem_filterable_of_ofText? htext
  · obtain ⟨segment, hsegment, hd⟩ := List.mem_flatMap.mp hd
    exact entry segment hsegment d (.inl hd)
  · obtain ⟨segment, hsegment, hd⟩ := List.mem_flatMap.mp hd
    exact entry segment hsegment d (.inr hd)

/-- A line without options has those of an empty text. -/
theorem clean_default : Clean {} := clean_of_parse (show parse [] = .ok {} by decide)

theorem matchCase_of_parse (h : parse text = .ok o) :
    o.matchCase = true ↔
      ∃ raw ∈ segmentTexts text, String.ofList (Text.lower raw) ∈ Segment.matchCaseKeywords := by
  obtain ⟨segments, hread, ho⟩ := parse_eq_ok_iff.mp h
  obtain ⟨-, rfl⟩ := ofSegments?_eq_some_iff.mp ho
  show segments.contains .matchCase = true ↔ _
  rw [List.contains_iff_mem]
  constructor
  · intro hmem
    obtain ⟨raw, hraw, htext⟩ := exists_raw_of_mem hread hmem
    exact ⟨raw, hraw, Segment.ofText?_eq_matchCase_iff.mp htext⟩
  · rintro ⟨raw, hraw, hname⟩
    obtain ⟨segment, hsegment, htext⟩ := exists_segment_of_mem hread hraw
    rw [Segment.ofText?_eq_matchCase_iff.mpr hname] at htext
    cases htext
    exact hsegment

end Options

end Blocklist
