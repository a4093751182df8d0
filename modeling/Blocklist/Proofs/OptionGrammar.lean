import Blocklist.Proofs.OptionTexts

/-!
# The grammar of options

A text of options is cut at its commas, and each piece is read by itself, without the blanks around
it and without capitals. It must be an option or blank, and some resource type must be left. What
the options come to is read off the pieces.

* `Segment.IsOption`           the texts of options;
* `Segment.ReadAs`             what the text of an option is read as;
* `Segment.NamesType`, `Segment.NamesParty`   what the keyword of an option names;
* `Options.pieces`             the pieces of a text;
* `Options.Leaves`             the resource types that the pieces leave;
* `Options.Describes`          the options that the pieces come to;
* `Options.Fault`              why a text is rejected;
* `Options.parse_grammar`      which texts are options, what they come to, and why others are not.
-/

namespace Blocklist

namespace Text

theorem splitOn_eq (sep : Char) (cs : List Char) : splitOn sep cs = cs.splitOn sep := by
  induction cs with
  | nil => rfl
  | cons c cs ih =>
    rw [List.splitOn, List.splitOnP_cons_eq_if_modifyHead]
    by_cases h : c = sep
    · rw [h, splitOn_cons_self, if_pos (beq_self_eq_true sep), ih, List.splitOn]
    · rw [splitOn_cons_of_ne h, if_neg (mt eq_of_beq h), ← List.splitOn, ← ih]
      cases hs : splitOn sep cs with
      | nil => exact absurd hs (splitOn_ne_nil sep cs)
      | cons l ls => rfl

end Text

theorem ResourceTypes.ne_empty_iff {s : ResourceTypes} : s ≠ ∅ ↔ ∃ t, t ∈ s := by
  rw [Ne, ResourceTypes.ext_iff, not_forall]
  refine exists_congr fun t => ?_
  rw [iff_false_right (ResourceTypes.not_mem_empty t), not_not]

namespace Segment

/-! ## one option -/

variable {cs : List Char}

/-- The texts of options, without blanks around them and without capitals. A tilde may stand right
before a keyword for a resource type or a party, and only there. -/
inductive IsOption : List Char → Prop where
  | blank : IsOption []
  | domains (value : List Char) : IsOption ("domain=".toList ++ value)
  | resource (negated : Bool) {name : String} {t : ResourceType}
      (hname : (name, t) ∈ resourceKeywords) : IsOption (keywordText negated name)
  | party (negated : Bool) {name : String} {p : Party} (hname : (name, p) ∈ partyKeywords) :
      IsOption (keywordText negated name)
  | matchCase {name : String} (hname : name ∈ matchCaseKeywords) : IsOption name.toList
  | important : IsOption "important".toList

/-- the keyword of a resource type, plain or after a tilde -/
def NamesType (negated : Bool) (cs : List Char) (t : ResourceType) : Prop :=
  ∃ name, (name, t) ∈ resourceKeywords ∧ cs = keywordText negated name

/-- the keyword of a party; a tilde before it names the other one -/
def NamesParty (cs : List Char) (p : Party) : Prop :=
  ∃ negated name q, (name, q) ∈ partyKeywords ∧ cs = keywordText negated name ∧
    p = if negated then q.opposite else q

/-- what the text of an option is read as -/
inductive ReadAs : List Char → Segment → Prop where
  | domains (value : List Char) : ReadAs ("domain=".toList ++ value) (ofDomains value)
  | resource (negated : Bool) {name : String} {t : ResourceType}
      (hname : (name, t) ∈ resourceKeywords) :
      ReadAs (keywordText negated name) (.resource negated t)
  | party (negated : Bool) {name : String} {p : Party} (hname : (name, p) ∈ partyKeywords) :
      ReadAs (keywordText negated name) (.party (if negated then p.opposite else p))
  | matchCase {name : String} (hname : name ∈ matchCaseKeywords) : ReadAs name.toList .matchCase
  | important : ReadAs "important".toList .important

theorem mem_of_lookup {α : Type} {table : List (String × α)} {name : String} {a : α}
    (h : table.lookup name = some a) : (name, a) ∈ table := by
  obtain ⟨before, after, htable, -⟩ := List.lookup_eq_some_iff.mp h
  rw [htable]
  exact List.mem_append_right before List.mem_cons_self

theorem ofText?_resource (negated : Bool) :
    ∀ entry ∈ resourceKeywords,
      ofText? (keywordText negated entry.1) = some (resource negated entry.2) := by
  cases negated <;> decide

theorem ofText?_party (negated : Bool) :
    ∀ entry ∈ partyKeywords, ofText? (keywordText negated entry.1) =
      some (party (if negated then entry.2.opposite else entry.2)) := by
  cases negated <;> decide

theorem ofText?_domains (value : List Char) :
    ofText? ("domain=".toList ++ value) = some (ofDomains value) := by
  rw [ofText?.eq_def, Text.after?_eq_some_iff.mpr rfl]

theorem ofText?_nil : ofText? [] = none := by decide

theorem ofText?_eq_some_iff {segment : Segment} :
    ofText? cs = some segment ↔ ReadAs cs segment := by
  constructor
  · intro h
    rcases ofText?_cases h with ⟨value, rfl, rfl⟩ | ⟨negated, name, rfl, hkeyword⟩
    · exact .domains value
    · rcases ofKeyword?_cases hkeyword with
        ⟨t, ht, rfl⟩ | ⟨p, hp, rfl⟩ | ⟨rfl, hname, rfl⟩ | ⟨rfl, rfl, rfl⟩
      · exact .resource negated (mem_of_lookup ht)
      · exact .party negated (mem_of_lookup hp)
      · exact .matchCase hname
      · exact .important
  · intro h
    cases h with
    | domains value => exact ofText?_domains value
    | resource negated hname => exact ofText?_resource negated _ hname
    | party negated hname => exact ofText?_party negated _ hname
    | matchCase hname => exact ofText?_eq_matchCase_iff.mpr (by rwa [String.ofList_toList])
    | important => decide

theorem ReadAs.isOption {segment : Segment} (h : ReadAs cs segment) : IsOption cs := by
  cases h with
  | domains value => exact .domains value
  | resource negated hname => exact .resource negated hname
  | party negated hname => exact .party negated hname
  | matchCase hname => exact .matchCase hname
  | important => exact .important

/-- A text is read if it is an option, and a blank one is not looked at. -/
theorem isOption_iff : IsOption cs ↔ cs = [] ∨ ∃ segment, ofText? cs = some segment := by
  simp only [ofText?_eq_some_iff]
  constructor
  · intro h
    cases h with
    | blank => exact .inl rfl
    | domains value => exact .inr ⟨_, .domains value⟩
    | resource negated hname => exact .inr ⟨_, .resource negated hname⟩
    | party negated hname => exact .inr ⟨_, .party negated hname⟩
    | matchCase hname => exact .inr ⟨_, .matchCase hname⟩
    | important => exact .inr ⟨_, .important⟩
  · rintro (rfl | ⟨segment, h⟩)
    · exact .blank
    · exact h.isOption

instance (cs : List Char) : Decidable (IsOption cs) :=
  decidable_of_iff (cs = [] ∨ (ofText? cs).isSome = true)
    (isOption_iff.trans (or_congr_right Option.isSome_iff_exists.symm)).symm

theorem ofText?_eq_resource_iff {negated : Bool} {t : ResourceType} :
    ofText? cs = some (resource negated t) ↔ NamesType negated cs t := by
  rw [ofText?_eq_some_iff]
  constructor
  · intro h
    cases h with
    | resource _ hname => exact ⟨_, hname, rfl⟩
  · rintro ⟨name, hname, rfl⟩
    exact .resource negated hname

theorem ofText?_eq_party_iff {p : Party} : ofText? cs = some (party p) ↔ NamesParty cs p := by
  rw [ofText?_eq_some_iff]
  constructor
  · intro h
    cases h with
    | party negated hname => exact ⟨negated, _, _, hname, rfl, rfl⟩
  · rintro ⟨negated, name, q, hname, rfl, rfl⟩
    exact .party negated hname

/-! ## the domains of an option -/

/-- the parts of a list of domains, without blanks around them and without blank ones; a text that
is no list of domains has none -/
def domainParts (cs : List Char) : List (List Char) :=
  if "domain=".toList <+: cs then (((cs.drop 7).splitOn '|').map Text.trim).filter (· ≠ []) else []

theorem domainParts_domains (value : List Char) :
    domainParts ("domain=".toList ++ value) = domainEntries value := by
  rw [domainParts, if_pos (List.prefix_append _ value), domainEntries, Text.splitOn_eq]
  rfl

/-- the domains after a tilde, in parts that have one -/
def excludedParts (parts : List (List Char)) : List (List Char) :=
  ((parts.filter fun part => part.head? = some '~').map List.tail).filter (· ≠ [])

theorem filterMap_excluded (parts : List (List Char)) :
    (parts.filterMap fun e =>
      match e with
      | '~' :: d => if d = [] then none else some d
      | _ => none) = excludedParts parts := by
  induction parts with
  | nil => rfl
  | cons e parts ih =>
    rw [List.filterMap_cons, ih]
    split
    · rename_i hnone
      split at hnone
      · rename_i d
        split at hnone
        · rename_i hd
          subst hd
          rfl
        · cases hnone
      · rename_i hnot
        have hhead : e.head? ≠ some '~' := fun h => by
          obtain ⟨d, rfl⟩ := List.head?_eq_some_iff.mp h
          exact hnot d rfl
        rw [excludedParts, excludedParts, List.filter_cons_of_neg (by simpa using hhead)]
    · rename_i domain hsome
      split at hsome
      · rename_i d
        split at hsome
        · cases hsome
        · rename_i hd
          cases hsome
          simp [excludedParts, hd]
      · cases hsome

theorem domains_of_ofText? (cs : List Char) :
    ((ofText? cs).toList.flatMap included =
      ((domainParts cs).filter fun part => part.head? ≠ some '~').map String.ofList) ∧
    ((ofText? cs).toList.flatMap excluded =
      (excludedParts (domainParts cs)).map String.ofList) := by
  by_cases hprefix : "domain=".toList <+: cs
  · obtain ⟨value, rfl⟩ := hprefix
    rw [ofText?_domains, domainParts_domains, ← filterMap_excluded]
    exact ⟨List.append_nil _, List.append_nil _⟩
  · rw [domainParts, if_neg hprefix]
    cases h : ofText? cs with
    | none => exact ⟨rfl, rfl⟩
    | some segment =>
      cases ofText?_eq_some_iff.mp h with
      | domains value => exact absurd (List.prefix_append _ value) hprefix
      | resource | party | matchCase | important => exact ⟨rfl, rfl⟩

end Segment

namespace Options

variable {text : List Char} {raws : List (List Char)} {o : Options}

/-! ## the pieces of a text -/

/-- what stands between the commas of a text, without the blanks around it -/
def rawPieces (text : List Char) : List (List Char) := (text.splitOn ',').map Text.trim

/-- the same without capitals -/
def pieces (text : List Char) : List (List Char) := (rawPieces text).map Text.lower

/-- one of the pieces is the keyword of this type, plain or after a tilde -/
def Names (pieces : List (List Char)) (negated : Bool) (t : ResourceType) : Prop :=
  ∃ piece ∈ pieces, Segment.NamesType negated piece t

/-- The resource types that the pieces leave: those named plainly if there are any, or else the
filterable types but for those named after a tilde if there are any, or else the usual types. -/
def Leaves (pieces : List (List Char)) (t : ResourceType) : Prop :=
  Names pieces false t ∨
  (∀ u, ¬ Names pieces false u) ∧ (∃ u, Names pieces true u) ∧
    t ∈ ResourceTypes.filterable ∧ ¬ Names pieces true t ∨
  (∀ u, ¬ Names pieces false u) ∧ (∀ u, ¬ Names pieces true u) ∧ t ∈ ResourceTypes.usual

/-- the options that the pieces come to -/
structure Describes (pieces : List (List Char)) (o : Options) : Prop where
  types : ∀ t, t ∈ o.resourceTypes ↔ Leaves pieces t
  /-- the last keyword of a party counts -/
  party : ∀ p, o.party = some p ↔
    ∃ before piece after, pieces = before ++ piece :: after ∧ Segment.NamesParty piece p ∧
      ∀ later ∈ after, ∀ q, ¬ Segment.NamesParty later q
  matchCase : o.matchCase = true ↔ ∃ name ∈ Segment.matchCaseKeywords, name.toList ∈ pieces
  initiators : o.initiators =
    ((pieces.flatMap Segment.domainParts).filter fun part => part.head? ≠ some '~').map
      String.ofList
  excluded : o.excludedInitiators =
    (Segment.excludedParts (pieces.flatMap Segment.domainParts)).map String.ofList

/-- every piece is an option or blank, and some resource type is left -/
def Grammatical (text : List Char) : Prop :=
  (∀ piece ∈ pieces text, Segment.IsOption piece) ∧ ∃ t, Leaves (pieces text) t

/-- why a text is rejected: for its first piece that is no option, or as a whole -/
inductive Fault (text : List Char) : Rejection → Prop where
  | piece {before after : List (List Char)} {raw : List Char}
      (hpieces : rawPieces text = before ++ raw :: after)
      (hbefore : ∀ earlier ∈ before, Segment.IsOption (Text.lower earlier))
      (hraw : ¬ Segment.IsOption (Text.lower raw)) :
      Fault text (.unsupportedOption (String.ofList raw))
  | noType (hpieces : ∀ piece ∈ pieces text, Segment.IsOption piece)
      (hleaves : ∀ t, ¬ Leaves (pieces text) t) :
      Fault text (.unsupportedOption (String.ofList (Text.trim text)))

theorem segmentTexts_eq (text : List Char) :
    segmentTexts text = (rawPieces text).filter (· ≠ []) := by
  rw [segmentTexts, Text.splitOn_eq, rawPieces]

theorem forall_mem_pieces {P : List Char → Prop} :
    (∀ piece ∈ pieces text, P piece) ↔ ∀ raw ∈ rawPieces text, P (Text.lower raw) :=
  List.forall_mem_map

/-- what the pieces are read as -/
def segments (pieces : List (List Char)) : List Segment := pieces.filterMap Segment.ofText?

theorem mem_segments_iff {pieces : List (List Char)} {segment : Segment} :
    segment ∈ segments pieces ↔ ∃ piece ∈ pieces, Segment.ofText? piece = some segment :=
  List.mem_filterMap

/-! ## reading the pieces -/

theorem readSegments_cons {raw : List Char} (h : Segment.IsOption (Text.lower raw))
    (raws : List (List Char)) :
    readSegments ((raw :: raws).filter (· ≠ [])) =
      match readSegments (raws.filter (· ≠ [])) with
      | .error rejection => .error rejection
      | .ok rest => .ok ((Segment.ofText? (Text.lower raw)).toList ++ rest) := by
  by_cases hraw : raw = []
  · rw [hraw, List.filter_cons_of_neg (by decide), Text.lower_nil, Segment.ofText?_nil]
    cases readSegments (raws.filter (· ≠ [])) <;> rfl
  · have hlower : Text.lower raw ≠ [] := mt List.map_eq_nil_iff.mp hraw
    obtain ⟨segment, hsegment⟩ := (Segment.isOption_iff.mp h).resolve_left hlower
    rw [List.filter_cons_of_pos (by simpa using hraw), readSegments, hsegment]
    rfl

/-- options at the front are read one by one -/
theorem readSegments_append {before : List (List Char)}
    (h : ∀ raw ∈ before, Segment.IsOption (Text.lower raw)) (after : List (List Char)) :
    readSegments ((before ++ after).filter (· ≠ [])) =
      match readSegments (after.filter (· ≠ [])) with
      | .error rejection => .error rejection
      | .ok rest => .ok (segments (before.map Text.lower) ++ rest) := by
  induction before with
  | nil =>
    rw [List.nil_append]
    cases readSegments (after.filter (· ≠ [])) <;> rfl
  | cons raw before ih =>
    obtain ⟨hraw, hbefore⟩ := List.forall_mem_cons.mp h
    rw [List.cons_append, readSegments_cons hraw, ih hbefore]
    cases readSegments (after.filter (· ≠ [])) with
    | error rejection => rfl
    | ok rest =>
      dsimp only
      rw [segments, segments, List.map_cons, List.filterMap_cons]
      cases Segment.ofText? (Text.lower raw) <;> rfl

theorem readSegments_of_isOption (h : ∀ raw ∈ raws, Segment.IsOption (Text.lower raw)) :
    readSegments (raws.filter (· ≠ [])) = .ok (segments (raws.map Text.lower)) := by
  have hread := readSegments_append h []
  rw [List.append_nil, List.filter_nil, readSegments_nil] at hread
  dsimp only at hread
  rw [hread, List.append_nil]

/-- Reading stops at the first piece that is no option. -/
theorem readSegments_of_not_isOption {before after : List (List Char)} {raw : List Char}
    (hbefore : ∀ earlier ∈ before, Segment.IsOption (Text.lower earlier))
    (hraw : ¬ Segment.IsOption (Text.lower raw)) :
    readSegments ((before ++ raw :: after).filter (· ≠ [])) =
      .error (.unsupportedOption (String.ofList raw)) := by
  have hne : raw ≠ [] := fun h => hraw (h ▸ .blank)
  have hnone : Segment.ofText? (Text.lower raw) = none :=
    Option.eq_none_iff_forall_ne_some.mpr fun segment hsegment =>
      hraw (Segment.ofText?_eq_some_iff.mp hsegment).isOption
  rw [readSegments_append hbefore, List.filter_cons_of_pos (by simpa using hne), readSegments,
    hnone]

theorem exists_first_not_isOption (h : ¬ ∀ raw ∈ raws, Segment.IsOption (Text.lower raw)) :
    ∃ before raw after, raws = before ++ raw :: after ∧
      (∀ earlier ∈ before, Segment.IsOption (Text.lower earlier)) ∧
      ¬ Segment.IsOption (Text.lower raw) := by
  cases hfind : raws.find? fun raw => ¬ Segment.IsOption (Text.lower raw) with
  | none =>
    rw [List.find?_eq_none] at hfind
    simp only [decide_eq_true_eq, Decidable.not_not] at hfind
    exact absurd hfind h
  | some raw =>
    obtain ⟨hraw, before, after, hraws, hbefore⟩ := List.find?_eq_some_iff_append.mp hfind
    refine ⟨before, raw, after, hraws, fun earlier hearlier => ?_, of_decide_eq_true hraw⟩
    simpa using hbefore earlier hearlier

/-! ## what the pieces come to -/

section
variable {pieces : List (List Char)} {t : ResourceType}

theorem mem_ofList_resource_iff {negated : Bool} :
    t ∈ ResourceTypes.ofList ((segments pieces).filterMap (Segment.resource? negated)) ↔
      Names pieces negated t := by
  have hresource (segment : Segment) :
      segment.resource? negated = some t ↔ segment = .resource negated t := by
    cases segment with
    | resource n u =>
      rw [Segment.resource?, Option.ite_none_right_eq_some, Option.some_inj, Segment.resource.injEq]
    | _ => exact ⟨nofun, nofun⟩
  rw [ResourceTypes.ofList, ResourceTypes.mem_foldl_insert,
    or_iff_right (ResourceTypes.not_mem_empty t), List.mem_filterMap]
  simp only [hresource, exists_eq_right, mem_segments_iff, Segment.ofText?_eq_resource_iff, Names]

theorem mem_resourceTypesOf_iff : t ∈ resourceTypesOf (segments pieces) ↔ Leaves pieces t := by
  have hnames (negated : Bool) :
      ResourceTypes.ofList ((segments pieces).filterMap (Segment.resource? negated)) ≠ ∅ ↔
        ∃ u, Names pieces negated u := by
    rw [ResourceTypes.ne_empty_iff]
    exact exists_congr fun u => mem_ofList_resource_iff
  rw [resourceTypesOf, Leaves]
  split
  · rename_i hplain
    obtain ⟨u, hu⟩ := (hnames false).mp hplain
    rw [mem_ofList_resource_iff]
    refine ⟨.inl, ?_⟩
    rintro (h | ⟨hnone, -⟩ | ⟨hnone, -⟩)
    · exact h
    · exact absurd hu (hnone u)
    · exact absurd hu (hnone u)
  · rename_i hplain
    have hnone := not_exists.mp (mt (hnames false).mpr hplain)
    rw [or_iff_right (hnone t)]
    split
    · rename_i hnegated
      have hsome := (hnames true).mp hnegated
      rw [ResourceTypes.mem_diff, mem_ofList_resource_iff]
      refine ⟨fun h => .inl ⟨hnone, hsome, h⟩, ?_⟩
      rintro (⟨-, -, h⟩ | ⟨-, hnone', -⟩)
      · exact h
      · exact absurd hsome (not_exists.mpr hnone')
    · rename_i hnegated
      have hnone' := mt (hnames true).mpr hnegated
      refine ⟨fun h => .inr ⟨hnone, not_exists.mp hnone', h⟩, ?_⟩
      rintro (⟨-, hsome, -⟩ | ⟨-, -, h⟩)
      · exact absurd hsome hnone'
      · exact h

theorem party?_ofText?_iff {piece : List Char} {p : Party} :
    (Segment.ofText? piece).bind Segment.party? = some p ↔ Segment.NamesParty piece p := by
  have hparty (segment : Segment) : segment.party? = some p ↔ segment = .party p := by
    cases segment with
    | party q => rw [Segment.party?, Option.some_inj, Segment.party.injEq]
    | _ => exact ⟨nofun, nofun⟩
  simp only [Option.bind_eq_some_iff, hparty, exists_eq_right, Segment.ofText?_eq_party_iff]

theorem party_eq_some_iff {p : Party} :
    ((segments pieces).filterMap Segment.party?).getLast? = some p ↔
      ∃ before piece after, pieces = before ++ piece :: after ∧ Segment.NamesParty piece p ∧
        ∀ later ∈ after, ∀ q, ¬ Segment.NamesParty later q := by
  have hnone (piece : List Char) : (Segment.ofText? piece).bind Segment.party? = none ↔
      ∀ q, ¬ Segment.NamesParty piece q := by
    simp only [← party?_ofText?_iff, Option.eq_none_iff_forall_ne_some, Ne]
  rw [segments, List.filterMap_filterMap, List.getLast?_filterMap, List.findSome?_eq_some_iff]
  simp only [party?_ofText?_iff, hnone]
  constructor
  · rintro ⟨after, piece, before, hpieces, hpiece, hafter⟩
    refine ⟨before.reverse, piece, after.reverse, ?_, hpiece, fun later hlater => ?_⟩
    · rw [← List.reverse_reverse pieces, hpieces]
      simp
    · exact hafter later (List.mem_reverse.mp hlater)
  · rintro ⟨before, piece, after, rfl, hpiece, hafter⟩
    refine ⟨after.reverse, piece, before.reverse, by simp, hpiece, fun later hlater => ?_⟩
    exact hafter later (List.mem_reverse.mp hlater)

theorem flatMap_segments {β : Type} (f : Segment → List β) :
    (segments pieces).flatMap f =
      pieces.flatMap fun piece => (Segment.ofText? piece).toList.flatMap f := by
  induction pieces with
  | nil => rfl
  | cons piece pieces ih =>
    rw [List.flatMap_cons, ← ih, segments, segments, List.filterMap_cons]
    cases Segment.ofText? piece with
    | none => rfl
    | some segment => simp

theorem describes_of_ofSegments? (h : ofSegments? (segments pieces) = some o) :
    Describes pieces o := by
  obtain ⟨-, rfl⟩ := ofSegments?_eq_some_iff.mp h
  constructor
  case types => exact fun t => mem_resourceTypesOf_iff
  case party => exact fun p => party_eq_some_iff
  case matchCase =>
    show (segments pieces).contains .matchCase = true ↔ _
    simp only [List.contains_iff_mem, mem_segments_iff, Segment.ofText?_eq_matchCase_iff]
    constructor
    · rintro ⟨piece, hpiece, hname⟩
      exact ⟨_, hname, by rwa [String.toList_ofList]⟩
    · rintro ⟨name, hname, hpiece⟩
      exact ⟨_, hpiece, by rwa [String.ofList_toList]⟩
  case initiators =>
    show (segments pieces).flatMap Segment.included = _
    rw [flatMap_segments, List.filter_flatMap, List.map_flatMap]
    simp only [(Segment.domains_of_ofText? _).1]
  case excluded =>
    show (segments pieces).flatMap Segment.excluded = _
    rw [flatMap_segments, Segment.excludedParts, List.filter_flatMap, List.map_flatMap,
      List.filter_flatMap, List.map_flatMap]
    simp only [(Segment.domains_of_ofText? _).2, Segment.excludedParts]

end

/-! ## which texts are options -/

theorem parse_of_isOption (h : ∀ piece ∈ pieces text, Segment.IsOption piece) :
    parse text =
      match ofSegments? (segments (pieces text)) with
      | some o => .ok o
      | none => .error (.unsupportedOption (String.ofList (Text.trim text))) := by
  rw [parse, segmentTexts_eq, readSegments_of_isOption (forall_mem_pieces.mp h)]
  rfl

theorem parse_of_not_isOption {before after : List (List Char)} {raw : List Char}
    (hpieces : rawPieces text = before ++ raw :: after)
    (hbefore : ∀ earlier ∈ before, Segment.IsOption (Text.lower earlier))
    (hraw : ¬ Segment.IsOption (Text.lower raw)) :
    parse text = .error (.unsupportedOption (String.ofList raw)) := by
  rw [parse, segmentTexts_eq, hpieces, readSegments_of_not_isOption hbefore hraw]

theorem ofSegments?_eq_none_iff {segments : List Segment} :
    ofSegments? segments = none ↔ resourceTypesOf segments = ∅ := by
  rw [ofSegments?]
  split
  · rename_i hempty
    exact iff_of_true rfl hempty
  · rename_i hne
    refine iff_of_false (fun hnone => ?_) hne
    cases hnone

/-- A text is grammatical, with the options that its pieces come to, or it has a fault. -/
theorem parse_cases (text : List Char) :
    (Grammatical text ∧ ∃ o, parse text = .ok o ∧ Describes (pieces text) o) ∨
    ∃ rejection, parse text = .error rejection ∧ Fault text rejection := by
  by_cases h : ∀ raw ∈ rawPieces text, Segment.IsOption (Text.lower raw)
  · have hpieces := forall_mem_pieces.mpr h
    have hparse := parse_of_isOption hpieces
    cases ho : ofSegments? (segments (pieces text)) with
    | none =>
      rw [ho] at hparse
      refine .inr ⟨_, hparse, .noType hpieces fun t ht => ?_⟩
      have hmem := mem_resourceTypesOf_iff.mpr ht
      rw [ofSegments?_eq_none_iff.mp ho] at hmem
      exact ResourceTypes.not_mem_empty t hmem
    | some o =>
      rw [ho] at hparse
      have hdescribes := describes_of_ofSegments? ho
      have hne := (ofSegments?_eq_some_iff.mp ho).1
      obtain ⟨t, ht⟩ := ResourceTypes.ne_empty_iff.mp hne
      exact .inl ⟨⟨hpieces, t, mem_resourceTypesOf_iff.mp ht⟩, o, hparse, hdescribes⟩
  · obtain ⟨before, raw, after, hraws, hbefore, hraw⟩ := exists_first_not_isOption h
    exact .inr ⟨_, parse_of_not_isOption hraws hbefore hraw, .piece hraws hbefore hraw⟩

theorem Fault.parse_eq {rejection : Rejection} (h : Fault text rejection) :
    parse text = .error rejection := by
  cases h with
  | piece hpieces hbefore hraw => exact parse_of_not_isOption hpieces hbefore hraw
  | noType hpieces hleaves =>
    have hnone : ofSegments? (segments (pieces text)) = none := by
      rw [ofSegments?_eq_none_iff]
      by_contra hne
      obtain ⟨t, ht⟩ := ResourceTypes.ne_empty_iff.mp hne
      exact hleaves t (mem_resourceTypesOf_iff.mp ht)
    rw [parse_of_isOption hpieces, hnone]

theorem Fault.not_grammatical {rejection : Rejection} (h : Fault text rejection) :
    ¬ Grammatical text := by
  rintro ⟨hpieces, t, ht⟩
  cases h with
  | piece hraws hbefore hraw =>
    rw [forall_mem_pieces, hraws] at hpieces
    exact hraw (hpieces _ (List.mem_append_right _ List.mem_cons_self))
  | noType _ hleaves => exact hleaves t ht

theorem parse_eq_error_iff {rejection : Rejection} :
    parse text = .error rejection ↔ Fault text rejection := by
  refine ⟨fun h => ?_, Fault.parse_eq⟩
  rcases parse_cases text with ⟨-, o, ho, -⟩ | ⟨rejection', hparse, hfault⟩
  · cases h.symm.trans ho
  · cases h.symm.trans hparse
    exact hfault

/-- the cause of a rejection of options is one of them, or all of them together -/
theorem unsupportedOption_of_parse {rejection : Rejection} (h : parse text = .error rejection) :
    ∃ option, rejection = .unsupportedOption option := by
  cases parse_eq_error_iff.mp h with
  | piece => exact ⟨_, rfl⟩
  | noType => exact ⟨_, rfl⟩

theorem exists_parse_iff : (∃ o, parse text = .ok o) ↔ Grammatical text := by
  rcases parse_cases text with ⟨hgrammatical, o, ho, -⟩ | ⟨rejection, hparse, hfault⟩
  · exact ⟨fun _ => hgrammatical, fun _ => ⟨o, ho⟩⟩
  · refine ⟨fun ⟨o, ho⟩ => ?_, fun h => absurd h hfault.not_grammatical⟩
    cases ho.symm.trans hparse

theorem describes_of_parse (h : parse text = .ok o) : Describes (pieces text) o := by
  rcases parse_cases text with ⟨-, o', ho', hdescribes⟩ | ⟨rejection, hparse, -⟩
  · cases h.symm.trans ho'
    exact hdescribes
  · cases h.symm.trans hparse

/-- A text is options exactly if it is grammatical. Then they are what its pieces come to, and else
it is rejected for its fault. -/
theorem parse_grammar (text : List Char) :
    ((∃ o, parse text = .ok o) ↔ Grammatical text) ∧
    (∀ o, parse text = .ok o → Describes (pieces text) o) ∧
    ∀ rejection, parse text = .error rejection ↔ Fault text rejection :=
  ⟨exists_parse_iff, fun _ => describes_of_parse, fun _ => parse_eq_error_iff⟩

/-- options of all kinds, with capitals, blanks and repetitions -/
theorem parse_grammar_mixed :
    let text :=
      " ~Image,DOMAIN=A.com| ~b.com |~,1P, ~Third-Party ,MATCH-CASE,,xhr,domain=~c.org".toList
    let o : Options :=
      { resourceTypes := ResourceTypes.ofList [.xmlHttpRequest]
        party := some .first
        initiators := ["a.com"]
        excludedInitiators := ["b.com", "c.org"]
        matchCase := true }
    parse text = .ok o ∧ Describes (pieces text) o :=
  ⟨by decide +kernel, (parse_grammar _).2.1 _ (by decide +kernel)⟩

end Options

end Blocklist
