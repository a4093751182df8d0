import Blocklist.Proofs.OptionOrder

/-!
# Dollars in patterns

A `$` begins the options of a line unless a backslash is right before it, and a backslash right
before a `$` is taken out of the pattern. So every pattern can be written in a line: with a
backslash before each of its dollars it is read back as it was, whatever backslashes it had, and
what follows it is read as the options and nothing else.

* `Pattern.escape`              a pattern with a backslash before each `$`;
* `Pattern.unescape_escape`, `Pattern.escapedFrom_escape`   it is read back, and no options begin in
                                it;
* `Pattern.Bare`                a pattern without marks of its own;
* `Filter.written`              the line for a pattern and options;
* `Filter.Spells`               a line that is taken apart into a pattern and options;
* `Filter.parse_written`        the rule of such a line.
-/

namespace Blocklist

namespace Pattern

variable {p : List Char}

/-! ## escaped dollars -/

/-- a pattern with a backslash before each `$` -/
def escape (p : List Char) : List Char := p.flatMap fun c => if c = '$' then ['\\', '$'] else [c]

theorem escape_cons_dollar (p : List Char) : escape ('$' :: p) = '\\' :: '$' :: escape p := rfl

theorem escape_cons_of_ne {c : Char} (h : c ≠ '$') (p : List Char) :
    escape (c :: p) = c :: escape p := by
  simp [escape, h]

theorem head?_escape (p : List Char) :
    (escape p).head? = p.head?.map fun c => if c = '$' then '\\' else c := by
  cases p with
  | nil => rfl
  | cons c p =>
    by_cases h : c = '$'
    · subst h
      rfl
    · simp [escape_cons_of_ne h, h]

theorem head?_escape_ne {c : Char} (hc : c ≠ '\\') (h : p.head? ≠ some c) :
    (escape p).head? ≠ some c := by
  intro hhead
  rw [head?_escape, Option.map_eq_some_iff] at hhead
  obtain ⟨d, hd, heq⟩ := hhead
  split at heq
  · exact hc heq.symm
  · exact h (heq ▸ hd)

theorem getLast?_escape (p : List Char) : (escape p).getLast? = p.getLast? := by
  induction p with
  | nil => rfl
  | cons c p ih =>
    by_cases h : c = '$'
    · subst h
      rw [escape_cons_dollar, List.getLast?_cons, List.getLast?_cons, ih, List.getLast?_cons]
      rfl
    · rw [escape_cons_of_ne h, List.getLast?_cons, ih, List.getLast?_cons]

theorem mem_of_mem_escape {c : Char} (hc : c ≠ '\\') (h : c ∈ escape p) : c ∈ p := by
  obtain ⟨d, hd, hmem⟩ := List.mem_flatMap.mp h
  by_cases hdollar : d = '$'
  · rw [if_pos hdollar, List.mem_cons, List.mem_singleton] at hmem
    rw [hmem.resolve_left hc, ← hdollar]
    exact hd
  · rw [if_neg hdollar, List.mem_singleton] at hmem
    rwa [hmem]

/-- The backslashes that are taken out are those that were put in. -/
theorem unescape_escape (p : List Char) : unescape (escape p) = p := by
  induction p with
  | nil => rfl
  | cons c p ih =>
    by_cases h : c = '$'
    · subst h
      rw [escape_cons_dollar, unescape, ih]
    · -- a backslash of the pattern itself is never right before a `$`
      have hnot : ∀ cs, c = '\\' → escape p = '$' :: cs → False := by
        intro cs _ hp
        have hhead := head?_escape p
        rw [hp] at hhead
        obtain ⟨d, -, hd⟩ := Option.map_eq_some_iff.mp hhead.symm
        split at hd
        · exact absurd hd (by decide)
        · contradiction
      rw [escape_cons_of_ne h, unescape.eq_3 c _ hnot, ih]

theorem escapedFrom_escape (escaped : Bool) (p : List Char) : EscapedFrom escaped (escape p) := by
  induction p generalizing escaped with
  | nil => exact escapedFrom_nil
  | cons c p ih =>
    by_cases h : c = '$'
    · subst h
      rw [escape_cons_dollar, escapedFrom_cons, escapedFrom_cons]
      exact ⟨fun hc => absurd hc (by decide), fun _ => rfl, ih _⟩
    · rw [escape_cons_of_ne h, escapedFrom_cons]
      exact ⟨fun hc => absurd hc h, ih _⟩

/-! ## patterns without marks -/

/-- a pattern without blanks around it and without marks: no anchors, no separator marks, nothing
that makes a comment or an exception of a line, and no backslash right before what follows it -/
structure Bare (p : List Char) : Prop where
  ne_nil : p ≠ []
  trimmed : Text.trim p = p
  caret : '^' ∉ p
  comment : p.head? ≠ some '!' ∧ p.head? ≠ some '['
  mark : ¬ ['@', '@'] <+: p
  bar : p.head? ≠ some '|' ∧ p.getLast? ≠ some '|'
  backslash : p.getLast? ≠ some '\\'

instance (p : List Char) : Decidable (Bare p) :=
  decidable_of_iff (p ≠ [] ∧ Text.trim p = p ∧ '^' ∉ p ∧ (p.head? ≠ some '!' ∧ p.head? ≠ some '[') ∧
      ¬ ['@', '@'] <+: p ∧ (p.head? ≠ some '|' ∧ p.getLast? ≠ some '|') ∧ p.getLast? ≠ some '\\')
    ⟨fun ⟨h1, h2, h3, h4, h5, h6, h7⟩ => ⟨h1, h2, h3, h4, h5, h6, h7⟩,
      fun h => ⟨h.ne_nil, h.trimmed, h.caret, h.comment, h.mark, h.bar, h.backslash⟩⟩

namespace Bare

variable (h : Bare p)
include h

theorem escape_ne_nil : escape p ≠ [] := by
  intro hnil
  have hp := unescape_escape p
  rw [hnil] at hp
  exact h.ne_nil hp.symm

theorem isBlank_head {c : Char} (hc : (escape p).head? = some c) : Text.isBlank c = false := by
  rw [head?_escape, Option.map_eq_some_iff] at hc
  obtain ⟨d, hd, rfl⟩ := hc
  split
  · decide
  · exact Text.isBlank_of_head? h.trimmed hd

theorem trim_escape : Text.trim (escape p) = escape p := by
  refine Text.trimWhile_eq_self (fun c => h.isBlank_head) fun c hc => ?_
  rw [getLast?_escape] at hc
  exact Text.isBlank_of_getLast? h.trimmed hc

theorem not_mark_escape : ¬ ['@', '@'] <+: escape p := by
  rintro ⟨rest, heq⟩
  refine h.mark ?_
  have hread := unescape_escape p
  rw [← heq] at hread
  exact ⟨unescape rest, hread⟩

theorem splitAnchor_escape : splitAnchor (escape p) = (none, escape p) := by
  refine splitAnchor_of_not_anchored ?_
  rintro ⟨rest, heq⟩
  have hhead : (escape p).head? = some '|' := by
    rw [← heq]
    rfl
  exact head?_escape_ne (by decide) h.bar.1 hhead

theorem urlFilter_escape : urlFilter (escape p) = p := by
  have hhead : (escape p).head? ≠ some '|' := head?_escape_ne (by decide) h.bar.1
  have hlast : (escape p).getLast? ≠ some '|' := by
    rw [getLast?_escape]
    exact h.bar.2
  have hcaret : ∀ c ∈ escape p, decide (c ≠ '^') = true := by
    intro c hc
    refine decide_eq_true ?_
    rintro rfl
    exact h.caret (mem_of_mem_escape (by decide) hc)
  rw [urlFilter, Text.dropOne_eq_self hhead, Text.dropLastOne_eq_self hlast,
    List.filter_eq_self.mpr hcaret, unescape_escape]

end Bare

end Pattern

namespace Options

/-- options are read off the pieces of their text -/
theorem parse_of_pieces_eq {text text' : List Char} {o : Options}
    (hpieces : pieces text = pieces text') (h : parse text = .ok o) : parse text' = .ok o := by
  have hoptions := (exists_parse_iff.mp ⟨o, h⟩).1
  have hoptions' : ∀ piece ∈ pieces text', Segment.IsOption piece := hpieces ▸ hoptions
  rw [parse_of_isOption hoptions] at h
  rw [parse_of_isOption hoptions', ← hpieces]
  cases hread : ofSegments? (segments (pieces text)) with
  | some o' => rwa [hread] at h
  | none =>
    rw [hread] at h
    cases h

end Options

namespace Filter

/-! ## lines -/

variable {p line : List Char} {text? : Option (List Char)} {o : Options} {exception : Bool}

/-- the mark of exceptions, if the line is one, and an escaped pattern -/
def writtenPattern (exception : Bool) (p : List Char) : List Char :=
  (if exception then ['@', '@'] else []) ++ Pattern.escape p

/-- the line for a pattern, with a text of options or without -/
def written (exception : Bool) (p : List Char) (text? : Option (List Char)) : List Char :=
  writtenPattern exception p ++ text?.elim [] ('$' :: ·)

/-- a line that is taken apart into a pattern, with its dollars escaped, and options -/
structure Spells (line : List Char) (exception : Bool) (p : List Char) (o : Options) : Prop where
  ne_nil : line ≠ []
  comment : isComment line = false
  mark : (splitException line).1 = exception
  pattern : (parts line).1 = Pattern.escape p
  options : optionsOf (parts line).2 = .ok o

section
variable (hp : Pattern.Bare p) (exception)
include hp

theorem getLast?_writtenPattern : (writtenPattern exception p).getLast? = p.getLast? := by
  rw [writtenPattern, List.getLast?_append_of_ne_nil _ hp.escape_ne_nil, Pattern.getLast?_escape]

theorem opens_writtenPattern : Pattern.Opens (writtenPattern exception p) := by
  constructor
  · rw [← Pattern.escapedFrom_false_iff, writtenPattern]
    cases exception with
    | false => exact Pattern.escapedFrom_escape false p
    | true =>
      show Pattern.EscapedFrom false ('@' :: '@' :: Pattern.escape p)
      rw [Pattern.escapedFrom_cons, Pattern.escapedFrom_cons]
      exact ⟨by decide, by decide, Pattern.escapedFrom_escape _ p⟩
  · rw [getLast?_writtenPattern exception hp]
    exact hp.backslash

theorem splitException_writtenPattern :
    (splitException (writtenPattern exception p)).1 = exception := by
  cases exception with
  | false => exact Bool.eq_false_iff.mpr (mt splitException_fst.mp hp.not_mark_escape)
  | true => rfl

theorem unmarked_writtenPattern : unmarked (writtenPattern exception p) = Pattern.escape p := by
  cases exception with
  | false => exact if_neg hp.not_mark_escape
  | true => rfl

theorem isComment_writtenPattern (rest : List Char) :
    isComment (writtenPattern exception p ++ rest) = false := by
  cases exception with
  | false =>
    show isComment (Pattern.escape p ++ rest) = false
    have hmark : (Pattern.escape p).head? ≠ some '!' :=
      Pattern.head?_escape_ne (by decide) hp.comment.1
    have hheader : (Pattern.escape p).head? ≠ some '[' :=
      Pattern.head?_escape_ne (by decide) hp.comment.2
    rw [isComment, List.head?_append_of_ne_nil _ hp.escape_ne_nil]
    simp [hmark, hheader]
  | true => rfl

theorem isBlank_head_writtenPattern {c : Char}
    (hc : (writtenPattern exception p).head? = some c) : Text.isBlank c = false := by
  cases exception with
  | false => exact hp.isBlank_head hc
  | true =>
    cases hc
    decide

theorem trim_writtenPattern :
    Text.trim (writtenPattern exception p) = writtenPattern exception p := by
  refine Text.trimWhile_eq_self (fun c => isBlank_head_writtenPattern exception hp) fun c hc => ?_
  rw [getLast?_writtenPattern exception hp] at hc
  exact Text.isBlank_of_getLast? hp.trimmed hc

/-- a line without options -/
theorem spells_writtenPattern : Spells (writtenPattern exception p) exception p {} := by
  have hcut : Pattern.Cut (unmarked (writtenPattern exception p)) (Pattern.escape p) none := by
    rw [unmarked_writtenPattern exception hp]
    exact .whole (Pattern.escapedFrom_false_iff.mp (Pattern.escapedFrom_escape false p))
  have hparts := cut_unmarked_iff.mp hcut
  have hcomment := isComment_writtenPattern exception hp []
  rw [List.append_nil] at hcomment
  exact ⟨List.append_ne_nil_of_right_ne_nil _ hp.escape_ne_nil, hcomment,
    splitException_writtenPattern exception hp, by rw [hparts], by rw [hparts]; rfl⟩

/-- a line with options -/
theorem spells_append_dollar {text : List Char} (ho : Options.parse text = .ok o) :
    Spells (writtenPattern exception p ++ '$' :: text) exception p o := by
  have hparts := parts_append_dollar (opens_writtenPattern exception hp) text
  rw [unmarked_writtenPattern exception hp] at hparts
  refine ⟨List.append_ne_nil_of_right_ne_nil _ (List.cons_ne_nil _ _),
    isComment_writtenPattern exception hp _, ?_, by rw [hparts], by rw [hparts]; exact ho⟩
  rw [splitException_fst_append_dollar]
  exact splitException_writtenPattern exception hp

/-- White space after the options is no part of them. -/
theorem spells_written (ho : optionsOf text? = .ok o) :
    Spells (Text.trim (written exception p text?)) exception p o := by
  cases text? with
  | none =>
    cases ho
    rw [written, Option.elim_none, List.append_nil, trim_writtenPattern exception hp]
    exact spells_writtenPattern exception hp
  | some text =>
    have hfront :
        (writtenPattern exception p).dropWhile Text.isBlank = writtenPattern exception p :=
      Text.dropWhile_eq_self fun _ => isBlank_head_writtenPattern exception hp
    rw [written, Option.elim_some, trim_append_dollar, hfront]
    exact spells_append_dollar exception hp
      (Options.parse_of_pieces_eq (Options.pieces_rdropWhile text).symm ho)

end

namespace Spells

variable (h : Spells line exception p o) (hp : Pattern.Bare p)
include h hp

theorem target_eq : target line = (none, Pattern.escape p) := by
  rw [target, h.pattern, hp.trim_escape, hp.splitAnchor_escape]

theorem url_eq : url line = p := by
  rw [url, h.target_eq hp, hp.urlFilter_escape]

theorem accepted (hhides : ¬ HidesElements line) : Accepted line o where
  ne_nil := h.ne_nil
  not_cosmetic := Bool.eq_false_iff.mpr (mt isCosmetic_iff.mp hhides)
  not_comment := h.comment
  options := h.options
  pattern := by
    rw [h.url_eq hp]
    exact .inr hp.ne_nil

end Spells

/-- The line for a pattern and options is the rule with just this pattern and these options. -/
theorem parse_written (hp : Pattern.Bare p) (ho : optionsOf text? = .ok o)
    (hhides : ¬ HidesElements (written exception p text?)) (id : RuleId) :
    parse (written exception p text?) id = .ok
      { id := id
        priority := if exception then exceptionPriority else blockPriority
        action := if exception then .allow else .block
        condition :=
          { urlFilter := some (String.ofList p)
            requestDomains := none
            resourceTypes := o.resourceTypes
            initiatorDomains := nonEmpty? o.initiators
            excludedInitiatorDomains := nonEmpty? o.excludedInitiators
            party := o.party
            caseSensitive :=
              if o.matchCase then some true else if '*' ∈ p then some false else none }
        source := some (String.ofList (Text.trim (written exception p text?))) } := by
  have hspells := spells_written exception hp ho
  rw [← hidesElements_trim_iff] at hhides
  refine parse_eq_ok_iff.mpr ⟨o, hspells.accepted hp hhides, ?_⟩
  have hurl : nonEmpty? p = some p := nonEmpty?_eq_some_iff.mpr ⟨rfl, hp.ne_nil⟩
  simp only [ruleOf, rule, hspells.mark, hspells.target_eq hp, hspells.url_eq hp, hurl,
    Option.map_some, Option.map_none, caseSensitive?]

/-- an exception for a pattern with dollars, backslashes before them and a wildcard -/
theorem parse_written_exception :
    let p := "$a\\$\\\\$b*".toList
    let text := " Script,domain=A.org|~b.org, 3P ".toList
    let o : Options :=
      { resourceTypes := ResourceTypes.ofList [.script], party := some .third
        initiators := ["a.org"], excludedInitiators := ["b.org"] }
    written true p (some text) =
      "@@\\$a\\\\$\\\\\\$b*$ Script,domain=A.org|~b.org, 3P ".toList ∧
    Pattern.Bare p ∧ Options.parse text = .ok o ∧ ¬ HidesElements (written true p (some text)) ∧
    ∃ r, parse (written true p (some text)) 7 = .ok r ∧
      r.condition.urlFilter = some (String.ofList p) ∧ r.condition.party = some .third := by
  intro p text o
  have hp : Pattern.Bare p := by decide +kernel
  have ho : Options.parse text = .ok o := by decide +kernel
  have hhides : ¬ HidesElements (written true p (some text)) := by
    rw [← isCosmetic_iff]
    decide +kernel
  have hparse := parse_written hp (show optionsOf (some text) = .ok o from ho) hhides 7
  exact ⟨by decide +kernel, hp, ho, hhides, _, hparse, rfl, rfl⟩

end Filter

end Blocklist
