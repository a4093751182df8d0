import Blocklist.Proofs.FirstOccurrences

/-!
# Compiling a list again

The rules of a text carry the lines that they are from. These lines make up a text of their own. It
is compiled to the same rules, ids included, and none of its lines is left out.

* `FilterList.sourceText`            the lines that rules are from, as a text;
* `Filter.OwnLine`                   a rule that is the one of its line;
* `FilterList.Repeatable`            the rules of a text, as far as their lines matter;
* `FilterList.Progress.Repeats`      what every line preserves: it became its rule;
* `FilterList.compile_sourceText`    the text of the lines is compiled to the rules they are from.
-/

namespace Blocklist

/-- the filter line that a rule is from -/
def Rule.line (r : Rule) : List Char := (r.source.getD "").toList

/-! ## the line of a rule -/

namespace Filter

/-- A rule that is the one of its line. -/
structure OwnLine (r : Rule) : Prop where
  source : r.source = some (String.ofList r.line)
  parse_line : parse r.line r.id = .ok r
  ne_nil : r.line ≠ []
  single : '\n' ∉ r.line

/-- No white space is left around the line of a rule, so that trimming it once more has no effect. -/
theorem ownLine_of_parse {line : List Char} {id : RuleId} {r : Rule} (h : parse line id = .ok r)
    (hline : '\n' ∉ line) : OwnLine r := by
  obtain ⟨o, ho, rfl⟩ := parse_eq_ok_iff.mp h
  have hr : (ruleOf (Text.trim line) o id).line = Text.trim line := String.toList_ofList
  have htrim : Text.trim (Text.trim line) = Text.trim line :=
    Text.trimWhile_trimWhile Text.isBlank line
  constructor
  case source => rw [hr]; rfl
  case parse_line =>
    rw [hr]
    refine parse_eq_ok_iff.mpr ⟨o, ?_, ?_⟩
    · rw [htrim]
      exact ho
    · rw [htrim]
      rfl
  case ne_nil =>
    rw [hr]
    exact ho.ne_nil
  case single =>
    rw [hr]
    exact fun hmem => hline (Text.mem_of_mem_trimWhile hmem)

end Filter

namespace FilterList

/-- the lines that rules are from, as a text -/
def sourceText (rules : List Rule) : List Char := ['\n'].intercalate (rules.map Rule.line)

/-! ## the rules of a text -/

/-- Rules that are compiled to themselves: each is the one of its line, they are numbered from the
start of the window on, no two of them do the same, and the window has room for them. -/
structure Repeatable (window : IdRange) (rules : List Rule) : Prop where
  ownLine : ∀ r ∈ rules, Filter.OwnLine r
  ids : rules.map (fun r => r.id.toNat) = List.range' window.start.toNat rules.length
  effects : (rules.map Rule.effect).Nodup
  length_le : rules.length ≤ window.size

theorem exists_line_of_mem_compile {text : List Char} {window : IdRange} {r : Rule}
    (h : r ∈ (compile text window).rules) :
    ∃ line ∈ Text.lines text, Filter.parse line r.id = .ok r := by
  have hfollows := (Progress.Follows.new 0 window).foldl (Text.lines text)
  have hmem := List.mem_map_of_mem (f := (Except.ok : Rule → Except Rejection Rule)) h
  rw [show (compile text window).rules.map Except.ok = _ from hfollows.rules,
    List.mem_mapIdx] at hmem
  obtain ⟨i, hi, hparse⟩ := hmem
  refine ⟨_, (kept_sublist 0 window (Text.lines text)).mem (List.getElem_mem hi), ?_⟩
  rw [Filter.id_of_parse hparse]
  exact hparse

theorem nodup_effects_compile (text : List Char) (window : IdRange) :
    ((compile text window).rules.map Rule.effect).Nodup := by
  have hfollows := (Progress.Follows.new 0 window).foldl (Text.lines text)
  have hnodup := (nodup_firsts 0 [] (accepted 0 (Text.lines text))).1
  have hkept := hnodup.sublist ((List.take_sublist window.size _).map _)
  rw [← kept, ← List.nil_append (Text.lines text), ← hfollows.effects] at hkept
  exact (List.pairwise_map.mp hkept).map _ fun a b hne heq => hne (congrArg some heq)

theorem repeatable_compile (text : List Char) (window : IdRange) :
    Repeatable window (compile text window).rules where
  ownLine r hr := by
    obtain ⟨line, hline, hparse⟩ := exists_line_of_mem_compile hr
    exact Filter.ownLine_of_parse hparse (Text.newline_not_mem_of_mem_lines hline)
  ids := toNat_ids_compile text window
  effects := nodup_effects_compile text window
  length_le := length_rules_compile_le text window

namespace Repeatable

variable {window : IdRange} {rules before after : List Rule} {r : Rule}

theorem lines_sourceText (h : Repeatable window rules) :
    Text.lines (sourceText rules) = rules.map Rule.line := by
  refine Text.lines_intercalate fun l hl => ?_
  obtain ⟨r, hr, rfl⟩ := List.mem_map.mp hl
  exact ⟨(h.ownLine r hr).single, (h.ownLine r hr).ne_nil⟩

section
variable (h : Repeatable window (before ++ r :: after))
include h

theorem toNat_id : r.id.toNat = window.start.toNat + before.length := by
  have hid := congrArg (fun ids => ids[before.length]?) h.ids
  simpa using hid

theorem effect_not_mem : r.effect ∉ before.map Rule.effect := by
  have hnodup := h.effects
  rw [List.map_append, List.map_cons] at hnodup
  exact fun hmem => (List.nodup_append.mp hnodup).2.2 _ hmem _ List.mem_cons_self rfl

theorem length_lt : before.length < window.size := by
  have hle := h.length_le
  rw [List.length_append, List.length_cons] at hle
  omega

end

end Repeatable

/-! ## line by line -/

/-- The lines of the rules in `done` have been compiled, each to its rule. -/
structure Progress.Repeats (window : IdRange) (done : List Rule) (p : Progress) : Prop where
  numbered : p.Numbered window
  rules : p.rules.reverse = done
  seen : ∀ e, e ∈ p.seen ↔ e ∈ done.map Rule.effect
  tally : p.tally = { lines := done.length, rules := done.length }

namespace Progress.Repeats

variable {window : IdRange} {done rest : List Rule} {r : Rule} {p : Progress}

theorem new (window : IdRange) : Repeats window [] { nextId := window.start } where
  numbered := .new window
  rules := rfl
  seen _ := ⟨fun h => absurd h Std.ExtTreeSet.not_mem_empty, nofun⟩
  tally := rfl

theorem step (h : Repeats window done p) (hall : Repeatable window (done ++ r :: rest)) :
    Repeats window (done ++ [r]) (p.step window.size r.line) := by
  have hid : p.nextId = r.id := by
    apply UInt32.toNat_inj.mp
    rw [h.numbered.next, hall.toNat_id, ← h.rules, List.length_reverse]
  have hparse : Filter.parse r.line p.nextId = .ok r := by
    rw [hid]
    exact (hall.ownLine r (List.mem_append_right done List.mem_cons_self)).parse_line
  have hnew : r.effect ∉ p.seen := mt (h.seen r.effect).mp hall.effect_not_mem
  have hroom : p.tally.rules < window.size := by
    rw [h.tally]
    exact hall.length_lt
  have hnumbered := h.numbered.step r.line
  have hfate := p.fate_step window.size r.line
  generalize p.step window.size r.line = p' at hnumbered hfate
  cases hfate with
  | rejected rejection hparse' =>
    rw [hparse] at hparse'
    cases hparse'
  | duplicate r' hparse' hseen =>
    rw [hparse] at hparse'
    cases hparse'
    exact absurd hseen hnew
  | truncated r' hparse' hnew' hfull => exact absurd hroom hfull
  | taken r' hparse' hnew' hroom' =>
    rw [hparse] at hparse'
    cases hparse'
    refine ⟨hnumbered, ?_, fun e => ?_, ?_⟩
    · rw [List.reverse_cons, h.rules]
    · rw [Std.ExtTreeSet.mem_insert, Std.compare_eq_iff_eq, h.seen, List.map_append,
        List.map_singleton, List.mem_append, List.mem_singleton, or_comm, eq_comm]
    · rw [List.length_append, List.length_singleton, addLine, h.tally]

theorem foldl (h : Repeats window done p) (hall : Repeatable window (done ++ rest)) :
    Repeats window (done ++ rest)
      ((rest.map Rule.line).foldl (Progress.step window.size) p) := by
  induction rest generalizing done p with
  | nil =>
    rw [List.append_nil]
    exact h
  | cons r rest ih =>
    have hstep := h.step hall
    rw [List.append_cons] at hall ⊢
    exact ih hstep hall

end Progress.Repeats

theorem Repeatable.compile_eq {window : IdRange} {rules : List Rule} (h : Repeatable window rules) :
    compile (sourceText rules) window =
      ⟨rules, { lines := rules.length, rules := rules.length }⟩ := by
  have hend : Progress.Repeats window rules
      ((rules.map Rule.line).foldl (Progress.step window.size) { nextId := window.start }) :=
    (Progress.Repeats.new window).foldl h
  rw [compile, h.lines_sourceText, hend.rules, hend.tally]

/-- A list that was compiled is compiled to itself: the lines that its rules are from lead to just
these rules, and to nothing else. -/
theorem compile_sourceText (text : List Char) (window : IdRange) :
    let rules := (compile text window).rules
    (∀ r ∈ rules, r.source = some (String.ofList r.line)) ∧
      compile (sourceText rules) window =
        ⟨rules, { lines := rules.length, rules := rules.length }⟩ := by
  have hrules := repeatable_compile text window
  exact ⟨fun r hr => (hrules.ownLine r hr).source, hrules.compile_eq⟩

end FilterList

end Blocklist
