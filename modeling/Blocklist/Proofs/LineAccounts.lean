import Blocklist.Proofs.FirstOccurrences
import Blocklist.Proofs.RejectedLines

/-!
# The account of a text

Each line of a text is counted once: as a rejection of some kind, as a repetition, as a rule, or as
a rule that the window has no room for. Which lines are repetitions does not depend on the window:
a line repeats an earlier one even if that one found the window full.

* `Rejection.Kind`, `Tally.rejections`   what is counted for the lines that are no rules;
* `FilterList.effects`                   what the lines that are rules do;
* `Tally.Accounts`                       what the counters say about the lines so far;
* `FilterList.accounts_compile`          the account of a whole text;
* `FilterList.tally_compile`             the counters of a text, and what the window has to do with
                                         them.
-/

namespace Blocklist

/-! ## rejections by kind -/

/-- the kinds of causes for which a line is no rule -/
inductive Rejection.Kind where
  | skip
  | cosmetic
  | emptyPattern
  | unsupportedOption
  deriving DecidableEq, Repr

def Rejection.kind : Rejection → Rejection.Kind
  | .skip => .skip
  | .cosmetic => .cosmetic
  | .emptyPattern => .emptyPattern
  | .unsupportedOption _ => .unsupportedOption

/-- how many lines were rejected for a cause of this kind -/
def Tally.rejections (t : Tally) : Rejection.Kind → Nat
  | .skip => t.skipped
  | .cosmetic => t.cosmetic
  | .emptyPattern => t.empty
  | .unsupportedOption => t.unsupported

theorem Tally.rejections_addRejection (t : Tally) (rejection : Rejection) (kind : Rejection.Kind) :
    (t.addRejection rejection).rejections kind =
      t.rejections kind + if rejection.kind = kind then 1 else 0 := by
  cases rejection <;> cases kind <;> rfl

namespace Filter

/-- whether the line is rejected for a cause of this kind; it is tried with the id `probe` -/
def rejectedAs (probe : RuleId) (kind : Rejection.Kind) (line : List Char) : Bool :=
  (rejection? (parse line probe)).map Rejection.kind = some kind

variable {line : List Char} {id : RuleId} {r : Rule} (probe : RuleId) (kind : Rejection.Kind)

theorem rejectedAs_of_parse (h : parse line id = .ok r) : rejectedAs probe kind line = false := by
  rw [rejectedAs, parse_of_parse h probe]
  rfl

theorem rejectedAs_of_effect? {e : Effect} (h : effect? probe line = some e) :
    rejectedAs probe kind line = false := by
  cases hparse : parse line probe with
  | ok r => exact rejectedAs_of_parse probe kind hparse
  | error rejection =>
    rw [effect?_of_rejected probe hparse] at h
    cases h

theorem rejectedAs_of_rejected {rejection : Rejection} (h : parse line id = .error rejection) :
    rejectedAs probe kind line = decide (rejection.kind = kind) := by
  rw [rejectedAs, parse_of_rejected h probe]
  simp only [rejection?, Option.map_some, Option.some_inj]

end Filter

namespace FilterList

/-! ## effects -/

/-- what the lines that are rules do, line by line -/
def effects (probe : RuleId) (lines : List (List Char)) : List Effect :=
  lines.filterMap (Filter.effect? probe)

variable {probe : RuleId} {lines : List (List Char)} {line : List Char} {e : Effect}

theorem mem_effects_iff :
    e ∈ effects probe lines ↔ ∃ l ∈ accepted probe lines, Filter.effect? probe l = some e := by
  rw [effects, List.mem_filterMap, accepted]
  refine exists_congr fun l => and_congr_left fun hl => ?_
  rw [List.mem_filter, hl]
  exact (and_iff_left rfl).symm

theorem effects_append (a b : List (List Char)) :
    effects probe (a ++ b) = effects probe a ++ effects probe b := List.filterMap_append

theorem effects_cons_of_some (h : Filter.effect? probe line = some e) (lines : List (List Char)) :
    effects probe (line :: lines) = e :: effects probe lines := List.filterMap_cons_some h

theorem effects_concat_of_none (h : Filter.effect? probe line = none) :
    effects probe (lines ++ [line]) = effects probe lines := by
  rw [effects, List.filterMap_append, List.filterMap_cons_none h, List.filterMap_nil,
    List.append_nil, effects]

theorem effects_concat_of_some (h : Filter.effect? probe line = some e) :
    effects probe (lines ++ [line]) = effects probe lines ++ [e] := by
  rw [effects_append, effects_cons_of_some h]
  rfl

/-- how many different things the lines do -/
def distinct (probe : RuleId) (lines : List (List Char)) : Nat :=
  (effects probe lines).toFinset.card

theorem distinct_insert_of_old {before after : List (List Char)}
    (h : Filter.effect? probe line = some e) (hold : e ∈ effects probe (before ++ after)) :
    distinct probe (before ++ line :: after) = distinct probe (before ++ after) := by
  rw [effects_append] at hold
  rw [distinct, effects_append, effects_cons_of_some h, distinct, effects_append]
  congr 1
  ext e'
  simp only [List.mem_toFinset, List.mem_append, List.mem_cons] at hold ⊢
  constructor
  · rintro (hfront | rfl | hback)
    · exact .inl hfront
    · exact hold
    · exact .inr hback
  · exact Or.imp_right .inr

theorem distinct_concat_of_new (h : Filter.effect? probe line = some e)
    (hnew : e ∉ effects probe lines) :
    distinct probe (lines ++ [line]) = distinct probe lines + 1 := by
  have hinsert :
      (effects probe lines ++ [e]).toFinset = insert e (effects probe lines).toFinset := by
    rw [List.toFinset_append, Finset.union_comm]
    rfl
  rw [distinct, effects_concat_of_some h, hinsert, Finset.card_insert_of_notMem, distinct]
  exact fun hmem => hnew (List.mem_toFinset.mp hmem)

/-- every line is a rule, or it is rejected for a cause of one kind -/
theorem length_eq_effects_add (probe : RuleId) (lines : List (List Char)) :
    lines.length = (effects probe lines).length + lines.countP (Filter.rejectedAs probe .skip) +
      lines.countP (Filter.rejectedAs probe .cosmetic) +
      lines.countP (Filter.rejectedAs probe .emptyPattern) +
      lines.countP (Filter.rejectedAs probe .unsupportedOption) := by
  induction lines with
  | nil => rfl
  | cons line lines ih =>
    rw [List.length_cons, ih, effects, effects]
    simp only [List.countP_cons]
    cases hparse : Filter.parse line probe with
    | ok r =>
      rw [List.filterMap_cons_some (Filter.effect?_of_parse probe hparse), List.length_cons]
      simp only [Filter.rejectedAs_of_parse probe _ hparse, Bool.false_eq_true, if_false]
      omega
    | error rejection =>
      rw [List.filterMap_cons_none (Filter.effect?_of_rejected probe hparse)]
      simp only [Filter.rejectedAs_of_rejected probe _ hparse]
      cases rejection <;> simp [Rejection.kind] <;> omega

end FilterList

/-! ## the account of the lines so far -/

open FilterList in
/-- What the counters say about the lines so far, with room for `room` rules. -/
structure Tally.Accounts (probe : RuleId) (room : Nat) (lines : List (List Char)) (t : Tally) :
    Prop where
  count : t.lines = lines.length
  rejections : ∀ kind, t.rejections kind = lines.countP (Filter.rejectedAs probe kind)
  duplicates : t.duplicates + distinct probe lines = (effects probe lines).length
  rules : t.rules = min (distinct probe lines) room
  truncated : t.truncated + t.rules = distinct probe lines

namespace Tally.Accounts

open FilterList

variable {probe : RuleId} {room : Nat} {lines : List (List Char)} {t : Tally}

theorem new (probe : RuleId) (room : Nat) : Accounts probe room [] {} where
  count := rfl
  rejections kind := by cases kind <;> rfl
  duplicates := rfl
  rules := (Nat.zero_min room).symm
  truncated := rfl

variable {line : List Char} {e : Effect}

/-- one more line that is no rule -/
theorem reject {rejection : Rejection} {id : RuleId} (h : Accounts probe room lines t)
    (hparse : Filter.parse line id = .error rejection) :
    Accounts probe room (lines ++ [line])
      ({ t with lines := t.lines + 1 }.addRejection rejection) := by
  have hnone := Filter.effect?_of_rejected probe hparse
  have hsame : distinct probe (lines ++ [line]) = distinct probe lines := by
    rw [distinct, effects_concat_of_none hnone, distinct]
  constructor
  case count =>
    rw [List.length_append, List.length_singleton, ← h.count]
    cases rejection <;> rfl
  case rejections =>
    intro kind
    rw [rejections_addRejection, List.countP_append, ← h.rejections, List.countP_singleton,
      Filter.rejectedAs_of_rejected probe kind hparse]
    simp only [decide_eq_true_eq]
    cases kind <;> rfl
  case duplicates =>
    rw [hsame, effects_concat_of_none hnone, ← h.duplicates]
    cases rejection <;> rfl
  case rules =>
    rw [hsame, ← h.rules]
    cases rejection <;> rfl
  case truncated =>
    rw [hsame, ← h.truncated]
    cases rejection <;> rfl

/-- one more line, which does something new -/
theorem fresh {t' : Tally} (h : Accounts probe room lines t)
    (hline : Filter.effect? probe line = some e) (hnew : e ∉ effects probe lines)
    (hlines : t'.lines = t.lines + 1) (hrejections : t'.rejections = t.rejections)
    (hduplicates : t'.duplicates = t.duplicates)
    (hrules : t'.rules = min (distinct probe lines + 1) room)
    (htruncated : t'.truncated + t'.rules = distinct probe lines + 1) :
    Accounts probe room (lines ++ [line]) t' where
  count := by rw [hlines, h.count, List.length_append, List.length_singleton]
  rejections kind := by
    rw [hrejections, h.rejections, List.countP_append, List.countP_singleton,
      Filter.rejectedAs_of_effect? probe kind hline, if_neg Bool.false_ne_true, Nat.add_zero]
  duplicates := by
    rw [hduplicates, distinct_concat_of_new hline hnew, ← Nat.add_assoc, h.duplicates,
      effects_concat_of_some hline, List.length_append, List.length_singleton]
  rules := by rw [hrules, distinct_concat_of_new hline hnew]
  truncated := by rw [htruncated, distinct_concat_of_new hline hnew]

/-- A line that does what another one does is a repetition, wherever it stands. -/
theorem insert {before after : List (List Char)} {line' : List Char}
    (h : Accounts probe room (before ++ after) t) (hmem : line ∈ before ++ after)
    (hline : Filter.effect? probe line = some e) (hline' : Filter.effect? probe line' = some e) :
    Accounts probe room (before ++ line' :: after)
      { t with lines := t.lines + 1, duplicates := t.duplicates + 1 } := by
  have hold : e ∈ effects probe (before ++ after) := List.mem_filterMap.mpr ⟨line, hmem, hline⟩
  have hdistinct := distinct_insert_of_old hline' hold
  constructor
  case count =>
    rw [h.count, List.length_append, List.length_append, List.length_cons, Nat.add_assoc]
  case rejections =>
    intro kind
    have hrejected := Filter.rejectedAs_of_effect? probe kind hline'
    rw [List.countP_append, List.countP_cons_of_neg (Bool.eq_false_iff.mp hrejected),
      ← List.countP_append, ← h.rejections]
    cases kind <;> rfl
  case duplicates =>
    have hduplicates := h.duplicates
    rw [effects_append, List.length_append] at hduplicates
    rw [hdistinct, effects_append, effects_cons_of_some hline', List.length_append,
      List.length_cons]
    show t.duplicates + 1 + distinct probe (before ++ after) = _
    omega
  case rules =>
    rw [hdistinct]
    exact h.rules
  case truncated =>
    rw [hdistinct]
    exact h.truncated

end Tally.Accounts

namespace FilterList

variable {probe : RuleId} {window : IdRange} {lines : List (List Char)} {p : Progress}

theorem Progress.Follows.accounts_step (hfollows : p.Follows probe window lines)
    (h : p.tally.Accounts probe window.size lines) (line : List Char) :
    (p.step window.size line).tally.Accounts probe window.size (lines ++ [line]) := by
  have hfate := p.fate_step window.size line
  generalize p.step window.size line = p' at hfate
  cases hfate with
  | rejected rejection hparse => exact h.reject hparse
  | duplicate r hparse hseen =>
    obtain ⟨l, hl, hseen⟩ := (hfollows.seen _).mp hseen
    rw [← List.append_nil lines] at h
    exact h.insert (List.mem_append_left [] (List.mem_filter.mp hl).1) hseen
      (Filter.effect?_of_parse probe hparse)
  | taken r hparse hnew hroom =>
    have hfresh := mt mem_effects_iff.mp (mt (hfollows.seen _).mpr hnew)
    have hrules := h.rules
    have htruncated := h.truncated
    refine h.fresh (Filter.effect?_of_parse probe hparse) hfresh rfl rfl rfl ?_ ?_
    · show p.tally.rules + 1 = _
      omega
    · show p.tally.truncated + (p.tally.rules + 1) = _
      omega
  | truncated r hparse hnew hfull =>
    have hfresh := mt mem_effects_iff.mp (mt (hfollows.seen _).mpr hnew)
    have hrules := h.rules
    have htruncated := h.truncated
    refine h.fresh (Filter.effect?_of_parse probe hparse) hfresh rfl rfl rfl ?_ ?_
    · show p.tally.rules = _
      omega
    · show p.tally.truncated + 1 + p.tally.rules = _
      omega

theorem Progress.Follows.accounts_foldl (hfollows : p.Follows probe window lines)
    (h : p.tally.Accounts probe window.size lines) (rest : List (List Char)) :
    (rest.foldl (Progress.step window.size) p).tally.Accounts probe window.size
      (lines ++ rest) := by
  induction rest generalizing lines p with
  | nil => rwa [List.append_nil]
  | cons line rest ih =>
    rw [List.append_cons]
    exact ih (hfollows.step line) (hfollows.accounts_step h line)

/-! ## whole texts -/

theorem accounts_compile (probe : RuleId) (text : List Char) (window : IdRange) :
    (compile text window).tally.Accounts probe window.size (Text.lines text) :=
  (Progress.Follows.new probe window).accounts_foldl (.new probe window.size) (Text.lines text)

end FilterList

/-- Two accounts of the same lines differ only in what the window has room for. -/
theorem Tally.Accounts.eq_of_same {probe : RuleId} {room room' : Nat} {lines : List (List Char)}
    {t t' : Tally} (h : t.Accounts probe room lines) (h' : t'.Accounts probe room' lines) :
    t' = { t with rules := t'.rules, truncated := t'.truncated } := by
  have hrejections (kind : Rejection.Kind) : t'.rejections kind = t.rejections kind := by
    rw [h.rejections, h'.rejections]
  have hduplicates : t'.duplicates = t.duplicates :=
    Nat.add_right_cancel (h'.duplicates.trans h.duplicates.symm)
  rw [Tally.mk.injEq]
  exact ⟨h'.count.trans h.count.symm, rfl, hrejections .skip, hrejections .cosmetic,
    hrejections .emptyPattern, hrejections .unsupportedOption, hduplicates, rfl⟩

/-- there is one account of the same lines and the same room -/
theorem Tally.Accounts.unique {probe : RuleId} {room : Nat} {lines : List (List Char)}
    {t t' : Tally} (h : t.Accounts probe room lines) (h' : t'.Accounts probe room lines) :
    t' = t := by
  have hrules : t'.rules = t.rules := h'.rules.trans h.rules.symm
  have htruncated := h'.truncated.trans h.truncated.symm
  rw [hrules] at htruncated
  rw [h.eq_of_same h', hrules, Nat.add_right_cancel htruncated]

namespace FilterList

/-- Every line of a text is counted once. Each kind of rejection is counted by itself, lines that
do what an earlier line does are repetitions, and of the others as many are rules as the window has
room for. Nothing else depends on the window. -/
theorem tally_compile (probe : RuleId) (text : List Char) (window : IdRange) :
    let lines := Text.lines text
    let effects := lines.filterMap (Filter.effect? probe)
    let t := (compile text window).tally
    t.lines = lines.length ∧
    t.lines = t.rules + t.skipped + t.cosmetic + t.empty + t.unsupported + t.duplicates +
      t.truncated ∧
    (∀ kind, t.rejections kind = lines.countP (Filter.rejectedAs probe kind)) ∧
    t.duplicates + effects.toFinset.card = effects.length ∧
    t.rules = min effects.toFinset.card window.size ∧
    t.truncated + t.rules = effects.toFinset.card ∧
    t.rules = (compile text window).rules.length ∧
    ∀ window', (compile text window').tally =
      { t with
        rules := (compile text window').tally.rules
        truncated := (compile text window').tally.truncated } := by
  have h := accounts_compile probe text window
  refine ⟨h.count, ?_, h.rejections, h.duplicates, h.rules, h.truncated,
    rules_tally_compile text window,
    fun window' => h.eq_of_same (accounts_compile probe text window')⟩
  have hlength := length_eq_effects_add probe (Text.lines text)
  rw [← h.rejections, ← h.rejections, ← h.rejections, ← h.rejections, ← h.count, ← h.duplicates,
    ← h.truncated] at hlength
  simp only [Tally.rejections] at hlength
  omega

end FilterList

end Blocklist
