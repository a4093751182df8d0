import Blocklist.Proofs.FilterLines
import Blocklist.Proofs.OptionGrammar

/-!
# Rejected lines

What becomes of a line is decided in one order: marks of element hiding first, wherever they are,
then comments, then the options, then the pattern. Each cause is looked at only where none before
it applies, and a line with no cause is a rule.

* `Pattern.Cut`            the part of a line before its options, and the options;
* `Pattern.NamesHost`      a literal host after `||`;
* `Pattern.OnlyMarks`      a pattern of which nothing is left for the engine;
* `Filter.Verdict`         what becomes of a line, cause by cause;
* `Filter.rejection?_parse_eq_iff`   the verdict is the answer to a line;
* `Filter.parse_verdict`   the same for each answer, and with every id.
-/

namespace Blocklist

namespace Text

/-! ## one character at an end -/

variable {cs : List Char}

theorem eq_dropOne_or (c : Char) (cs : List Char) :
    cs = dropOne c cs ∨ cs = c :: dropOne c cs := by
  cases cs with
  | nil => exact .inl rfl
  | cons d cs =>
    by_cases h : d = c
    · rw [dropOne, if_pos h, h]
      exact .inr rfl
    · rw [dropOne, if_neg h]
      exact .inl rfl

theorem eq_dropLastOne_or (c : Char) (cs : List Char) :
    cs = dropLastOne c cs ∨ cs = dropLastOne c cs ++ [c] := by
  rw [dropLastOne]
  rcases eq_dropOne_or c cs.reverse with h | h
  · rw [← h, List.reverse_reverse]
    exact .inl rfl
  · refine .inr ?_
    rw [← List.reverse_cons, ← h, List.reverse_reverse]

theorem dropOne_eq_self {c : Char} (h : cs.head? ≠ some c) : dropOne c cs = cs := by
  cases cs with
  | nil => rfl
  | cons d cs => rw [dropOne, if_neg fun hd => h (congrArg some hd)]

theorem dropLastOne_eq_self {c : Char} (h : cs.getLast? ≠ some c) : dropLastOne c cs = cs := by
  rw [dropLastOne, dropOne_eq_self, List.reverse_reverse]
  rwa [List.head?_reverse]

theorem dropLastOne_concat (c : Char) (cs : List Char) : dropLastOne c (cs ++ [c]) = cs := by
  rw [dropLastOne, List.reverse_append, List.reverse_singleton, List.singleton_append,
    dropOne, if_pos rfl, List.reverse_reverse]

end Text

namespace Pattern

variable {body pattern cs : List Char} {options? : Option (List Char)} {escaped : Bool}

/-! ## where the options begin -/

/-- every `$` comes right after a backslash -/
def Escaped (cs : List Char) : Prop :=
  ∀ before after, cs = before ++ '$' :: after → before.getLast? = some '\\'

/-- the part of a text before its first `$` that no backslash precedes, and the part after it -/
inductive Cut (body : List Char) : List Char → Option (List Char) → Prop where
  | whole (hescaped : Escaped body) : Cut body body none
  | parted {pattern options : List Char} (hbody : body = pattern ++ '$' :: options)
      (hescaped : Escaped pattern) (hfree : pattern.getLast? ≠ some '\\') :
      Cut body pattern (some options)

/-- whether a backslash stands right before what follows `cs`; `escaped` says so of `cs` itself -/
def endsEscaped (escaped : Bool) (cs : List Char) : Bool :=
  (cs.getLast?.map (· == '\\')).getD escaped

theorem endsEscaped_cons (escaped : Bool) (c : Char) (cs : List Char) :
    endsEscaped escaped (c :: cs) = endsEscaped (c == '\\') cs := by
  rw [endsEscaped, endsEscaped, List.getLast?_cons]
  cases cs.getLast? <;> rfl

theorem endsEscaped_false_iff : endsEscaped false cs = true ↔ cs.getLast? = some '\\' := by
  rw [endsEscaped]
  cases cs.getLast? with
  | none => exact ⟨nofun, nofun⟩
  | some c => exact beq_iff_eq.trans Option.some_inj.symm

/-- `Escaped` for a text that something stands before -/
def EscapedFrom (escaped : Bool) (cs : List Char) : Prop :=
  ∀ before after, cs = before ++ '$' :: after → endsEscaped escaped before = true

theorem escapedFrom_nil : EscapedFrom escaped [] := by
  intro before after h
  cases before <;> cases h

theorem escapedFrom_cons {c : Char} :
    EscapedFrom escaped (c :: cs) ↔ (c = '$' → escaped = true) ∧ EscapedFrom (c == '\\') cs := by
  constructor
  · intro h
    refine ⟨fun hc => h [] cs (by rw [hc, List.nil_append]), fun before after hcs => ?_⟩
    rw [← endsEscaped_cons escaped]
    exact h (c :: before) after (by rw [hcs, List.cons_append])
  · rintro ⟨hc, hcs⟩ before after heq
    cases before with
    | nil => exact hc (List.cons.inj heq).1
    | cons d before =>
      obtain ⟨rfl, hrest⟩ := List.cons.inj heq
      rw [endsEscaped_cons]
      exact hcs before after hrest

theorem escapedFrom_false_iff : EscapedFrom false cs ↔ Escaped cs := by
  simp only [EscapedFrom, Escaped, endsEscaped_false_iff]

/-- no options begin before the end of `cs` -/
theorem cutOptions_append (h : EscapedFrom escaped cs) (rest : List Char) :
    cutOptions escaped (cs ++ rest) =
      (cs ++ (cutOptions (endsEscaped escaped cs) rest).1,
        (cutOptions (endsEscaped escaped cs) rest).2) := by
  induction cs generalizing escaped with
  | nil => rfl
  | cons c cs ih =>
    obtain ⟨hc, hcs⟩ := escapedFrom_cons.mp h
    have hnot : ¬ (c = '$' ∧ escaped = false) := fun h => by
      rw [hc h.1] at h
      cases h.2
    rw [List.cons_append, cutOptions, if_neg hnot, ih hcs, endsEscaped_cons]
    rfl

theorem cutOptions_parted (hescaped : Escaped pattern) (hfree : pattern.getLast? ≠ some '\\')
    (options : List Char) :
    cutOptions false (pattern ++ '$' :: options) = (pattern, some options) := by
  have hend : endsEscaped false pattern = false :=
    Bool.eq_false_iff.mpr (mt endsEscaped_false_iff.mp hfree)
  rw [cutOptions_append (escapedFrom_false_iff.mpr hescaped), hend, cutOptions_dollar,
    List.append_nil]

/-- The options begin after the first `$` that is not escaped. -/
theorem cutOptions_cases (escaped : Bool) (body : List Char) :
    (cutOptions escaped body = (body, none) ∧ EscapedFrom escaped body) ∨
    ∃ pattern options, cutOptions escaped body = (pattern, some options) ∧
      body = pattern ++ '$' :: options ∧ EscapedFrom escaped pattern ∧
      endsEscaped escaped pattern = false := by
  induction body generalizing escaped with
  | nil => exact .inl ⟨cutOptions_nil escaped, escapedFrom_nil⟩
  | cons c body ih =>
    by_cases hc : c = '$' ∧ escaped = false
    · obtain ⟨rfl, rfl⟩ := hc
      exact .inr ⟨[], body, cutOptions_dollar body, rfl, escapedFrom_nil, rfl⟩
    · have hdollar : c = '$' → escaped = true := fun h =>
        (Bool.eq_false_or_eq_true escaped).resolve_right fun hfalse => hc ⟨h, hfalse⟩
      rw [cutOptions, if_neg hc]
      rcases ih (c == '\\') with ⟨hcut, hbody⟩ | ⟨pattern, options, hcut, rfl, hpattern, hfree⟩
      · rw [hcut]
        exact .inl ⟨rfl, escapedFrom_cons.mpr ⟨hdollar, hbody⟩⟩
      · rw [hcut]
        refine .inr ⟨c :: pattern, options, rfl, rfl, escapedFrom_cons.mpr ⟨hdollar, hpattern⟩, ?_⟩
        rw [endsEscaped_cons]
        exact hfree

theorem cutOptions_eq_iff :
    cutOptions false body = (pattern, options?) ↔ Cut body pattern options? := by
  constructor
  · intro h
    rcases cutOptions_cases false body with
      ⟨hcut, hbody⟩ | ⟨before, after, hcut, hbody, hbefore, hfree⟩
    · cases h.symm.trans hcut
      exact .whole (escapedFrom_false_iff.mp hbody)
    · cases h.symm.trans hcut
      refine .parted hbody (escapedFrom_false_iff.mp hbefore) (mt endsEscaped_false_iff.mpr ?_)
      exact Bool.eq_false_iff.mp hfree
  · intro h
    cases h with
    | whole hescaped =>
      have hcut := cutOptions_append (escapedFrom_false_iff.mpr hescaped) []
      rwa [List.append_nil, cutOptions_nil, List.append_nil] at hcut
    | parted hbody hescaped hfree =>
      rw [hbody]
      exact cutOptions_parted hescaped hfree _

theorem escaped_iff : Escaped cs ↔ (cutOptions false cs).2 = none := by
  rcases cutOptions_cases false cs with ⟨hcut, hcs⟩ | ⟨pattern, options, hcut, -⟩
  · rw [hcut]
    exact ⟨fun _ => rfl, fun _ => escapedFrom_false_iff.mp hcs⟩
  · refine ⟨fun h => ?_, fun h => ?_⟩
    · rw [cutOptions_eq_iff.mpr (.whole h)]
    · rw [hcut] at h
      cases h

instance (cs : List Char) : Decidable (Escaped cs) := decidable_of_iff _ escaped_iff.symm

/-! ## what a pattern says -/

/-- a literal host: something between its outer blanks and dots, and nothing but host characters
and dots in it -/
def IsHost (host : List Char) : Prop :=
  Text.trimWhile (· == '.') (Text.trim host) ≠ [] ∧
    ∀ c ∈ Text.trimWhile (· == '.') (Text.trim host), Text.isHostChar c = true ∨ c = '.'

/-- After `||` there is a literal host, up to the first slash or separator mark or the end. -/
def NamesHost (pattern : List Char) : Prop :=
  ∃ host rest, pattern = '|' :: '|' :: (host ++ rest) ∧ (∀ c ∈ host, c ≠ '/' ∧ c ≠ '^') ∧
    (∀ c, rest.head? = some c → c = '/' ∨ c = '^') ∧ IsHost host

/-- the pattern without `||` at its start -/
def unanchored (pattern : List Char) : List Char :=
  if ['|', '|'] <+: pattern then pattern.drop 2 else pattern

/-- a bar at the start, a bar at the end, and nothing but separator marks between them; each of
these may be missing -/
def OnlyMarks (cs : List Char) : Prop :=
  ∃ first marks last, cs = first ++ marks ++ last ∧ (first = [] ∨ first = ['|']) ∧
    (∀ c ∈ marks, c = '^') ∧ (last = [] ∨ last = ['|'])

theorem hostName?_eq_none_iff {host : List Char} : hostName? host = none ↔ ¬ IsHost host := by
  have hiff : (Text.trimWhile (· == '.') (Text.trim host) ≠ [] ∧
      (Text.trimWhile (· == '.') (Text.trim host)).all
        (fun c => Text.isHostChar c || c == '.') = true) ↔ IsHost host := by
    simp only [IsHost, List.all_eq_true, Bool.or_eq_true, beq_iff_eq]
  rw [hostName?, ← hiff]
  split
  · rename_i h
    refine iff_of_false (fun hnone => ?_) (fun hnot => hnot h)
    cases hnone
  · rename_i h
    exact iff_of_true rfl h

theorem takeWhile_host {host rest : List Char} (hhost : ∀ c ∈ host, c ≠ '/' ∧ c ≠ '^')
    (hrest : ∀ c, rest.head? = some c → c = '/' ∨ c = '^') :
    (host ++ rest).takeWhile (fun c => c ≠ '/' ∧ c ≠ '^') = host := by
  rw [List.takeWhile_append_of_pos fun c hc => decide_eq_true (hhost c hc)]
  cases rest with
  | nil => exact List.append_nil host
  | cons c rest =>
    rw [List.takeWhile_cons_of_neg, List.append_nil]
    rw [decide_eq_true_eq]
    exact fun hc => (hrest c rfl).elim hc.1 hc.2

theorem namesHost_anchored_iff {text : List Char} :
    NamesHost ('|' :: '|' :: text) ↔ IsHost (text.takeWhile fun c => c ≠ '/' ∧ c ≠ '^') := by
  constructor
  · rintro ⟨host, rest, heq, hhost, hrest, hname⟩
    obtain rfl : text = host ++ rest := (List.cons.inj (List.cons.inj heq).2).2
    rwa [takeWhile_host hhost hrest]
  · intro hname
    refine ⟨_, text.dropWhile fun c => c ≠ '/' ∧ c ≠ '^', ?_, fun c hc => ?_, fun c hc => ?_, hname⟩
    · rw [List.takeWhile_append_dropWhile]
    · have hall := List.all_takeWhile (p := fun c => decide (c ≠ '/' ∧ c ≠ '^')) (l := text)
      exact of_decide_eq_true (List.all_eq_true.mp hall c hc)
    · have hhead := List.head?_dropWhile_not (fun c => decide (c ≠ '/' ∧ c ≠ '^')) text
      rw [hc] at hhead
      have hstop := Decidable.not_and_iff_not_or_not.mp (of_decide_eq_false hhead)
      exact hstop.imp Decidable.not_not.mp Decidable.not_not.mp

/-- A pattern without a bar at its start, or with one only, is about no domain. -/
theorem splitAnchor_of_not_anchored (h : ¬ ['|', '|'] <+: pattern) :
    splitAnchor pattern = (none, pattern) := by
  rw [splitAnchor]
  split
  · rfl
  · rename_i rest hrest
    exact absurd ⟨rest, (Text.after?_eq_some_iff.mp hrest).symm⟩ h

theorem splitAnchor_anchored (text : List Char) :
    splitAnchor ('|' :: '|' :: text) =
      match hostName? (text.takeWhile fun c => c ≠ '/' ∧ c ≠ '^') with
      | some domain => (some domain, text.dropWhile (· ≠ '/'))
      | none => (none, text) := rfl

theorem splitAnchor_fst_eq_none_iff : (splitAnchor pattern).1 = none ↔ ¬ NamesHost pattern := by
  by_cases hanchor : ['|', '|'] <+: pattern
  · obtain ⟨text, rfl⟩ := hanchor
    show (splitAnchor ('|' :: '|' :: text)).1 = none ↔ ¬ NamesHost ('|' :: '|' :: text)
    rw [splitAnchor_anchored, namesHost_anchored_iff, ← hostName?_eq_none_iff]
    cases hostName? (text.takeWhile fun c => c ≠ '/' ∧ c ≠ '^') with
    | none => exact ⟨fun _ => rfl, fun _ => rfl⟩
    | some domain => exact ⟨nofun, nofun⟩
  · rw [splitAnchor_of_not_anchored hanchor]
    refine ⟨fun _ => ?_, fun _ => rfl⟩
    rintro ⟨host, rest, rfl, -⟩
    exact hanchor ⟨host ++ rest, rfl⟩

/-- Without a literal host the whole pattern is kept, but for the bars it is anchored with. -/
theorem splitAnchor_snd_of_none (h : (splitAnchor pattern).1 = none) :
    (splitAnchor pattern).2 = unanchored pattern := by
  rw [unanchored]
  split
  · rename_i hanchor
    obtain ⟨text, rfl⟩ := hanchor
    change (splitAnchor ('|' :: '|' :: text)).1 = none at h
    change (splitAnchor ('|' :: '|' :: text)).2 = text
    rw [splitAnchor_anchored] at h ⊢
    split at h
    · cases h
    · rfl
  · rename_i hanchor
    rw [splitAnchor_of_not_anchored hanchor]

theorem unescape_eq_nil_iff : unescape cs = [] ↔ cs = [] := by
  constructor
  · intro h
    cases cs using unescape.fun_cases with
    | case1 => rfl
    | case2 cs => rw [unescape] at h; cases h
    | case3 c cs hnot => rw [unescape.eq_3 c cs hnot] at h; cases h
  · rintro rfl
    rfl

/-- Separator marks and a bar after them, without the bar. -/
theorem eq_caret_of_mem_dropLastOne {marks last : List Char} (hmarks : ∀ c ∈ marks, c = '^')
    (hlast : last = [] ∨ last = ['|']) : ∀ c ∈ Text.dropLastOne '|' (marks ++ last), c = '^' := by
  rcases hlast with rfl | rfl
  · have hbar : marks.getLast? ≠ some '|' := fun h =>
      absurd (hmarks '|' (List.mem_of_getLast? h)) (by decide)
    rw [List.append_nil, Text.dropLastOne_eq_self hbar]
    exact hmarks
  · rw [Text.dropLastOne_concat]
    exact hmarks

theorem onlyMarks_iff :
    OnlyMarks cs ↔ ∀ c ∈ Text.dropLastOne '|' (Text.dropOne '|' cs), c = '^' := by
  constructor
  · rintro ⟨first, marks, last, rfl, rfl | rfl, hmarks, hlast⟩
    · rw [List.nil_append]
      cases marks with
      | nil =>
        -- a bar that stands alone is dropped as the first one
        rcases hlast with rfl | rfl <;> exact nofun
      | cons c marks =>
        have hbar : (c :: marks ++ last).head? ≠ some '|' := fun h =>
          absurd ((hmarks c List.mem_cons_self).symm.trans (Option.some.inj h)) (by decide)
        rw [Text.dropOne_eq_self hbar]
        exact eq_caret_of_mem_dropLastOne hmarks hlast
    · exact eq_caret_of_mem_dropLastOne hmarks hlast
  · intro hmarks
    have hlast := Text.eq_dropLastOne_or '|' (Text.dropOne '|' cs)
    generalize Text.dropLastOne '|' (Text.dropOne '|' cs) = marks at hmarks hlast
    have hcs : ∃ last, Text.dropOne '|' cs = marks ++ last ∧ (last = [] ∨ last = ['|']) := by
      rcases hlast with h | h
      · exact ⟨[], by rw [h, List.append_nil], .inl rfl⟩
      · exact ⟨['|'], h, .inr rfl⟩
    obtain ⟨last, hrest, hlast⟩ := hcs
    rcases Text.eq_dropOne_or '|' cs with h | h
    · exact ⟨[], marks, last, by rw [h, hrest, List.nil_append], .inl rfl, hmarks, hlast⟩
    · exact ⟨['|'], marks, last, by rw [h, hrest]; rfl, .inr rfl, hmarks, hlast⟩

theorem urlFilter_eq_nil_iff : urlFilter cs = [] ↔ OnlyMarks cs := by
  rw [urlFilter, unescape_eq_nil_iff, List.filter_eq_nil_iff, onlyMarks_iff]
  simp only [decide_eq_true_eq, Decidable.not_not]

end Pattern

namespace Filter

/-! ## the causes of a rejection -/

/-- a mark of element hiding, wherever it is -/
def HidesElements (line : List Char) : Prop :=
  ∃ mark ∈ ["##", "#@#", "#?#", "#$#"], mark.toList <:+: line

/-- a blank line, a comment or list metadata -/
def SaysNothing (line : List Char) : Prop :=
  line = [] ∨ line.head? = some '!' ∨ line.head? = some '['

/-- the line without `@@` at its start -/
def unmarked (line : List Char) : List Char :=
  if ['@', '@'] <+: line then line.drop 2 else line

/-- Neither a domain nor a pattern of addresses: no literal host, and nothing but marks. -/
def Vague (pattern : List Char) : Prop :=
  ¬ Pattern.NamesHost pattern ∧ Pattern.OnlyMarks (Pattern.unanchored pattern)

/-- What becomes of a line without white space around it: a rejection, or a rule (`none`). Each
cause counts only where no earlier one applies. -/
inductive Verdict (line : List Char) : Option Rejection → Prop where
  | cosmetic (hhides : HidesElements line) : Verdict line (some .cosmetic)
  | skip (hhides : ¬ HidesElements line) (hnothing : SaysNothing line) : Verdict line (some .skip)
  | options (hhides : ¬ HidesElements line) (hnothing : ¬ SaysNothing line)
      {pattern text : List Char} {option : String}
      (hcut : Pattern.Cut (unmarked line) pattern (some text))
      (hrejected : Options.parse text = .error (.unsupportedOption option)) :
      Verdict line (some (.unsupportedOption option))
  | emptyPattern (hhides : ¬ HidesElements line) (hnothing : ¬ SaysNothing line)
      {pattern : List Char} {text? : Option (List Char)}
      (hcut : Pattern.Cut (unmarked line) pattern text?)
      (haccepted : ∀ text, text? = some text → ∃ o, Options.parse text = .ok o)
      (hvague : Vague (Text.trim pattern)) : Verdict line (some .emptyPattern)
  | rule (hhides : ¬ HidesElements line) (hnothing : ¬ SaysNothing line)
      {pattern : List Char} {text? : Option (List Char)}
      (hcut : Pattern.Cut (unmarked line) pattern text?)
      (haccepted : ∀ text, text? = some text → ∃ o, Options.parse text = .ok o)
      (hvague : ¬ Vague (Text.trim pattern)) : Verdict line none

variable {line : List Char} {id : RuleId} {v : Option Rejection}

theorem isCosmetic_iff : isCosmetic line = true ↔ HidesElements line := by
  have hinfix (mark : List Char) : Text.hasInfix mark line = true ↔ mark <:+: line := by
    rw [Text.hasInfix_iff]
    exact exists₂_congr fun _ _ => eq_comm
  rw [isCosmetic, List.any_eq_true, HidesElements]
  simp only [cosmeticMarks, hinfix, List.mem_cons, List.not_mem_nil, or_false, exists_eq_or_imp,
    exists_eq_left]

theorem saysNothing_iff (hne : line ≠ []) : SaysNothing line ↔ isComment line = true := by
  rw [SaysNothing, or_iff_right hne, isComment, Bool.or_eq_true, decide_eq_true_eq,
    decide_eq_true_eq]

theorem not_hidesElements_nil : ¬ HidesElements [] := by
  rw [← isCosmetic_iff]
  decide

theorem splitException_snd : (splitException line).2 = unmarked line := by
  rw [splitException, unmarked]
  split
  · rename_i body hbody
    rw [Text.after?_eq_some_iff] at hbody
    subst hbody
    rw [if_pos (List.prefix_append _ body)]
    rfl
  · rename_i hnone
    rw [if_neg]
    rintro ⟨body, rfl⟩
    cases hnone

/-- the part of a line for its options -/
theorem cut_unmarked_iff {pattern : List Char} {text? : Option (List Char)} :
    Pattern.Cut (unmarked line) pattern text? ↔ parts line = (pattern, text?) := by
  rw [parts, splitException_snd, Pattern.cutOptions_eq_iff]

/-- a pattern that leaves neither a domain nor a pattern of addresses -/
theorem vague_iff {pattern : List Char} {text? : Option (List Char)}
    (hcut : Pattern.Cut (unmarked line) pattern text?) :
    Vague (Text.trim pattern) ↔ (target line).1 = none ∧ url line = [] := by
  have hparts : (parts line).1 = pattern := congrArg Prod.fst (cut_unmarked_iff.mp hcut)
  rw [Vague, ← Pattern.splitAnchor_fst_eq_none_iff, url, target, hparts]
  refine and_congr_right fun hnone => ?_
  rw [Pattern.splitAnchor_snd_of_none hnone, Pattern.urlFilter_eq_nil_iff]

theorem optionsOf_accepted_iff {text? : Option (List Char)} :
    (∃ o, optionsOf text? = .ok o) ↔
      ∀ text, text? = some text → ∃ o, Options.parse text = .ok o := by
  cases text? with
  | none => exact ⟨fun _ => nofun, fun _ => ⟨{}, rfl⟩⟩
  | some text =>
    constructor
    · intro ho text' htext
      cases htext
      exact ho
    · exact fun h => h text rfl

/-- the cause of the rejection in an answer -/
def rejection? : Except Rejection Rule → Option Rejection
  | .ok _ => none
  | .error rejection => some rejection

theorem parse_eq (line : List Char) (id : RuleId) :
    parse line id =
      if Text.trim line = [] then .error .skip
      else if isCosmetic (Text.trim line) then .error .cosmetic
      else if isComment (Text.trim line) then .error .skip
      else match optionsOf (parts (Text.trim line)).2 with
        | .error rejection => .error rejection
        | .ok o =>
          if (target (Text.trim line)).1 = none ∧ url (Text.trim line) = [] then
            .error .emptyPattern
          else .ok (ruleOf (Text.trim line) o id) := rfl

section
variable (line) (id)

theorem verdict_parse : Verdict (Text.trim line) (rejection? (parse line id)) := by
  rw [parse_eq]
  generalize Text.trim line = t
  split
  · rename_i hnil
    subst hnil
    exact .skip not_hidesElements_nil (.inl rfl)
  · rename_i hne
    split
    · rename_i hcosmetic
      exact .cosmetic (isCosmetic_iff.mp hcosmetic)
    · rename_i hcosmetic
      have hhides := mt isCosmetic_iff.mpr hcosmetic
      split
      · rename_i hcomment
        exact .skip hhides ((saysNothing_iff hne).mpr hcomment)
      · rename_i hcomment
        have hnothing := mt (saysNothing_iff hne).mp hcomment
        have hcut := cut_unmarked_iff.mpr (Prod.mk.eta (p := parts t)).symm
        split
        · rename_i rejection hrejected
          cases htext : (parts t).2 with
          | none =>
            rw [htext] at hrejected
            cases hrejected
          | some text =>
            rw [htext] at hrejected hcut
            obtain ⟨option, rfl⟩ := Options.unsupportedOption_of_parse hrejected
            exact .options hhides hnothing hcut hrejected
        · rename_i o ho
          have haccepted := optionsOf_accepted_iff.mp ⟨o, ho⟩
          split
          · rename_i hvague
            exact .emptyPattern hhides hnothing hcut haccepted ((vague_iff hcut).mpr hvague)
          · rename_i hvague
            exact .rule hhides hnothing hcut haccepted (mt (vague_iff hcut).mp hvague)

variable {line}

theorem parse_of_hidesElements (h : HidesElements (Text.trim line)) :
    parse line id = .error .cosmetic := by
  have hne : Text.trim line ≠ [] := fun hnil => not_hidesElements_nil (hnil ▸ h)
  rw [parse_eq, if_neg hne, if_pos (isCosmetic_iff.mpr h)]

theorem parse_of_saysNothing (hhides : ¬ HidesElements (Text.trim line))
    (h : SaysNothing (Text.trim line)) : parse line id = .error .skip := by
  by_cases hne : Text.trim line = []
  · rw [parse_eq, if_pos hne]
  · rw [parse_eq, if_neg hne, if_neg (mt isCosmetic_iff.mp hhides),
      if_pos ((saysNothing_iff hne).mp h)]

/-- a line that is meant as a rule -/
theorem parse_of_meant (hhides : ¬ HidesElements (Text.trim line))
    (hnothing : ¬ SaysNothing (Text.trim line)) :
    parse line id =
      match optionsOf (parts (Text.trim line)).2 with
      | .error rejection => .error rejection
      | .ok o =>
        if (target (Text.trim line)).1 = none ∧ url (Text.trim line) = [] then .error .emptyPattern
        else .ok (ruleOf (Text.trim line) o id) := by
  have hne : Text.trim line ≠ [] := fun hnil => hnothing (.inl hnil)
  rw [parse_eq, if_neg hne, if_neg (mt isCosmetic_iff.mp hhides),
    if_neg (mt (saysNothing_iff hne).mpr hnothing)]

/-- There is no second verdict. -/
theorem Verdict.rejection?_parse (h : Verdict (Text.trim line) v) :
    rejection? (parse line id) = v := by
  cases h with
  | cosmetic hhides => rw [parse_of_hidesElements id hhides]; rfl
  | skip hhides hnothing => rw [parse_of_saysNothing id hhides hnothing]; rfl
  | options hhides hnothing hcut hrejected =>
    rw [parse_of_meant id hhides hnothing, cut_unmarked_iff.mp hcut, optionsOf, hrejected]
    rfl
  | emptyPattern hhides hnothing hcut haccepted hvague =>
    obtain ⟨o, ho⟩ := optionsOf_accepted_iff.mpr haccepted
    simp only [parse_of_meant id hhides hnothing, cut_unmarked_iff.mp hcut, ho,
      if_pos ((vague_iff hcut).mp hvague)]
    rfl
  | rule hhides hnothing hcut haccepted hvague =>
    obtain ⟨o, ho⟩ := optionsOf_accepted_iff.mpr haccepted
    simp only [parse_of_meant id hhides hnothing, cut_unmarked_iff.mp hcut, ho,
      if_neg (mt (vague_iff hcut).mpr hvague)]
    rfl

end

theorem rejection?_parse_eq_iff : rejection? (parse line id) = v ↔ Verdict (Text.trim line) v :=
  ⟨fun h => h ▸ verdict_parse line id, fun h => h.rejection?_parse id⟩

/-- A line is rejected for one cause, whatever the id. -/
theorem parse_of_rejected {rejection : Rejection} (h : parse line id = .error rejection)
    (id' : RuleId) : parse line id' = .error rejection := by
  have hverdict := verdict_parse line id
  rw [h] at hverdict
  have hrejection := hverdict.rejection?_parse id'
  generalize parse line id' = answer at hrejection
  cases answer with
  | ok r => cases hrejection
  | error rejection' => rw [Option.some.inj hrejection]

/-- Each line has one verdict, and the verdict is the answer: a rejection for the cause that it
gives, and a rule where it gives none. -/
theorem parse_verdict (line : List Char) (id : RuleId) :
    (∀ rejection, parse line id = .error rejection ↔ Verdict (Text.trim line) (some rejection)) ∧
      ((∃ r, parse line id = .ok r) ↔ Verdict (Text.trim line) none) := by
  have hiff (v : Option Rejection) : rejection? (parse line id) = v ↔ Verdict (Text.trim line) v :=
    rejection?_parse_eq_iff
  simp only [← hiff]
  cases parse line id with
  | ok r => exact ⟨fun rejection => ⟨nofun, nofun⟩, fun _ => rfl, fun _ => ⟨r, rfl⟩⟩
  | error rejection' =>
    refine ⟨fun rejection => ?_, nofun, nofun⟩
    rw [Except.error.injEq]
    exact Option.some_inj.symm

/-- a comment with a mark of element hiding, and an option that is none after an empty pattern -/
example : rejection? (parse "! hidden ## part".toList 1) = some .cosmetic ∧
    rejection? (parse "@@|^|$popup".toList 1) = some (.unsupportedOption "popup") := by
  decide +kernel

end Filter

end Blocklist
