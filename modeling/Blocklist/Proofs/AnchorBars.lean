import Blocklist.Proofs.RejectedLines

/-!
# Bars that are left in patterns

A bar anchors a pattern at its start or at its end. One bar is taken off each end of a pattern
before the separator marks are, so a bar that only such marks keep from an end comes to stand there.
The engine then has it for an anchor.

* `Pattern.BarAhead`, `Pattern.BarBehind`   a bar that comes to stand at the start or the end;
* `Pattern.head?_urlFilter_iff`, `Pattern.getLast?_urlFilter_iff`   the ends of a pattern for the
                                            engine;
* `Filter.bars_left`                        which lines leave a bar.
-/

namespace Blocklist

namespace Text

/-! ## one character at each end -/

variable {a b cs : List Char} {c : Char}

theorem dropOne_append (h : a ≠ []) (b : List Char) : dropOne c (a ++ b) = dropOne c a ++ b := by
  cases a with
  | nil => exact absurd rfl h
  | cons d a =>
    by_cases hd : d = c <;> simp [dropOne, hd]

theorem dropLastOne_append (a : List Char) (h : b ≠ []) :
    dropLastOne c (a ++ b) = a ++ dropLastOne c b := by
  have hb : b.reverse ≠ [] := List.reverse_ne_nil_iff.mpr h
  simp only [dropLastOne, List.reverse_append, dropOne_append hb, List.reverse_reverse]

/-- It does not matter which end comes first. -/
theorem dropLastOne_dropOne (c : Char) (cs : List Char) :
    dropLastOne c (dropOne c cs) = dropOne c (dropLastOne c cs) := by
  cases cs with
  | nil => rfl
  | cons d cs =>
    by_cases hcs : cs = []
    · subst hcs
      by_cases hd : d = c <;> simp [dropOne, dropLastOne, hd]
    · have hlast : dropLastOne c (d :: cs) = d :: dropLastOne c cs :=
        dropLastOne_append [d] hcs
      by_cases hd : d = c
      · simp only [hlast, dropOne, if_pos hd]
      · simp only [hlast, dropOne, if_neg hd]

theorem dropOne_reverse (c : Char) (cs : List Char) :
    dropOne c cs.reverse = (dropLastOne c cs).reverse := by
  rw [dropLastOne, List.reverse_reverse]

theorem dropLastOne_reverse (c : Char) (cs : List Char) :
    dropLastOne c cs.reverse = (dropOne c cs).reverse := by
  rw [dropLastOne, List.reverse_reverse]

/-- a character that is left was not the first one -/
theorem exists_of_dropOne_eq (h : dropOne c cs = a ++ c :: b) :
    ∃ front, front ≠ [] ∧ cs = front ++ c :: b ∧ dropOne c front = a := by
  cases cs with
  | nil =>
    rw [dropOne] at h
    exact absurd h (by simp)
  | cons d cs =>
    by_cases hd : d = c
    · rw [dropOne, if_pos hd] at h
      exact ⟨c :: a, List.cons_ne_nil c a, by rw [hd, h, List.cons_append], by simp [dropOne]⟩
    · rw [dropOne, if_neg hd] at h
      cases a with
      | nil => exact absurd (List.cons.inj h).1 hd
      | cons e a =>
        have he : e ≠ c := (List.cons.inj h).1 ▸ hd
        exact ⟨e :: a, List.cons_ne_nil e a, h, by rw [dropOne, if_neg he]⟩

/-- a character that is left was not the last one -/
theorem exists_of_dropLastOne_eq (h : dropLastOne c cs = a ++ c :: b) :
    ∃ back, back ≠ [] ∧ cs = a ++ c :: back := by
  have hreverse : dropOne c cs.reverse = b.reverse ++ c :: a.reverse := by
    rw [dropOne_reverse, h]
    simp
  obtain ⟨front, hfront, heq, -⟩ := exists_of_dropOne_eq hreverse
  refine ⟨front.reverse, List.reverse_ne_nil_iff.mpr hfront, ?_⟩
  rw [← List.reverse_reverse cs, heq]
  simp

end Text

namespace Pattern

variable {pattern cs : List Char}

/-! ## the ends of a pattern -/

/-- a bar that is not the first character, with nothing before it but a bar at the start and
separator marks, and with something after it -/
def BarAhead (pattern : List Char) : Prop :=
  ∃ front rest, pattern = front ++ '|' :: rest ∧ front ≠ [] ∧ rest ≠ [] ∧
    ∀ c ∈ Text.dropOne '|' front, c = '^'

/-- a bar that is not the last character, with nothing after it but separator marks and a bar at the
end, and with something before it -/
def BarBehind (pattern : List Char) : Prop :=
  ∃ rest back, pattern = rest ++ '|' :: back ∧ rest ≠ [] ∧ back ≠ [] ∧
    ∀ c ∈ Text.dropLastOne '|' back, c = '^'

theorem barBehind_iff_reverse : BarBehind pattern ↔ BarAhead pattern.reverse := by
  constructor
  · rintro ⟨rest, back, rfl, hrest, hback, hmarks⟩
    refine ⟨back.reverse, rest.reverse, by simp, List.reverse_ne_nil_iff.mpr hback,
      List.reverse_ne_nil_iff.mpr hrest, ?_⟩
    rw [Text.dropOne_reverse]
    exact fun c hc => hmarks c (List.mem_reverse.mp hc)
  · rintro ⟨front, rest, heq, hfront, hrest, hmarks⟩
    have hpattern : pattern = rest.reverse ++ '|' :: front.reverse := by
      rw [← List.reverse_reverse pattern, heq]
      simp
    refine ⟨rest.reverse, front.reverse, hpattern, List.reverse_ne_nil_iff.mpr hrest,
      List.reverse_ne_nil_iff.mpr hfront, ?_⟩
    rw [Text.dropLastOne_reverse]
    exact fun c hc => hmarks c (List.mem_reverse.mp hc)

/-- what is left of a pattern when a bar is taken off each end -/
def unbarred (pattern : List Char) : List Char := Text.dropLastOne '|' (Text.dropOne '|' pattern)

theorem unbarred_reverse (pattern : List Char) :
    unbarred pattern.reverse = (unbarred pattern).reverse := by
  rw [unbarred, unbarred, Text.dropOne_reverse, Text.dropLastOne_reverse, Text.dropLastOne_dropOne]

/-- a text that begins with a bar when the separator marks are gone -/
theorem head?_filter_caret_iff :
    (cs.filter (· ≠ '^')).head? = some '|' ↔
      ∃ marks rest, cs = marks ++ '|' :: rest ∧ ∀ c ∈ marks, c = '^' := by
  rw [List.head?_filter, List.find?_eq_some_iff_append]
  simp

theorem barAhead_iff_unbarred :
    BarAhead pattern ↔
      ∃ marks rest, unbarred pattern = marks ++ '|' :: rest ∧ ∀ c ∈ marks, c = '^' := by
  constructor
  · rintro ⟨front, rest, rfl, hfront, hrest, hmarks⟩
    refine ⟨Text.dropOne '|' front, Text.dropLastOne '|' rest, ?_, hmarks⟩
    have hlast : Text.dropLastOne '|' ('|' :: rest) = '|' :: Text.dropLastOne '|' rest :=
      Text.dropLastOne_append ['|'] hrest
    rw [unbarred, Text.dropOne_append hfront, Text.dropLastOne_append _ (List.cons_ne_nil _ _),
      hlast]
  · rintro ⟨marks, rest, hunbarred, hmarks⟩
    obtain ⟨back, hback, hdrop⟩ := Text.exists_of_dropLastOne_eq hunbarred
    obtain ⟨front, hfront, rfl, rfl⟩ := Text.exists_of_dropOne_eq hdrop
    exact ⟨front, back, rfl, hfront, hback, hmarks⟩

/-! ## dollars without their backslash -/

theorem getLast?_unescape (cs : List Char) : (unescape cs).getLast? = cs.getLast? := by
  induction cs using unescape.induct with
  | case1 => rfl
  | case2 cs ih =>
    rw [unescape, List.getLast?_cons, ih, List.getLast?_cons, List.getLast?_cons]
    cases cs.getLast? <;> rfl
  | case3 c cs hnot ih =>
    rw [unescape.eq_3 c cs hnot, List.getLast?_cons, ih, List.getLast?_cons]

theorem head?_unescape_iff : (unescape cs).head? = some '|' ↔ cs.head? = some '|' := by
  cases cs using unescape.fun_cases with
  | case1 => rfl
  | case2 cs =>
    rw [unescape]
    simp
  | case3 c cs hnot => rw [unescape.eq_3 c cs hnot, List.head?_cons, List.head?_cons]

/-! ## patterns for the engine -/

theorem head?_urlFilter_iff : (urlFilter pattern).head? = some '|' ↔ BarAhead pattern := by
  rw [urlFilter, head?_unescape_iff, ← unbarred, head?_filter_caret_iff, barAhead_iff_unbarred]

theorem getLast?_urlFilter_iff : (urlFilter pattern).getLast? = some '|' ↔ BarBehind pattern := by
  rw [urlFilter, getLast?_unescape, ← unbarred, ← List.head?_reverse, ← List.filter_reverse,
    ← unbarred_reverse, head?_filter_caret_iff, ← barAhead_iff_unbarred, barBehind_iff_reverse]

end Pattern

namespace Filter

/-! ## lines -/

variable {line : List Char} {id : RuleId} {r : Rule}

/-- The pattern that the engine is given has no separator mark. It begins or ends with a bar exactly
if the pattern of the line has one there besides the outermost, with nothing but separator marks on
its outer side. -/
theorem bars_left (h : parse line id = .ok r) {url : String}
    (hurl : r.condition.urlFilter = some url) :
    '^' ∉ url.toList ∧
    (url.toList.head? = some '|' ↔ Pattern.BarAhead (target (Text.trim line)).2) ∧
    (url.toList.getLast? = some '|' ↔ Pattern.BarBehind (target (Text.trim line)).2) := by
  obtain ⟨o, -, rfl⟩ := parse_eq_ok_iff.mp h
  obtain ⟨rfl, -⟩ := urlFilter_ruleOf_eq_some_iff.mp hurl
  rw [String.toList_ofList, Filter.url]
  exact ⟨Pattern.caret_not_mem_urlFilter _, Pattern.head?_urlFilter_iff,
    Pattern.getLast?_urlFilter_iff⟩

/-- bars at both ends of an address, the last one before a separator mark -/
theorem bars_left_at_end :
    let line := "|https://ads.example.com/banner|^$image".toList
    let r : Rule :=
      { id := 3, priority := blockPriority, action := .block
        condition :=
          { urlFilter := some "https://ads.example.com/banner|"
            resourceTypes := ResourceTypes.ofList [.image] }
        source := some (String.ofList line) }
    parse line 3 = .ok r ∧ r.condition.urlFilter = some "https://ads.example.com/banner|" ∧
      ¬ Pattern.BarAhead (target (Text.trim line)).2 ∧
      Pattern.BarBehind (target (Text.trim line)).2 := by
  intro line r
  have hparse : parse line 3 = .ok r := by decide +kernel
  obtain ⟨-, hhead, hlast⟩ := bars_left hparse rfl
  exact ⟨hparse, rfl, mt hhead.mpr (by decide), hlast.mp (by decide)⟩

/-- A separator mark after a bar keeps it in the pattern. -/
theorem bar_survives :
    ¬ ∀ line id r url, parse line id = .ok r → r.condition.urlFilter = some url →
      '^' ∉ url.toList ∧ url.toList.head? ≠ some '|' ∧ url.toList.getLast? ≠ some '|' := by
  intro hall
  let r : Rule :=
    { id := 1, priority := blockPriority, action := .block
      condition := { urlFilter := some "/banner|" }
      source := some "/banner|^" }
  have hparse : parse "/banner|^".toList 1 = .ok r := by decide +kernel
  obtain ⟨-, -, hlast⟩ := hall _ _ r "/banner|" hparse rfl
  exact hlast (by decide)

end Filter

end Blocklist
