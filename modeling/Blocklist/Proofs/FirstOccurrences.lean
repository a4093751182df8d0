import Blocklist.Proofs.CompiledRules

/-!
# First occurrences

A text is compiled to the rules of some of its lines: those that are rules and do what no line
before them does, as far as the window has room for them. Each is numbered by its place among them.
The id that a line was tried with has no part in this, and no id is too large on the way.

* `Filter.effect?`                     what the rule of a line does, whatever its id;
* `FilterList.accepted`                the lines that are rules;
* `FilterList.firsts`                  the lines that do something new;
* `FilterList.kept`                    those that the window has room for;
* `FilterList.Progress.Follows`        what every line preserves: the rules so far are those of the
                                       lines kept so far;
* `FilterList.checkedCompile`          compilation with a checked sum for the next id;
* `FilterList.compile_eq_kept`         what a text is compiled to.
-/

namespace Blocklist

namespace Filter

/-- what the rule of a line does, if the line is one; `probe` is the id that it is tried with -/
def effect? (probe : RuleId) (line : List Char) : Option Effect :=
  (parse line probe).toOption.map Rule.effect

variable {line : List Char} {id : RuleId} {r : Rule} (probe : RuleId)

theorem effect?_of_parse (h : parse line id = .ok r) : effect? probe line = some r.effect := by
  rw [effect?, parse_of_parse h probe]
  rfl

theorem effect?_of_rejected {rejection : Rejection} (h : parse line id = .error rejection) :
    effect? probe line = none := by
  rw [effect?]
  cases hprobe : parse line probe with
  | error rejection' => rfl
  | ok r =>
    rw [parse_of_parse hprobe id] at h
    cases h

end Filter

namespace FilterList

/-! ## lines that are kept -/

section
variable (probe : RuleId)

/-- the lines that are rules -/
def accepted (lines : List (List Char)) : List (List Char) :=
  lines.filter fun line => (Filter.effect? probe line).isSome

/-- the lines whose effect differs from that of every line before them; `earlier` are the lines
before the first one -/
def firsts (earlier : List (List Char)) : List (List Char) → List (List Char)
  | [] => []
  | line :: lines =>
    if ∀ l ∈ earlier, Filter.effect? probe l ≠ Filter.effect? probe line then
      line :: firsts (earlier ++ [line]) lines
    else firsts (earlier ++ [line]) lines

/-- the lines whose rules a window takes in -/
def kept (window : IdRange) (lines : List (List Char)) : List (List Char) :=
  (firsts probe [] (accepted probe lines)).take window.size

theorem firsts_append (earlier a b : List (List Char)) :
    firsts probe earlier (a ++ b) = firsts probe earlier a ++ firsts probe (earlier ++ a) b := by
  induction a generalizing earlier with
  | nil => rw [List.nil_append, List.append_nil, firsts, List.nil_append]
  | cons line a ih =>
    rw [List.cons_append, firsts, firsts, ih, List.append_assoc, List.singleton_append]
    split
    · rw [List.cons_append]
    · rfl

/-- No line that is left does what another one does, or what an earlier one did. -/
theorem nodup_firsts (earlier lines : List (List Char)) :
    ((firsts probe earlier lines).map (Filter.effect? probe)).Nodup ∧
      ∀ line ∈ firsts probe earlier lines, ∀ l ∈ earlier,
        Filter.effect? probe l ≠ Filter.effect? probe line := by
  induction lines generalizing earlier with
  | nil => exact ⟨List.nodup_nil, nofun⟩
  | cons line lines ih =>
    obtain ⟨hnodup, hnew⟩ := ih (earlier ++ [line])
    have hrest : ∀ l' ∈ firsts probe (earlier ++ [line]) lines, ∀ l ∈ earlier,
        Filter.effect? probe l ≠ Filter.effect? probe l' :=
      fun l' hl' l hl => hnew l' hl' l (List.mem_append_left _ hl)
    rw [firsts]
    split
    · rename_i hline
      refine ⟨?_, List.forall_mem_cons.mpr ⟨hline, hrest⟩⟩
      rw [List.map_cons, List.nodup_cons]
      refine ⟨fun hmem => ?_, hnodup⟩
      obtain ⟨l', hl', heq⟩ := List.mem_map.mp hmem
      exact hnew l' hl' line (List.mem_append_right _ List.mem_cons_self) heq.symm
    · exact ⟨hnodup, hrest⟩

theorem firsts_sublist (earlier lines : List (List Char)) :
    List.Sublist (firsts probe earlier lines) lines := by
  induction lines generalizing earlier with
  | nil => exact List.Sublist.slnil
  | cons line lines ih =>
    rw [firsts]
    split
    · exact (ih _).cons_cons line
    · exact (ih _).cons line

theorem kept_sublist (window : IdRange) (lines : List (List Char)) :
    List.Sublist (kept probe window lines) lines :=
  (List.take_sublist _ _).trans ((firsts_sublist probe [] _).trans List.filter_sublist)

/-! ## one more line -/

variable {probe} {lines : List (List Char)} {line : List Char} (window : IdRange)

theorem accepted_concat_of_none (h : Filter.effect? probe line = none) :
    accepted probe (lines ++ [line]) = accepted probe lines := by
  rw [accepted, List.filter_append, List.filter_singleton, h, accepted]
  exact List.append_nil _

theorem accepted_concat_of_some {e : Effect} (h : Filter.effect? probe line = some e) :
    accepted probe (lines ++ [line]) = accepted probe lines ++ [line] := by
  rw [accepted, List.filter_append, List.filter_singleton, h, accepted]
  rfl

theorem kept_concat_of_none (h : Filter.effect? probe line = none) :
    kept probe window (lines ++ [line]) = kept probe window lines := by
  rw [kept, accepted_concat_of_none h, kept]

theorem kept_concat_of_old {e : Effect} (h : Filter.effect? probe line = some e)
    (hold : ∃ l ∈ accepted probe lines, Filter.effect? probe l = some e) :
    kept probe window (lines ++ [line]) = kept probe window lines := by
  obtain ⟨l, hl, heq⟩ := hold
  rw [kept, accepted_concat_of_some h, firsts_append, firsts, List.nil_append, if_neg, firsts,
    List.append_nil, kept]
  exact fun hnew => hnew l hl (heq.trans h.symm)

theorem kept_concat_of_new {e : Effect} (h : Filter.effect? probe line = some e)
    (hnew : ¬ ∃ l ∈ accepted probe lines, Filter.effect? probe l = some e) :
    kept probe window (lines ++ [line]) =
      if (kept probe window lines).length < window.size then kept probe window lines ++ [line]
      else kept probe window lines := by
  have hfirst : ∀ l ∈ accepted probe lines, Filter.effect? probe l ≠ Filter.effect? probe line :=
    fun l hl heq => hnew ⟨l, hl, heq.trans h⟩
  rw [kept, accepted_concat_of_some h, firsts_append, firsts, List.nil_append, if_pos hfirst,
    firsts, List.take_append, ← kept]
  have hlength : (kept probe window lines).length =
      min window.size (firsts probe [] (accepted probe lines)).length := List.length_take
  split
  · rw [List.take_of_length_le]
    rw [List.length_singleton]
    omega
  · have hfull : window.size - (firsts probe [] (accepted probe lines)).length = 0 := by omega
    rw [hfull, List.take_zero, List.append_nil]

end

/-! ## compilation under way -/

namespace Progress

/-- The rules so far are those of the lines kept so far, and the effects seen those of the lines
accepted so far. -/
structure Follows (probe : RuleId) (window : IdRange) (lines : List (List Char)) (p : Progress) :
    Prop where
  numbered : p.Numbered window
  seen : ∀ e, e ∈ p.seen ↔ ∃ l ∈ accepted probe lines, Filter.effect? probe l = some e
  rules : p.rules.reverse.map Except.ok =
    (kept probe window lines).mapIdx fun i l => Filter.parse l (window.start + i.toUInt32)
  effects : p.rules.reverse.map (fun r => some r.effect) =
    (kept probe window lines).map (Filter.effect? probe)

namespace Follows

variable {probe : RuleId} {window : IdRange} {lines : List (List Char)} {p : Progress}

theorem new (probe : RuleId) (window : IdRange) :
    Follows probe window [] { nextId := window.start } where
  numbered := .new window
  seen _ := ⟨fun h => absurd h Std.ExtTreeSet.not_mem_empty, nofun⟩
  rules := by rw [kept, accepted, List.filter_nil, firsts, List.take_nil]; rfl
  effects := by rw [kept, accepted, List.filter_nil, firsts, List.take_nil]; rfl

theorem length_kept (h : Follows probe window lines p) :
    (kept probe window lines).length = p.tally.rules := by
  have hlength := congrArg List.length h.effects
  rw [List.length_map, List.length_map, List.length_reverse] at hlength
  rw [h.numbered.count, hlength]

/-- the next id is the one at the place of the next rule -/
theorem nextId_eq (h : Follows probe window lines p) :
    window.start + (kept probe window lines).length.toUInt32 = p.nextId := by
  have hnext := h.numbered.next
  have hlt := p.nextId.toNat_lt
  rw [h.length_kept, h.numbered.count]
  apply UInt32.toNat_inj.mp
  rw [UInt32.toNat_add, UInt32.toNat_ofNat', hnext]
  omega

theorem mem_insert_iff (h : Follows probe window lines p) {line : List Char} {e : Effect}
    (hline : Filter.effect? probe line = some e) (e' : Effect) :
    e' ∈ p.seen.insert e ↔
      ∃ l ∈ accepted probe (lines ++ [line]), Filter.effect? probe l = some e' := by
  rw [Std.ExtTreeSet.mem_insert, Std.compare_eq_iff_eq, h.seen, accepted_concat_of_some hline]
  constructor
  · rintro (rfl | ⟨l, hl, heq⟩)
    · exact ⟨line, List.mem_append_right _ List.mem_cons_self, hline⟩
    · exact ⟨l, List.mem_append_left _ hl, heq⟩
  · rintro ⟨l, hl, heq⟩
    rcases List.mem_append.mp hl with hl | hl
    · exact .inr ⟨l, hl, heq⟩
    · rw [List.mem_singleton.mp hl, hline] at heq
      exact .inl (Option.some.inj heq)

/-- a line that becomes no rule -/
theorem of_same (h : Follows probe window lines p) {line : List Char} {p' : Progress}
    (numbered : p'.Numbered window) (rules : p'.rules = p.rules)
    (hkept : kept probe window (lines ++ [line]) = kept probe window lines)
    (seen : ∀ e, e ∈ p'.seen ↔
      ∃ l ∈ accepted probe (lines ++ [line]), Filter.effect? probe l = some e) :
    Follows probe window (lines ++ [line]) p' where
  numbered := numbered
  seen := seen
  rules := by rw [rules, hkept, h.rules]
  effects := by rw [rules, hkept, h.effects]

theorem step (h : Follows probe window lines p) (line : List Char) :
    Follows probe window (lines ++ [line]) (p.step window.size line) := by
  have hnumbered := h.numbered.step line
  have hfate := p.fate_step window.size line
  generalize p.step window.size line = p' at hnumbered hfate
  cases hfate with
  | rejected rejection hparse =>
    have hline := Filter.effect?_of_rejected probe hparse
    refine h.of_same hnumbered rfl (kept_concat_of_none window hline) ?_
    rw [accepted_concat_of_none hline]
    exact h.seen
  | duplicate r hparse hseen =>
    have hline := Filter.effect?_of_parse probe hparse
    refine h.of_same hnumbered rfl (kept_concat_of_old window hline ((h.seen _).mp hseen)) ?_
    intro e
    rw [← h.mem_insert_iff hline, Std.ExtTreeSet.mem_insert, Std.compare_eq_iff_eq]
    exact ⟨.inr, fun hmem => hmem.elim (fun heq => heq ▸ hseen) id⟩
  | taken r hparse hnew hroom =>
    have hline := Filter.effect?_of_parse probe hparse
    have hkept := kept_concat_of_new window hline (mt (h.seen _).mpr hnew)
    rw [h.length_kept, if_pos hroom] at hkept
    refine ⟨hnumbered, h.mem_insert_iff hline, ?_, ?_⟩
    · show (r :: p.rules).reverse.map _ = _
      rw [hkept, List.reverse_cons, List.map_append, h.rules, List.mapIdx_concat, h.nextId_eq,
        hparse]
      rfl
    · show (r :: p.rules).reverse.map _ = _
      rw [hkept, List.reverse_cons, List.map_append, h.effects, List.map_append,
        List.map_singleton, List.map_singleton, hline]
  | truncated r hparse hnew hfull =>
    have hline := Filter.effect?_of_parse probe hparse
    have hkept := kept_concat_of_new window hline (mt (h.seen _).mpr hnew)
    rw [h.length_kept, if_neg hfull] at hkept
    exact h.of_same hnumbered rfl hkept (h.mem_insert_iff hline)

theorem foldl (h : Follows probe window lines p) (rest : List (List Char)) :
    Follows probe window (lines ++ rest) (rest.foldl (Progress.step window.size) p) := by
  induction rest generalizing lines p with
  | nil =>
    rw [List.append_nil]
    exact h
  | cons line rest ih =>
    have hrest := ih (h.step line)
    rw [List.append_assoc, List.singleton_append] at hrest
    exact hrest

end Follows

/-! ## checked sums -/

/-- `Progress.step`, with a fault where the next id is too large -/
def checkedStep (room : Nat) (p : Progress) (line : List Char) : Except IdRange.Fault Progress :=
  let p := p.addLine
  match Filter.parse line p.nextId with
  | .error rejection => return { p with tally := p.tally.addRejection rejection }
  | .ok rule =>
    if rule.effect ∈ p.seen then return { p with tally.duplicates := p.tally.duplicates + 1 }
    else
      let p := { p with seen := p.seen.insert rule.effect }
      if p.tally.rules < room then do
        let nextId ← IdRange.word .sumTooLarge (p.nextId.toNat + 1)
        return { p with
          rules := rule :: p.rules
          nextId := nextId
          tally.rules := p.tally.rules + 1 }
      else return { p with tally.truncated := p.tally.truncated + 1 }

namespace Numbered

variable {window : IdRange} {p : Progress}

theorem word_nextId (h : Numbered window p) (hroom : p.tally.rules < window.size) :
    IdRange.word .sumTooLarge (p.nextId.toNat + 1) = .ok (p.nextId + 1) := by
  rw [IdRange.word, if_pos (h.nextId_lt hroom)]
  rfl

theorem checkedStep_eq (h : Numbered window p) (line : List Char) :
    p.checkedStep window.size line = .ok (p.step window.size line) := by
  have hfate := p.fate_step window.size line
  generalize p.step window.size line = p' at hfate
  cases hfate with
  | rejected rejection hparse =>
    simp only [checkedStep, addLine, hparse]
    rfl
  | duplicate r hparse hseen =>
    simp only [checkedStep, addLine, hparse]
    exact if_pos hseen
  | taken r hparse hnew hroom =>
    have hword := h.word_nextId hroom
    simp only [checkedStep, addLine, hparse]
    refine (if_neg hnew).trans ((if_pos hroom).trans ?_)
    rw [hword]
    rfl
  | truncated r hparse hnew hfull =>
    simp only [checkedStep, addLine, hparse]
    exact (if_neg hnew).trans (if_neg hfull)

theorem foldlM_eq (h : Numbered window p) (lines : List (List Char)) :
    lines.foldlM (checkedStep window.size) p = .ok (lines.foldl (Progress.step window.size) p) := by
  induction lines generalizing p with
  | nil => rfl
  | cons line lines ih =>
    rw [List.foldlM_cons, h.checkedStep_eq line]
    exact ih (h.step line)

end Numbered

end Progress

/-- `compile`, with a fault where an id is too large -/
def checkedCompile (text : List Char) (window : IdRange) : Except IdRange.Fault Compiled := do
  let p ← (Text.lines text).foldlM (Progress.checkedStep window.size) { nextId := window.start }
  return ⟨p.rules.reverse, p.tally⟩

/-! ## whole texts -/

theorem length_rules_compile_le (text : List Char) (window : IdRange) :
    (compile text window).rules.length ≤ window.size := by
  have hrules := congrArg List.length
    ((Progress.Follows.new 0 window).foldl (Text.lines text)).effects
  rw [List.length_map, List.length_map] at hrules
  show List.length (List.reverse _) ≤ _
  rw [hrules]
  exact List.length_take_le _ _

theorem contains_of_mem_compile {text : List Char} {window : IdRange} {r : Rule}
    (h : r ∈ (compile text window).rules) : window.contains r.id = true := by
  have hid := List.mem_map_of_mem (f := fun r : Rule => r.id.toNat) h
  have hle := length_rules_compile_le text window
  rw [toNat_ids_compile, List.mem_range'_1] at hid
  rw [IdRange.size] at hle
  rw [IdRange.contains_iff]
  omega

/-- A text is compiled to the rules of the lines that do something new, as far as the window has
room, and no sum is too large. The rules are numbered by their places, and no two do the same. -/
theorem compile_eq_kept (probe : RuleId) (text : List Char) (window : IdRange) :
    let rules := (compile text window).rules
    checkedCompile text window = .ok (compile text window) ∧
      rules.map Except.ok = ((firsts probe [] (accepted probe (Text.lines text))).take
        window.size).mapIdx (fun i line => Filter.parse line (window.start + i.toUInt32)) ∧
      rules.map (fun r => r.id.toNat) = List.range' window.start.toNat rules.length ∧
      (∀ r ∈ rules, window.contains r.id = true) ∧
      (rules.map Rule.effect).Nodup := by
  have hfollows := (Progress.Follows.new probe window).foldl (Text.lines text)
  refine ⟨?_, hfollows.rules, toNat_ids_compile text window, fun r => contains_of_mem_compile, ?_⟩
  · rw [checkedCompile, (Progress.Numbered.new window).foldlM_eq]
    rfl
  · have hnodup := (nodup_firsts probe [] (accepted probe (Text.lines text))).1
    have hkept := hnodup.sublist ((List.take_sublist window.size _).map _)
    rw [← kept, ← List.nil_append (Text.lines text), ← hfollows.effects] at hkept
    exact (List.pairwise_map.mp hkept).map _ fun a b hne heq => hne (congrArg some heq)

end FilterList

end Blocklist
