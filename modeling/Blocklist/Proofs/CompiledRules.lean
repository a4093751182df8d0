import Mathlib.Data.List.Range
import Blocklist.FilterList
import Blocklist.Proofs.CustomFilterTables

/-!
# The rules of a compiled text

A text is compiled line by line. A line that becomes a rule gets the next id, as long as the window
has room.

* `FilterList.Progress.Fate`           all that can come of a line;
* `FilterList.Progress.Numbered`       what every line preserves: ids follow one another from the
                                       start of the window on;
* `FilterList.toNat_ids_compile`       the ids of the rules that a text is compiled to;
* `FilterList.sorted_compile`          these rules are listed by ascending id;
* `FilterList.rules_table`             so they are the rules of the table they lead to.
-/

namespace Blocklist.FilterList

/-! ## line by line -/

/-- what a line can lead to: it is no rule, does what an earlier line does, becomes a rule, or finds
the window full -/
inductive Progress.Fate (room : Nat) (p : Progress) (line : List Char) : Progress → Prop where
  | rejected (rejection : Rejection) (hparse : Filter.parse line p.nextId = .error rejection) :
      Fate room p line { p.addLine with tally := p.addLine.tally.addRejection rejection }
  | duplicate (r : Rule) (hparse : Filter.parse line p.nextId = .ok r)
      (hseen : r.effect ∈ p.seen) :
      Fate room p line { p.addLine with tally.duplicates := p.tally.duplicates + 1 }
  | taken (r : Rule) (hparse : Filter.parse line p.nextId = .ok r)
      (hnew : r.effect ∉ p.seen) (hroom : p.tally.rules < room) :
      Fate room p line
        { p.addLine with
          rules := r :: p.rules
          nextId := p.nextId + 1
          seen := p.seen.insert r.effect
          tally.rules := p.tally.rules + 1 }
  | truncated (r : Rule) (hparse : Filter.parse line p.nextId = .ok r)
      (hnew : r.effect ∉ p.seen) (hfull : ¬ p.tally.rules < room) :
      Fate room p line
        { p.addLine with
          seen := p.seen.insert r.effect
          tally.truncated := p.tally.truncated + 1 }

theorem Progress.fate_step (room : Nat) (p : Progress) (line : List Char) :
    Fate room p line (p.step room line) := by
  unfold Progress.step
  dsimp only
  split
  · rename_i rejection hparse
    exact .rejected rejection hparse
  · rename_i r hparse
    split
    · rename_i hseen
      exact .duplicate r hparse hseen
    · rename_i hnew
      split
      · rename_i hroom
        exact .taken r hparse hnew hroom
      · rename_i hfull
        exact .truncated r hparse hnew hfull

/-- The rules so far are numbered from the start of the window on. -/
structure Progress.Numbered (window : IdRange) (p : Progress) : Prop where
  count : p.tally.rules = p.rules.length
  next : p.nextId.toNat = window.start.toNat + p.rules.length
  ids : p.rules.reverse.map (fun r => r.id.toNat) = List.range' window.start.toNat p.rules.length

namespace Progress.Numbered

variable {window : IdRange} {p : Progress}

theorem new (window : IdRange) : Numbered window { nextId := window.start } where
  count := rfl
  next := rfl
  ids := rfl

/-- The id after the last one of a window is still a 32-bit number. -/
theorem nextId_lt (h : Numbered window p) (hroom : p.tally.rules < window.size) :
    p.nextId.toNat + 1 < UInt32.size := by
  have hstop : window.stop.toNat < UInt32.size := window.stop.toNat_lt
  rw [h.count, IdRange.size] at hroom
  rw [h.next]
  omega

theorem toNat_nextId_succ (h : Numbered window p) (hroom : p.tally.rules < window.size) :
    (p.nextId + 1).toNat = p.nextId.toNat + 1 := by
  rw [UInt32.toNat_add]
  exact Nat.mod_eq_of_lt (h.nextId_lt hroom)

/-- a line that becomes no rule -/
theorem of_same {p' : Progress} (h : Numbered window p) (rules : p'.rules = p.rules)
    (nextId : p'.nextId = p.nextId) (count : p'.tally.rules = p.tally.rules) :
    Numbered window p' where
  count := by rw [count, rules, h.count]
  next := by rw [nextId, rules, h.next]
  ids := by rw [rules, h.ids]

theorem step (h : Numbered window p) (line : List Char) :
    Numbered window (p.step window.size line) := by
  have hfate := p.fate_step window.size line
  generalize p.step window.size line = p' at hfate
  cases hfate with
  | rejected rejection hparse =>
    refine h.of_same rfl rfl ?_
    cases rejection <;> rfl
  | duplicate r hparse hseen => exact h.of_same rfl rfl rfl
  | taken r hparse hnew hroom =>
    have hid : r.id = p.nextId := Filter.id_of_parse hparse
    refine ⟨?_, ?_, ?_⟩
    · show p.tally.rules + 1 = _
      rw [h.count]
      rfl
    · show (p.nextId + 1).toNat = window.start.toNat + (p.rules.length + 1)
      rw [h.toNat_nextId_succ hroom, h.next, Nat.add_assoc]
    · show (r :: p.rules).reverse.map _ = List.range' _ (p.rules.length + 1)
      rw [List.reverse_cons, List.map_append, h.ids, List.range'_concat, List.map_singleton,
        hid, h.next, Nat.one_mul]
  | truncated r hparse hnew hfull => exact h.of_same rfl rfl rfl

theorem foldl (h : Numbered window p) (lines : List (List Char)) :
    Numbered window (lines.foldl (Progress.step window.size) p) := by
  induction lines generalizing p with
  | nil => exact h
  | cons line lines ih => exact ih (h.step line)

end Progress.Numbered

/-! ## whole texts -/

section
variable (text : List Char) (window : IdRange)

/-- The rules of a text are numbered one after another from the start of its window on. -/
theorem toNat_ids_compile :
    (compile text window).rules.map (fun r => r.id.toNat) =
      List.range' window.start.toNat (compile text window).rules.length := by
  rw [compile, List.length_reverse]
  exact ((Progress.Numbered.new window).foldl (Text.lines text)).ids

/-- as many rules are counted as there are -/
theorem rules_tally_compile :
    (compile text window).tally.rules = (compile text window).rules.length := by
  rw [compile, List.length_reverse]
  exact ((Progress.Numbered.new window).foldl (Text.lines text)).count

theorem sorted_compile : (compile text window).rules.Pairwise fun a b => a.id < b.id := by
  have h : ((compile text window).rules.map fun r => r.id.toNat).Pairwise (· < ·) := by
    rw [toNat_ids_compile]
    exact List.pairwise_lt_range'
  rw [List.pairwise_map] at h
  exact h.imp UInt32.lt_iff_toNat_lt.mpr

end

/-- the table of the rules that a text is compiled to -/
def table (text : String) (window : IdRange) : RuleTable :=
  RuleTable.insertAll ∅ (compile text.toList window).rules

theorem rules_table (text : String) (window : IdRange) :
    (table text window).rules = (compile text.toList window).rules :=
  RuleTable.rules_insertAll_of_sorted (sorted_compile text.toList window)

end Blocklist.FilterList
