import Mathlib.Data.List.Rotate
import Blocklist.Proofs.FreeIds

/-!
# What an allocator hands out

The search for an id has no end of its own: it goes on until it meets an id that is not issued. It
comes to one, since in every run only ids of the range are issued, and fewer than the range has when
the search begins. All sums on the way fit into a word, also in a range that ends at the largest one.

* `IdAllocator.Search`                  the search, look by look;
* `IdAllocator.offers`                  the ids of the range, in the order of the search;
* `IdAllocator.Operation`, `IdAllocator.Reachable`   runs of an allocator;
* `IdAllocator.Sound`                   what every operation preserves;
* `IdAllocator.AllocatesExactly`        which id is handed out, when there is none, and what changes;
* `IdAllocator.Reachable.allocates_exactly`   that is so at the end of every run.
-/

namespace Blocklist

namespace IdRange

variable {r : IdRange} {id : RuleId} (h : r.contains id = true)
include h

theorem size_pos_of_contains : 0 < r.size := by
  rw [contains_iff] at h
  rw [size]
  omega

/-- after an id of a range there is another word -/
theorem succ_lt_of_contains : id.toNat + 1 < UInt32.size := by
  have hstop := r.stop.toNat_lt
  have hsize : UInt32.size = 2 ^ 32 := rfl
  rw [contains_iff] at h
  omega

theorem toNat_succ_of_contains : (id + 1).toNat = id.toNat + 1 := by
  rw [UInt32.toNat_add]
  exact Nat.mod_eq_of_lt (succ_lt_of_contains h)

end IdRange

namespace IdAllocator

variable {a a' : IdAllocator} {id : RuleId} {range : IdRange}

/-! ## the search -/

/-- The search for an id, from `id` on: outside the range it goes on at the start of it, and an issued
id is passed by, the next number being a word as well. It ends at the id `found`. -/
inductive Search (a : IdAllocator) : RuleId → RuleId → Prop where
  | free {id : RuleId} (h : a.wrap id ∉ a.issued) : Search a id (a.wrap id)
  | issued {id found : RuleId} (h : a.wrap id ∈ a.issued)
      (fits : (a.wrap id).toNat + 1 < UInt32.size) (rest : Search a (a.wrap id + 1) found) :
      Search a id found

/-- the ids of the range from the cursor to the end, and then from the start to the cursor -/
def offers (a : IdAllocator) : List RuleId :=
  let passed := a.cursor.toNat - a.range.start.toNat
  a.range.ids.drop passed ++ a.range.ids.take passed

theorem mem_offers : id ∈ a.offers ↔ a.range.contains id = true := by
  rw [offers, List.mem_append, or_comm, ← List.mem_append, List.take_append_drop, IdRange.mem_ids]

/-- the search passes issued ids by, going round, until it meets one that is not -/
theorem search_turn (hsize : 0 < a.range.size) {k j : Nat} (hk : a.wrap id = a.range.turn k)
    (hpassed : ∀ i < j, a.range.turn (k + i) ∈ a.issued) (hfree : a.range.turn (k + j) ∉ a.issued) :
    Search a id (a.range.turn (k + j)) := by
  induction j generalizing id k with
  | zero =>
    rw [Nat.add_zero, ← hk] at hfree ⊢
    exact .free hfree
  | succ j ih =>
    have hissued := hpassed 0 (Nat.succ_pos j)
    rw [Nat.add_zero, ← hk] at hissued
    have hinside : a.range.contains (a.wrap id) = true := by
      rw [hk]
      exact IdRange.contains_turn hsize k
    have hshift (i : Nat) : k + (i + 1) = k + 1 + i := by omega
    rw [hshift] at hfree ⊢
    refine .issued hissued (IdRange.succ_lt_of_contains hinside) (ih ?_ (fun i hi => ?_) hfree)
    · rw [hk]
      exact wrap_turn_succ hsize k
    · rw [← hshift]
      exact hpassed (i + 1) (Nat.succ_lt_succ hi)

/-! ## runs -/

inductive Operation where
  | allocate
  | reserve (id : RuleId)
  | release (id : RuleId)
  | reset (ids : List RuleId)
  deriving DecidableEq, Repr

/-- the allocator after an operation, whatever the answer is -/
def Operation.run (a : IdAllocator) : Operation → IdAllocator
  | allocate => (a.allocate.map Prod.snd).getD a
  | reserve id => (a.reserve id).2
  | release id => (a.release id).2
  | reset ids => a.reset ids

/-- An allocator after any operations, from a new one for the range. -/
inductive Reachable (range : IdRange) : IdAllocator → Prop where
  | new : Reachable range (.new range)
  | step {a : IdAllocator} (h : Reachable range a) (op : Operation) : Reachable range (op.run a)

/-- Only ids of the range are issued, and the cursor is at one of them or at the end. -/
structure Sound (a : IdAllocator) : Prop where
  within : a.Within
  start_le : a.range.start ≤ a.cursor
  le_stop : 0 < a.range.size → a.cursor ≤ a.range.stop

theorem Within.insert (h : a.Within) (hid : a.range.contains id = true) {cursor : RuleId} :
    Within { a with issued := a.issued.insert id, cursor } := by
  intro id' hid'
  rcases Std.ExtTreeSet.mem_insert.mp hid' with heq | hid'
  · rw [← Std.compare_eq_iff_eq.mp heq]
    exact hid
  · exact h id' hid'

theorem sound_new (range : IdRange) : Sound (.new range) := by
  refine ⟨fun id hid => absurd hid Std.ExtTreeSet.not_mem_empty, UInt32.le_refl _, fun hsize => ?_⟩
  show range.start ≤ range.stop
  rw [UInt32.le_iff_toNat_le]
  change 0 < range.stop.toNat - range.start.toNat at hsize
  omega

namespace Sound

variable (h : a.Sound)
include h

theorem allocate (halloc : a.allocate = some (id, a')) : a'.Sound := by
  obtain ⟨hinside, -, rfl⟩ := allocate_eq_some halloc
  have hsucc := IdRange.toNat_succ_of_contains hinside
  have hrange := IdRange.contains_iff.mp hinside
  refine ⟨h.within.insert hinside, ?_, fun _ => ?_⟩
  · show a.range.start ≤ id + 1
    rw [UInt32.le_iff_toNat_le, hsucc]
    omega
  · show id + 1 ≤ a.range.stop
    rw [UInt32.le_iff_toNat_le, hsucc]
    omega

theorem reserve (id : RuleId) : (a.reserve id).2.Sound := by
  rw [IdAllocator.reserve]
  split
  · next hinside => exact ⟨h.within.insert hinside, h.start_le, h.le_stop⟩
  · exact h

theorem release (id : RuleId) : (a.release id).2.Sound :=
  ⟨fun id' hid' => h.within id' (Std.ExtTreeSet.mem_of_mem_erase hid'), h.start_le, h.le_stop⟩

theorem reset (ids : List RuleId) : (a.reset ids).Sound := by
  refine ⟨fun id hid => ?_, h.start_le, h.le_stop⟩
  change id ∈ (a.reset ids).issued at hid
  rw [IdAllocator.reset, Std.ExtTreeSet.mem_ofList, List.contains_iff_mem] at hid
  exact (List.mem_filter.mp hid).2

theorem run (op : Operation) : (op.run a).Sound := by
  cases op with
  | allocate =>
    rw [Operation.run]
    rcases halloc : a.allocate with _ | ⟨id, a'⟩
    · exact h
    · exact h.allocate halloc
  | reserve id => exact h.reserve id
  | release id => exact h.release id
  | reset ids => exact h.reset ids

end Sound

theorem range_run (a : IdAllocator) (op : Operation) : (op.run a).range = a.range := by
  cases op with
  | allocate =>
    rw [Operation.run]
    rcases halloc : a.allocate with _ | ⟨id, a'⟩
    · rfl
    · obtain ⟨-, -, rfl⟩ := allocate_eq_some halloc
      rfl
  | reserve id =>
    rw [Operation.run, reserve]
    split <;> rfl
  | release id => rfl
  | reset ids => rfl

theorem Reachable.sound (h : Reachable range a) : a.Sound := by
  induction h with
  | new => exact sound_new range
  | step _ op ih => exact ih.run op

/-- several operations, one after the other -/
theorem Reachable.foldl (h : Reachable range a) (ops : List Operation) :
    Reachable range (ops.foldl Operation.run a) := by
  induction ops generalizing a with
  | nil => exact h
  | cons op ops ih => exact ih (h.step op)

theorem Reachable.range_eq (h : Reachable range a) : a.range = range := by
  induction h with
  | new => rfl
  | step _ op ih => rw [range_run, ih]

/-! ## the id that is handed out -/

/-- where the search begins, and the ids in the order of the search -/
theorem Sound.offers_eq (h : a.Sound) (hsize : 0 < a.range.size) :
    ∃ k, a.wrap a.cursor = a.range.turn k ∧
      a.offers = (List.range a.range.size).map fun i => a.range.turn (k + i) := by
  have hstart := UInt32.le_iff_toNat_le.mp h.start_le
  have hstop := UInt32.le_iff_toNat_le.mp (h.le_stop hsize)
  have hend : a.range.size = a.range.stop.toNat - a.range.start.toNat := rfl
  refine ⟨a.cursor.toNat - a.range.start.toNat, UInt32.toNat_inj.mp ?_, ?_⟩
  · rw [IdRange.toNat_turn hsize, wrap]
    by_cases hlast : a.cursor.toNat < a.range.stop.toNat
    · rw [if_pos (IdRange.contains_iff.mpr ⟨hstart, hlast⟩), Nat.mod_eq_of_lt (by omega)]
      omega
    · rw [if_neg fun hinside => hlast (IdRange.contains_iff.mp hinside).2,
        show a.cursor.toNat - a.range.start.toNat = a.range.size by omega, Nat.mod_self,
        Nat.add_zero]
  · have hpassed : a.cursor.toNat - a.range.start.toNat ≤ a.range.ids.length := by
      rw [IdRange.length_ids]
      omega
    rw [offers, ← List.rotate_eq_drop_append_take hpassed]
    refine List.ext_getElem ?_ fun i hi hi' => ?_
    · rw [List.length_rotate, IdRange.length_ids, List.length_map, List.length_range]
    · rw [List.getElem_rotate, List.getElem_map, List.getElem_range, IdRange.turn]
      simp only [IdRange.ids, List.getElem_map, List.getElem_range', List.length_map,
        List.length_range', Nat.one_mul, Nat.add_comm i]

/-- the search ends on the first way round -/
theorem allocate_eq_turn (h : a.allocate = some (id, a')) {k : Nat}
    (hk : a.wrap a.cursor = a.range.turn k) :
    ∃ j < a.range.size, id = a.range.turn (k + j) ∧
      (∀ i < j, a.range.turn (k + i) ∈ a.issued) ∧ a.range.turn (k + j) ∉ a.issued := by
  rw [allocate] at h
  split at h
  · next hroom =>
    have hsize : 0 < a.range.size := Nat.zero_lt_of_lt hroom
    obtain ⟨j, hj, hend, hpassed, hfree⟩ := firstFree_eq_turn hsize hk
    have hlt : j < a.range.size := by
      refine Nat.lt_of_le_of_ne hj ?_
      rintro rfl
      exact absurd (size_le_of_turns hsize hpassed) (Nat.not_le.mpr hroom)
    cases h
    exact ⟨j, hlt, hend, hpassed, hfree hlt⟩
  · cases h

/-- What becomes of a request for an id. -/
structure AllocatesExactly (a : IdAllocator) : Prop where
  none_iff : a.allocate = none ↔ a.issued.size = a.range.size
  first : a.allocate.map Prod.fst = a.offers.find? fun id => id ∉ a.issued
  search : ∀ id a', a.allocate = some (id, a') → Search a a.cursor id
  issues : ∀ id a', a.allocate = some (id, a') → ∀ id', id' ∈ a'.issued ↔ id' = id ∨ id' ∈ a.issued
  cursor : ∀ id a', a.allocate = some (id, a') → a'.cursor.toNat = id.toNat + 1

theorem Sound.allocatesExactly (h : a.Sound) : a.AllocatesExactly where
  none_iff := h.within.allocate_eq_none_iff
  first := by
    rcases halloc : a.allocate with _ | ⟨id, a'⟩
    · have hall := h.within.size_eq_iff.mp (h.within.allocate_eq_none_iff.mp halloc)
      refine (List.find?_eq_none.mpr fun id hid => ?_).symm
      rw [decide_eq_true_eq, not_not]
      exact hall id (mem_offers.mp hid)
    · have hsize := IdRange.size_pos_of_contains (allocate_eq_some halloc).1
      obtain ⟨k, hk, hoffers⟩ := h.offers_eq hsize
      obtain ⟨j, hj, rfl, hpassed, hfree⟩ := allocate_eq_turn halloc hk
      have hfirst : (List.range a.range.size).find?
          ((fun id => decide (id ∉ a.issued)) ∘ fun i => a.range.turn (k + i)) = some j := by
        refine List.find?_range_eq_some.mpr ⟨decide_eq_true hfree, List.mem_range.mpr hj, ?_⟩
        intro i hi
        simp [hpassed i hi]
      rw [hoffers, List.find?_map, hfirst]
      rfl
  search id a' halloc := by
    have hsize := IdRange.size_pos_of_contains (allocate_eq_some halloc).1
    obtain ⟨k, hk, -⟩ := h.offers_eq hsize
    obtain ⟨j, hj, rfl, hpassed, hfree⟩ := allocate_eq_turn halloc hk
    exact search_turn hsize hk hpassed hfree
  issues id a' halloc id' := by
    obtain ⟨-, -, rfl⟩ := allocate_eq_some halloc
    rw [Std.ExtTreeSet.mem_insert, Std.compare_eq_iff_eq, eq_comm]
  cursor id a' halloc := by
    obtain ⟨hinside, -, rfl⟩ := allocate_eq_some halloc
    exact IdRange.toNat_succ_of_contains hinside

/-- At the end of every run only ids of the range are issued, the cursor is in it, and an id is
handed out as long as there is one: the first from the cursor on that is free. -/
theorem Reachable.allocates_exactly (h : Reachable range a) :
    a.range = range ∧ (∀ id, id ∈ a.issued → range.contains id = true) ∧
      (range.start < range.stop → range.start ≤ a.cursor ∧ a.cursor ≤ range.stop) ∧
      a.AllocatesExactly := by
  obtain rfl := h.range_eq
  refine ⟨rfl, h.sound.within, fun hlt => ⟨h.sound.start_le, h.sound.le_stop ?_⟩,
    h.sound.allocatesExactly⟩
  rw [UInt32.lt_iff_toNat_lt] at hlt
  rw [IdRange.size]
  omega

/-- a range that ends at the largest word; the cursor is at its end, and its first id is free again -/
theorem allocates_exactly_at_end :
    let range : IdRange := ⟨4294967292, 4294967295⟩
    let a := [.allocate, .allocate, .release 4294967292, .allocate].foldl Operation.run (.new range)
    Reachable range a ∧ a.cursor = 4294967295 ∧ a.offers = [4294967292, 4294967293, 4294967294] ∧
    a.allocate.map Prod.fst = some 4294967292 ∧ Search a a.cursor 4294967292 ∧
    a.AllocatesExactly := by
  intro range a
  have reachable : Reachable range a := Reachable.new.foldl _
  have hcursor : a.cursor = 4294967295 := by decide +kernel
  have hoffers : a.offers = [4294967292, 4294967293, 4294967294] := by decide +kernel
  obtain ⟨-, -, -, exactly⟩ := Reachable.allocates_exactly reachable
  have hfirst : a.allocate.map Prod.fst = some 4294967292 := by
    rw [exactly.first, hoffers]
    decide +kernel
  obtain ⟨⟨id, a'⟩, halloc, rfl⟩ := Option.map_eq_some_iff.mp hfirst
  exact ⟨reachable, hcursor, hoffers, hfirst, exactly.search _ a' halloc, exactly⟩

end IdAllocator

end Blocklist
