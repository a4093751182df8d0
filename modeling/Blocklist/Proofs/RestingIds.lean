import Mathlib.Data.List.TakeWhile
import Blocklist.Proofs.AllocatorRuns

/-!
# Released ids rest

All requests of a run share one cursor, and no other operation moves it. So the ids that the
requests look at, one request after the other, are those of one walk round the range, whatever is
released or reserved meanwhile. It comes back to an id only after it has been at every other one.

* `IdAllocator.offered`, `IdAllocator.Sound.offered_eq`   the ids that a request looks at;
* `IdAllocator.Sound.offered_step`       one operation goes on with the walk;
* `IdAllocator.before`, `IdAllocator.answer?`   the allocator at a step of a run, and the id that
                                         the step hands out;
* `IdAllocator.offered_between`          the operations between two steps go on with the walk;
* `IdAllocator.offered_until_answer`     the walk to an id that is handed out;
* `IdAllocator.rests_for_a_round`        between two steps that hand out the same id every other id
                                         is offered.
-/

namespace Blocklist

/-! ## rounds -/

namespace IdRange

variable {r : IdRange} {k n : Nat} (hsize : 0 < r.size)
include hsize

/-- the way on from an id does not depend on the rounds before it -/
theorem turn_add_congr (h : r.turn k = r.turn n) (i : Nat) : r.turn (k + i) = r.turn (n + i) := by
  have hnat := congrArg UInt32.toNat h
  rw [toNat_turn hsize, toNat_turn hsize] at hnat
  have hmod : k ≡ n [MOD r.size] := Nat.add_left_cancel hnat
  apply UInt32.toNat_inj.mp
  rw [toNat_turn hsize, toNat_turn hsize, hmod.add_right i]

/-- every other id is less than a round away -/
theorem exists_turn_succ {id : RuleId} (h : r.contains id = true) (hne : id ≠ r.turn k) :
    ∃ i, i + 1 < r.size ∧ id = r.turn (k + 1 + i) := by
  have hsubset : ((List.range r.size).map fun i => r.turn (k + i)) ⊆ r.ids := by
    intro id hid
    obtain ⟨i, -, rfl⟩ := List.mem_map.mp hid
    exact mem_ids.mpr (contains_turn hsize (k + i))
  have hperm := ((nodup_turns hsize k).subperm hsubset).perm_of_length_le
    (by rw [length_ids, List.length_map, List.length_range])
  obtain ⟨i, hi, rfl⟩ := List.mem_map.mp (hperm.mem_iff.mpr (mem_ids.mpr h))
  cases i with
  | zero => exact absurd rfl hne
  | succ i =>
    refine ⟨i, List.mem_range.mp hi, ?_⟩
    rw [Nat.add_assoc, Nat.add_comm 1 i]

/-- it takes a whole round to come back to an id -/
theorem size_le_of_turn_eq (h : r.turn k = r.turn (k + 1 + n)) : r.size ≤ n + 1 := by
  refine Nat.le_of_not_lt fun hlt => ?_
  rw [Nat.add_assoc, Nat.add_comm 1 n] at h
  exact absurd (turn_inj hsize (i := 0) hsize hlt h) (Nat.succ_ne_zero n).symm

end IdRange

namespace IdAllocator

variable {a a' : IdAllocator} {id : RuleId} {range : IdRange} {k : Nat}

/-! ## what a request looks at -/

/-- The ids that a request offers, in the order of the search: it passes by those that are issued
and hands out the last one. -/
def offered (a : IdAllocator) : List RuleId :=
  match a.allocate with
  | none => []
  | some (id, _) => a.offers.takeWhile (· ∈ a.issued) ++ [id]

theorem mem_offered (h : id ∈ a.offered) :
    a.allocate.map Prod.fst = some id ∨ id ∈ a.issued := by
  rw [offered] at h
  split at h
  · cases h
  · next found _ halloc =>
    rcases List.mem_append.mp h with hpassed | hlast
    · have hissued := List.mem_takeWhile_imp hpassed
      exact .inr (of_decide_eq_true hissued)
    · rw [halloc, List.mem_singleton.mp hlast]
      exact .inl rfl

section
variable (hrange : a.range = range)
include hrange

theorem Sound.offers_eq_turns (h : a.Sound) (hsize : 0 < range.size)
    (hk : a.wrap a.cursor = range.turn k) :
    a.offers = (List.range range.size).map fun i => range.turn (k + i) := by
  subst hrange
  obtain ⟨n, hn, hoffers⟩ := h.offers_eq hsize
  rw [hoffers]
  exact List.map_congr_left fun i _ => IdRange.turn_add_congr hsize (hn.symm.trans hk) i

/-- A request looks at the ids from the cursor to the one that it hands out. -/
theorem Sound.offered_eq (h : a.Sound) (halloc : a.allocate = some (id, a'))
    (hk : a.wrap a.cursor = range.turn k) :
    ∃ n, id = range.turn (k + n) ∧
      a.offered = (List.range (n + 1)).map fun i => range.turn (k + i) := by
  subst hrange
  have hsize := IdRange.size_pos_of_contains (allocate_eq_some halloc).1
  obtain ⟨n, hn, rfl, hpassed, hfree⟩ := allocate_eq_turn halloc hk
  refine ⟨n, rfl, ?_⟩
  obtain ⟨rest, hrest⟩ : ∃ rest, a.range.size = n + 1 + rest := Nat.exists_eq_add_of_le hn
  have hissued : ∀ id ∈ (List.range n).map fun i => a.range.turn (k + i),
      decide (id ∈ a.issued) = true := by
    intro id hid
    obtain ⟨i, hi, rfl⟩ := List.mem_map.mp hid
    exact decide_eq_true (hpassed i (List.mem_range.mp hi))
  have hoffers := h.offers_eq_turns rfl hsize hk
  rw [hrest, List.range_add, List.range_succ, List.map_append, List.map_append, List.map_singleton,
    List.append_assoc, List.singleton_append] at hoffers
  rw [offered, halloc, List.range_succ, List.map_append, List.map_singleton, hoffers]
  dsimp only
  rw [List.takeWhile_append_of_pos hissued,
    List.takeWhile_cons_of_neg (by rwa [decide_eq_true_eq]), List.append_nil]

/-! ## one step of a run -/

/-- behind an id that is handed out the next one has its turn -/
theorem wrap_cursor_of_allocate (halloc : a.allocate = some (range.turn k, a')) :
    a'.wrap a'.cursor = range.turn (k + 1) := by
  subst hrange
  obtain ⟨hinside, -, rfl⟩ := allocate_eq_some halloc
  exact wrap_turn_succ (IdRange.size_pos_of_contains hinside) k

/-- One operation goes on with the walk: from the cursor before it to the cursor after it there are
only ids that it has offered. -/
theorem Sound.offered_step (h : a.Sound) (hk : a.wrap a.cursor = range.turn k) (op : Operation) :
    ∃ n, (op.run a).wrap (op.run a).cursor = range.turn (k + n) ∧
      ∀ i < n, op = .allocate ∧ range.turn (k + i) ∈ a.offered := by
  have hnothing : ∀ i < 0, op = .allocate ∧ range.turn (k + i) ∈ a.offered :=
    fun i hi => absurd hi (Nat.not_lt_zero i)
  cases op with
  | allocate =>
    rw [Operation.run]
    rcases halloc : a.allocate with _ | ⟨id, a'⟩
    · exact ⟨0, hk, hnothing⟩
    · obtain ⟨n, rfl, hoffered⟩ := h.offered_eq hrange halloc hk
      refine ⟨n + 1, wrap_cursor_of_allocate hrange halloc, fun i hi => ⟨rfl, ?_⟩⟩
      rw [hoffered]
      exact List.mem_map_of_mem (List.mem_range.mpr hi)
  -- nothing else moves the cursor
  | reserve id =>
    rw [Operation.run, IdAllocator.reserve]
    split <;> exact ⟨0, hk, hnothing⟩
  | release id => exact ⟨0, hk, hnothing⟩
  | reset ids => exact ⟨0, hk, hnothing⟩

end

/-! ## the walk of a run -/

/-- the allocator before step `k` of a run -/
def before (range : IdRange) (ops : List Operation) (k : Nat) : IdAllocator :=
  (ops.take k).foldl Operation.run (.new range)

/-- the id that step `k` of a run hands out -/
def answer? (range : IdRange) (ops : List Operation) (k : Nat) : Option RuleId :=
  if ops[k]? = some .allocate then (before range ops k).allocate.map Prod.fst else none

variable {ops : List Operation} {i j : Nat}

theorem reachable_before : Reachable range (before range ops k) := Reachable.new.foldl _

theorem before_succ_of_some {op : Operation} (h : ops[k]? = some op) :
    before range ops (k + 1) = op.run (before range ops k) := by
  rw [before, List.take_add_one, h, Option.toList_some, List.foldl_concat]
  rfl

theorem before_succ_of_none (h : ops[k]? = none) :
    before range ops (k + 1) = before range ops k := by
  rw [before, List.take_add_one, h, Option.toList_none, List.append_nil]
  rfl

theorem answer?_eq_some_iff :
    answer? range ops k = some id ↔
      ops[k]? = some .allocate ∧ ∃ a, (before range ops k).allocate = some (id, a) := by
  simp [answer?]

/-- The requests between two steps offer all that is between the cursors there. -/
theorem offered_between (hij : i ≤ j)
    (hk : (before range ops i).wrap (before range ops i).cursor = range.turn k) :
    ∃ n, (before range ops j).wrap (before range ops j).cursor = range.turn (k + n) ∧
      ∀ t < n, ∃ m, i ≤ m ∧ m < j ∧ ops[m]? = some .allocate ∧
        range.turn (k + t) ∈ (before range ops m).offered := by
  induction j, hij using Nat.le_induction with
  | base => exact ⟨0, hk, fun t ht => absurd ht (Nat.not_lt_zero t)⟩
  | succ j hij ih =>
    obtain ⟨n, hn, hbetween⟩ := ih
    have hearlier : ∀ t < n, ∃ m, i ≤ m ∧ m < j + 1 ∧ ops[m]? = some .allocate ∧
        range.turn (k + t) ∈ (before range ops m).offered := fun t ht => by
      obtain ⟨m, him, hmj, hm⟩ := hbetween t ht
      exact ⟨m, him, Nat.lt_succ_of_lt hmj, hm⟩
    rcases hop : ops[j]? with _ | op
    · rw [before_succ_of_none hop]
      exact ⟨n, hn, hearlier⟩
    · have reachable : Reachable range (before range ops j) := reachable_before
      obtain ⟨l, hl, hlast⟩ := reachable.sound.offered_step reachable.range_eq hn op
      rw [before_succ_of_some hop]
      refine ⟨n + l, by rw [← Nat.add_assoc, hl], fun t ht => ?_⟩
      by_cases htn : t < n
      · exact hearlier t htn
      · obtain ⟨rfl, hoffered⟩ := hlast (t - n) (by omega)
        rw [Nat.add_assoc, Nat.add_sub_cancel' (Nat.not_lt.mp htn)] at hoffered
        exact ⟨j, hij, Nat.lt_succ_self j, hop, hoffered⟩

/-- The requests up to one that hands out an id offer all that is from a cursor to that id. -/
theorem offered_until_answer {x : RuleId} (hij : i ≤ j)
    (hk : (before range ops i).wrap (before range ops i).cursor = range.turn k)
    (hj : answer? range ops j = some x) :
    ∃ n, x = range.turn (k + n) ∧ ∀ t ≤ n, ∃ m, i ≤ m ∧ m ≤ j ∧ ops[m]? = some .allocate ∧
      range.turn (k + t) ∈ (before range ops m).offered := by
  obtain ⟨hop, _, halloc⟩ := answer?_eq_some_iff.mp hj
  have reachable : Reachable range (before range ops j) := reachable_before
  obtain ⟨n, hn, hbetween⟩ := offered_between hij hk
  obtain ⟨l, rfl, hoffered⟩ := reachable.sound.offered_eq reachable.range_eq halloc hn
  refine ⟨n + l, by rw [Nat.add_assoc], fun t ht => ?_⟩
  by_cases htn : t < n
  · obtain ⟨m, him, hmj, hm⟩ := hbetween t htn
    exact ⟨m, him, Nat.le_of_lt hmj, hm⟩
  · refine ⟨j, hij, Nat.le_refl j, hop, ?_⟩
    rw [hoffered]
    refine List.mem_map.mpr ⟨t - n, List.mem_range.mpr (by omega), ?_⟩
    rw [Nat.add_assoc, Nat.add_sub_cancel' (Nat.not_lt.mp htn)]

theorem contains_of_answer (h : answer? range ops k = some id) : range.contains id = true := by
  obtain ⟨-, _, halloc⟩ := answer?_eq_some_iff.mp h
  rw [← (reachable_before : Reachable range (before range ops k)).range_eq]
  exact (allocate_eq_some halloc).1

theorem wrap_cursor_of_answer (h : answer? range ops i = some (range.turn k)) :
    (before range ops (i + 1)).wrap (before range ops (i + 1)).cursor = range.turn (k + 1) := by
  obtain ⟨hop, _, halloc⟩ := answer?_eq_some_iff.mp h
  have reachable : Reachable range (before range ops i) := reachable_before
  rw [before_succ_of_some hop, Operation.run, halloc]
  exact wrap_cursor_of_allocate reachable.range_eq halloc

theorem answer_or_issued_of_offered (hop : ops[k]? = some .allocate)
    (h : id ∈ (before range ops k).offered) :
    answer? range ops k = some id ∨ id ∈ (before range ops k).issued := by
  rw [answer?, if_pos hop]
  exact mem_offered h

/-- An id that a run hands out a second time has rested for a round: after the first time every
other id of the range was offered, so that a request handed it out or found it issued. -/
theorem rests_for_a_round {x : RuleId} (hij : i < j) (hi : answer? range ops i = some x)
    (hj : answer? range ops j = some x) :
    ∀ y, range.contains y = true → y ≠ x →
      ∃ k, i < k ∧ k ≤ j ∧ ops[k]? = some .allocate ∧ y ∈ (before range ops k).offered ∧
        (answer? range ops k = some y ∨ y ∈ (before range ops k).issued) := by
  intro y hy hne
  have hx := contains_of_answer hi
  have hsize := IdRange.size_pos_of_contains hx
  obtain ⟨k, rfl⟩ := IdRange.exists_turn hx
  -- the walk goes from behind the id to the id again, and all others are on the way
  obtain ⟨n, hid, hoffered⟩ := offered_until_answer hij (wrap_cursor_of_answer hi) hj
  have hround := IdRange.size_le_of_turn_eq hsize hid
  obtain ⟨t, ht, rfl⟩ := IdRange.exists_turn_succ hsize hy hne
  obtain ⟨m, him, hmj, hop, hm⟩ := hoffered t (by omega)
  exact ⟨m, him, hmj, hop, hm, answer_or_issued_of_offered hop hm⟩

/-- The first id of a range that ends at the largest word is handed out again, after one of the other
two was handed out and one, reserved for a while, was passed by. -/
theorem rests_for_a_round_reserved :
    let range : IdRange := ⟨4294967292, 4294967295⟩
    let ops : List Operation :=
      [.allocate, .reserve 4294967293, .release 4294967292, .allocate, .release 4294967293,
        .allocate]
    answer? range ops 0 = some 4294967292 ∧ answer? range ops 5 = some 4294967292 ∧
    range.contains 4294967293 = true ∧
    ∃ k, 0 < k ∧ k ≤ 5 ∧ ops[k]? = some .allocate ∧ 4294967293 ∈ (before range ops k).offered ∧
      (answer? range ops k = some 4294967293 ∨ 4294967293 ∈ (before range ops k).issued) := by
  intro range ops
  have hfirst : answer? range ops 0 = some 4294967292 := by decide +kernel
  have hsecond : answer? range ops 5 = some 4294967292 := by decide +kernel
  have hinside : range.contains 4294967293 = true := by decide
  exact ⟨hfirst, hsecond, hinside,
    rests_for_a_round (by decide) hfirst hsecond 4294967293 hinside (by decide)⟩

end IdAllocator

end Blocklist
