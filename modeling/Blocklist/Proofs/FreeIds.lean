import Mathlib.Data.List.Perm.Subperm
import Mathlib.Data.Nat.ModEq
import Blocklist.IdAllocator
import Blocklist.Proofs.IdRanges

/-!
# Ids that an allocator has left

The search for an id goes round the range from the cursor on. As long as fewer ids are issued than
the range has, it ends at one that is not issued, and it looks at no id twice.

* `IdRange.turn`                        the ids of a range, going round;
* `IdAllocator.firstFree_eq_turn`       where the search ends, and what it has passed;
* `IdAllocator.allocate_eq_some`        an id that is handed out was free, and is issued afterwards;
* `IdAllocator.Within`                  only ids of the range are issued: then ids run out exactly
                                        when all of them are.
-/

namespace Blocklist

/-! ## going round a range -/

namespace IdRange

/-- the id that is `k` steps after the start of the range, going round -/
def turn (r : IdRange) (k : Nat) : RuleId := (r.start.toNat + k % r.size).toUInt32

variable {r : IdRange}

theorem exists_turn {id : RuleId} (h : r.contains id = true) : ∃ k, r.turn k = id := by
  rw [contains_iff] at h
  refine ⟨id.toNat - r.start.toNat, ?_⟩
  rw [turn, Nat.mod_eq_of_lt (by rw [size]; omega), Nat.add_sub_cancel' h.1]
  exact UInt32.toNat_inj.mp (toNat_toUInt32 id.toNat_lt)

section
variable (hsize : 0 < r.size)
include hsize

theorem toNat_turn (k : Nat) : (r.turn k).toNat = r.start.toNat + k % r.size := by
  have hstop : r.stop.toNat < UInt32.size := r.stop.toNat_lt
  have hmod := Nat.mod_lt k hsize
  rw [turn]
  apply toNat_toUInt32
  rw [size] at hmod hsize ⊢
  omega

theorem contains_turn (k : Nat) : r.contains (r.turn k) = true := by
  have hmod := Nat.mod_lt k hsize
  rw [contains_iff, toNat_turn hsize]
  rw [size] at hmod hsize ⊢
  omega

/-- no id is met twice on one way round -/
theorem turn_inj {k i j : Nat} (hi : i < r.size) (hj : j < r.size)
    (h : r.turn (k + i) = r.turn (k + j)) : i = j := by
  have hnat := congrArg UInt32.toNat h
  rw [toNat_turn hsize, toNat_turn hsize] at hnat
  have hmod : k + i ≡ k + j [MOD r.size] := Nat.add_left_cancel hnat
  exact (Nat.ModEq.add_left_cancel' k hmod).eq_of_lt_of_lt hi hj

theorem nodup_turns (k : Nat) : ((List.range r.size).map fun i => r.turn (k + i)).Nodup :=
  List.nodup_range.map_on fun _ hi _ hj h =>
    turn_inj hsize (List.mem_range.mp hi) (List.mem_range.mp hj) h

end

end IdRange

/-! ## looking for an id -/

namespace IdAllocator

variable {a a' : IdAllocator} {id : RuleId}

/-- the next id, or the start of the range again -/
theorem wrap_turn_succ (hsize : 0 < a.range.size) (k : Nat) :
    a.wrap (a.range.turn k + 1) = a.range.turn (k + 1) := by
  have hstop := a.range.stop.toNat_lt
  have hmod := Nat.mod_lt k hsize
  have hturn := IdRange.toNat_turn hsize k
  have hnext := IdRange.toNat_turn hsize (k + 1)
  have hend : a.range.start.toNat + a.range.size = a.range.stop.toNat := by
    rw [IdRange.size] at hsize ⊢
    omega
  have hsucc : (a.range.turn k + 1).toNat = (a.range.turn k).toNat + 1 := by
    rw [UInt32.toNat_add]
    exact Nat.mod_eq_of_lt (by show _ + 1 < _; omega)
  rw [← Nat.mod_add_mod] at hnext
  rw [wrap]
  apply UInt32.toNat_inj.mp
  by_cases hlast : k % a.range.size + 1 < a.range.size
  · rw [Nat.mod_eq_of_lt hlast] at hnext
    rw [if_pos, hsucc, hturn, hnext, Nat.add_assoc]
    rw [IdRange.contains_iff, hsucc]
    omega
  · rw [show k % a.range.size + 1 = a.range.size by omega, Nat.mod_self] at hnext
    rw [if_neg, hnext, Nat.add_zero]
    rw [IdRange.contains_iff, hsucc]
    omega

/-- The search ends at the first id that is not issued, or after as many steps as it may take. -/
theorem firstFree_eq_turn (hsize : 0 < a.range.size) {fuel k : Nat}
    (h : a.wrap id = a.range.turn k) :
    ∃ j ≤ fuel, a.firstFree fuel id = a.range.turn (k + j) ∧
      (∀ i < j, a.range.turn (k + i) ∈ a.issued) ∧
      (j < fuel → a.range.turn (k + j) ∉ a.issued) := by
  induction fuel generalizing id k with
  | zero => exact ⟨0, Nat.le_refl 0, h, nofun, nofun⟩
  | succ fuel ih =>
    rw [firstFree, h]
    split
    · next hissued =>
      obtain ⟨j, hj, hend, hpassed, hfree⟩ := ih (wrap_turn_succ hsize k)
      rw [Nat.add_right_comm, Nat.add_assoc] at hend hfree
      refine ⟨j + 1, Nat.succ_le_succ hj, hend, ?_, fun hlt => hfree (Nat.lt_of_succ_lt_succ hlt)⟩
      intro i hi
      cases i with
      | zero => exact hissued
      | succ i =>
        have hi := hpassed i (Nat.lt_of_succ_lt_succ hi)
        rwa [Nat.add_right_comm, Nat.add_assoc] at hi
    · next hfree => exact ⟨0, Nat.zero_le _, rfl, nofun, fun _ => hfree⟩

/-- a way round on which every id is issued -/
theorem size_le_of_turns (hsize : 0 < a.range.size) {k : Nat}
    (h : ∀ i < a.range.size, a.range.turn (k + i) ∈ a.issued) :
    a.range.size ≤ a.issued.size := by
  have hsubset : ((List.range a.range.size).map fun i => a.range.turn (k + i)) ⊆
      a.issued.toList := by
    intro id hid
    obtain ⟨i, hi, rfl⟩ := List.mem_map.mp hid
    exact Std.ExtTreeSet.mem_toList.mpr (h i (List.mem_range.mp hi))
  have hlength := ((IdRange.nodup_turns hsize k).subperm hsubset).length_le
  rwa [List.length_map, List.length_range, Std.ExtTreeSet.length_toList] at hlength

theorem exists_wrap_eq_turn (hsize : 0 < a.range.size) (id : RuleId) :
    ∃ k, a.wrap id = a.range.turn k := by
  rw [wrap]
  split
  · next hinside =>
    obtain ⟨k, hk⟩ := IdRange.exists_turn hinside
    exact ⟨k, hk.symm⟩
  · refine ⟨0, UInt32.toNat_inj.mp ?_⟩
    rw [IdRange.toNat_turn hsize, Nat.zero_mod, Nat.add_zero]

/-- as long as not all ids are issued, the search ends at one that is not -/
theorem firstFree_not_mem (h : a.issued.size < a.range.size) (id : RuleId) :
    a.range.contains (a.firstFree a.range.size id) = true ∧
      a.firstFree a.range.size id ∉ a.issued := by
  have hsize : 0 < a.range.size := Nat.zero_lt_of_lt h
  obtain ⟨k, hk⟩ := exists_wrap_eq_turn hsize id
  obtain ⟨j, hj, hend, hpassed, hfree⟩ := firstFree_eq_turn hsize hk
  rw [hend]
  refine ⟨IdRange.contains_turn hsize _, hfree (Nat.lt_of_le_of_ne hj ?_)⟩
  rintro rfl
  exact absurd (size_le_of_turns hsize hpassed) (Nat.not_le.mpr h)

/-! ## handing out -/

theorem allocate_eq_some (h : a.allocate = some (id, a')) :
    a.range.contains id = true ∧ id ∉ a.issued ∧
      a' = { a with issued := a.issued.insert id, cursor := id + 1 } := by
  rw [allocate] at h
  split at h
  · next hroom =>
    cases h
    obtain ⟨hinside, hfree⟩ := firstFree_not_mem hroom a.cursor
    exact ⟨hinside, hfree, rfl⟩
  · cases h

/-- Only ids of the range are issued. -/
def Within (a : IdAllocator) : Prop := ∀ id, id ∈ a.issued → a.range.contains id = true

namespace Within

variable (within : a.Within)
include within

theorem subperm_ids : a.issued.toList.Subperm a.range.ids := by
  have hnodup : a.issued.toList.Nodup :=
    Std.ExtTreeSet.distinct_toList.imp fun hne heq => hne (Std.compare_eq_iff_eq.mpr heq)
  exact hnodup.subperm fun id hid =>
    IdRange.mem_ids.mpr (within id (Std.ExtTreeSet.mem_toList.mp hid))

theorem size_le : a.issued.size ≤ a.range.size := by
  have hlength := within.subperm_ids.length_le
  rwa [Std.ExtTreeSet.length_toList, IdRange.length_ids] at hlength

theorem size_eq_iff :
    a.issued.size = a.range.size ↔ ∀ id, a.range.contains id = true → id ∈ a.issued := by
  constructor
  · intro hsize id hid
    have hperm := within.subperm_ids.perm_of_length_le
      (by rw [Std.ExtTreeSet.length_toList, IdRange.length_ids, hsize])
    exact Std.ExtTreeSet.mem_toList.mp (hperm.mem_iff.mpr (IdRange.mem_ids.mpr hid))
  · intro hall
    refine Nat.le_antisymm within.size_le (Nat.not_lt.mp fun hlt => ?_)
    obtain ⟨hinside, hfree⟩ := firstFree_not_mem hlt a.cursor
    exact hfree (hall _ hinside)

theorem allocate_eq_none_iff : a.allocate = none ↔ a.issued.size = a.range.size := by
  have hle := within.size_le
  rw [allocate]
  split
  · next hroom => exact ⟨nofun, fun heq => absurd heq (Nat.ne_of_lt hroom)⟩
  · next hfull => exact ⟨fun _ => Nat.le_antisymm hle (Nat.not_lt.mp hfull), fun _ => rfl⟩

end Within

end IdAllocator

end Blocklist
