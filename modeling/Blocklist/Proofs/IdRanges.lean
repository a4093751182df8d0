import Mathlib.Data.List.Nodup
import Blocklist.IdRange

/-!
# The ids of a range

The ids that a range holds can be listed. Lists that share the static ids get windows of one size;
the index of the window that an id is in can be read off the id.

* `IdRange.ids`                     the ids of a range, ascending;
* `IdRange.mem_ids`                 they are those that the range contains;
* `IdRange.Shares`                  a window of one of several lists that share the static ids;
* `IdRange.exists_staticWindow?`    each of them gets one;
* `IdRange.Shares.size_eq`          how many ids that is;
* `IdRange.Shares.div_eq`           the index of the window that an id is in.
-/

namespace Blocklist.IdRange

/-! ## listing the ids -/

/-- the ids of a range, ascending -/
def ids (r : IdRange) : List RuleId := (List.range' r.start.toNat r.size).map Nat.toUInt32

theorem length_ids (r : IdRange) : r.ids.length = r.size := by
  rw [ids, List.length_map, List.length_range']

theorem toNat_ids (r : IdRange) : r.ids.map UInt32.toNat = List.range' r.start.toNat r.size := by
  have hword : ∀ n ∈ List.range' r.start.toNat r.size, n.toUInt32.toNat = n := by
    intro n hn
    have hstop := r.stop.toNat_lt
    rw [List.mem_range'_1, size] at hn
    rw [UInt32.toNat_ofNat']
    exact Nat.mod_eq_of_lt (by omega)
  rw [ids, List.map_map]
  exact (List.map_congr_left hword).trans (List.map_id' _)

theorem mem_ids {r : IdRange} {id : RuleId} : id ∈ r.ids ↔ r.contains id = true := by
  have hmem : id ∈ r.ids ↔ id.toNat ∈ r.ids.map UInt32.toNat := by
    rw [List.mem_map]
    constructor
    · exact fun h => ⟨id, h, rfl⟩
    · rintro ⟨id', h, heq⟩
      exact UInt32.toNat_inj.mp heq ▸ h
  rw [hmem, toNat_ids, List.mem_range'_1, contains_iff, size]
  omega

/-! ## windows of lists that share the static ids -/

/-- how many ids each of `count` lists gets -/
def stride (count : Nat) : Nat := 100000 / count

theorem mul_stride_le {index count : Nat} (h : index ≤ count) : index * stride count ≤ 100000 :=
  Nat.le_trans (Nat.mul_le_mul_right _ h) (Nat.mul_div_le 100000 count)

/-- window number `index` of `count`: as many ids as each list gets, but for the id 0 -/
structure Shares (index count : Nat) (window : IdRange) : Prop where
  start : window.start.toNat = max (index * stride count) 1
  stop : window.stop.toNat = (index + 1) * stride count

theorem toNat_toUInt32 {n : Nat} (h : n < UInt32.size) : n.toUInt32.toNat = n := by
  rw [UInt32.toNat_ofNat']
  exact Nat.mod_eq_of_lt h

theorem toNat_max (a b : RuleId) : (max a b).toNat = max a.toNat b.toNat := by
  show (if a ≤ b then b else a).toNat = _
  simp only [UInt32.le_iff_toNat_le, Nat.max_def, apply_ite UInt32.toNat]

theorem word_of_lt {n : Nat} (h : n < UInt32.size) (fault : Fault) : word fault n = .ok n.toUInt32 := by
  rw [word, if_pos h]

/-- No number is too large for a word, and none is divided by zero. -/
theorem exists_staticWindow? {index count : Nat} (hindex : index < count)
    (hcount : count < UInt32.size) :
    ∃ window, staticWindow? index count = .ok window ∧ Shares index count window := by
  have hsmall : 100000 < UInt32.size := by decide
  have hstart := Nat.lt_of_le_of_lt (mul_stride_le (Nat.le_of_lt hindex)) hsmall
  have hstop : (index + 1) * stride count < UInt32.size :=
    Nat.lt_of_le_of_lt (mul_stride_le hindex) hsmall
  have hnext : index + 1 < UInt32.size := Nat.lt_of_le_of_lt hindex hcount
  have hnonzero : count.toUInt32 ≠ 0 := by
    intro h
    have hzero := congrArg UInt32.toNat h
    rw [toNat_toUInt32 hcount, UInt32.toNat_zero] at hzero
    omega
  have hstride : (staticIds.stop / count.toUInt32).toNat = stride count := by
    rw [UInt32.toNat_div, toNat_toUInt32 hcount]
    rfl
  refine ⟨⟨max (index * stride count).toUInt32 1, ((index + 1) * stride count).toUInt32⟩,
    ?_, ?_, ?_⟩
  · rw [staticWindow?, Nat.max_eq_left (Nat.one_le_of_lt hindex)]
    simp only [if_neg hnonzero, hstride, toNat_toUInt32 (Nat.lt_trans hindex hcount)]
    rw [word_of_lt hstart, word_of_lt hnext]
    simp only [bind, Except.bind, toNat_toUInt32 hnext]
    rw [word_of_lt hstop]
    rfl
  · rw [toNat_max, toNat_toUInt32 hstart]
    rfl
  · exact toNat_toUInt32 hstop

namespace Shares

variable {index count : Nat} {window : IdRange} (h : Shares index count window)
include h

theorem size_eq : window.size = if index = 0 then stride count - 1 else stride count := by
  have hnext : (index + 1) * stride count = index * stride count + stride count :=
    Nat.succ_mul index (stride count)
  rw [size, h.start, h.stop, hnext]
  split
  · next hzero =>
    rw [hzero, Nat.zero_mul]
    omega
  · next hpos =>
    -- a window that is not the first one starts after the id 0, or all windows are empty
    have hle := Nat.le_mul_of_pos_left (stride count) (Nat.pos_of_ne_zero hpos)
    omega

/-- the index of the window that an id is in -/
theorem div_eq {id : RuleId} (hid : id ∈ window.ids) : id.toNat / stride count = index := by
  rw [mem_ids, contains_iff, h.start, h.stop] at hid
  exact Nat.div_eq_of_lt_le (by omega) hid.2

theorem static (hindex : index < count) {id : RuleId} (hid : id ∈ window.ids) :
    staticIds.contains id = true := by
  have hstop : (index + 1) * stride count ≤ 100000 := mul_stride_le hindex
  rw [mem_ids, contains_iff, h.start, h.stop] at hid
  rw [contains_iff]
  show 1 ≤ id.toNat ∧ id.toNat < 100000
  omega

theorem disjoint {index' : Nat} {window' : IdRange} (h' : Shares index' count window')
    (hne : index ≠ index') : window.ids.Disjoint window'.ids :=
  fun _ hid hid' => hne ((h.div_eq hid).symm.trans (h'.div_eq hid'))

end Shares

end Blocklist.IdRange
