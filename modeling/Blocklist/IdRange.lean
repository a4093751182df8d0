/-!
# Ranges of rule ids

Rule ids are 32-bit words. A range is half open; the three namespaces of rules are fixed ranges
that follow one another.

* `IdRange.contains`, `IdRange.size`, `IdRange.overlaps`, `IdRange.includes`;
* `IdRange.staticIds`, `IdRange.dynamicIds`, `IdRange.sessionIds`   the three namespaces;
* `IdRange.staticWindow?`   the share of the static ids that one of several lists gets.
-/

namespace Blocklist

abbrev RuleId := UInt32

structure IdRange where
  start : RuleId
  stop : RuleId
  deriving DecidableEq, Repr

namespace IdRange

def contains (r : IdRange) (id : RuleId) : Bool := r.start ≤ id && id < r.stop

def size (r : IdRange) : Nat := r.stop.toNat - r.start.toNat

def isEmpty (r : IdRange) : Bool := r.stop ≤ r.start

def overlaps (a b : IdRange) : Bool := a.start < b.stop && b.start < a.stop

def includes (a b : IdRange) : Bool := a.start ≤ b.start && b.stop ≤ a.stop

def text (r : IdRange) : String := s!"{r.start.toNat}..{r.stop.toNat}"

theorem contains_iff {r : IdRange} {id : RuleId} :
    r.contains id = true ↔ r.start.toNat ≤ id.toNat ∧ id.toNat < r.stop.toNat := by
  simp [contains, UInt32.le_iff_toNat_le, UInt32.lt_iff_toNat_lt]

theorem overlaps_iff {a b : IdRange} :
    a.overlaps b = true ↔ a.start.toNat < b.stop.toNat ∧ b.start.toNat < a.stop.toNat := by
  simp [overlaps, UInt32.lt_iff_toNat_lt]

theorem includes_iff {a b : IdRange} :
    a.includes b = true ↔ a.start.toNat ≤ b.start.toNat ∧ b.stop.toNat ≤ a.stop.toNat := by
  simp [includes, UInt32.le_iff_toNat_le]

theorem isEmpty_iff {r : IdRange} : r.isEmpty = true ↔ r.stop.toNat ≤ r.start.toNat := by
  simp [isEmpty, UInt32.le_iff_toNat_le]

/-! ## namespaces -/

/-- ids of rules compiled from filter lists -/
def staticIds : IdRange := ⟨1, 100000⟩
/-- ids of rules compiled from custom filters -/
def dynamicIds : IdRange := ⟨100000, 900000⟩
/-- ids of whitelist rules -/
def sessionIds : IdRange := ⟨900000, 1000000⟩

/-! ## windows of static lists -/

/-- what can go wrong in 32-bit arithmetic on windows -/
inductive Fault where
  | divisionByZero
  | sumTooLarge
  | productTooLarge
  deriving DecidableEq, Repr

def Fault.message : Fault → String
  | divisionByZero => "attempt to divide by zero"
  | sumTooLarge => "attempt to add with overflow"
  | productTooLarge => "attempt to multiply with overflow"

/-- the number `n` as a 32-bit word, or `fault` -/
def word (fault : Fault) (n : Nat) : Except Fault RuleId :=
  if n < UInt32.size then .ok n.toUInt32 else .error fault

/-- The window of list `index` of `count`: an equal share of the static ids, the first one without
the id 0. Both numbers are taken modulo `2 ^ 32`. -/
def staticWindow? (index count : Nat) : Except Fault IdRange := do
  let count := (max count 1).toUInt32
  if count = 0 then throw .divisionByZero
  let stride := staticIds.stop / count
  let index := index.toUInt32
  let start ← word .productTooLarge (index.toNat * stride.toNat)
  let next ← word .sumTooLarge (index.toNat + 1)
  let stop ← word .productTooLarge (next.toNat * stride.toNat)
  return ⟨max start staticIds.start, stop⟩

end IdRange

end Blocklist
