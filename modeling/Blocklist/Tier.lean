import Blocklist.IdRange
import Std.Data.ExtTreeMap

/-!
# Tiers

Rules are kept and brought to the engine tier by tier: one tier for each static list, one for the
custom filters and one for the whitelist.

* `Tier.name`            how messages call a tier;
* `Tier.rulesetId`       the ruleset it becomes;
* `Tier.idRange`         the namespace of its ids;
* `Tier.reconcileScope`  the ids of the tier that are ours to remove, if not all are;
* an order on tiers: static ones by list id, then the dynamic and the session tier.
-/

namespace Blocklist

inductive Tier where
  | static (list : String)
  | dynamic
  | session
  deriving DecidableEq, Repr

namespace Tier

def name : Tier → String
  | static list => "static:" ++ list
  | dynamic => "dynamic"
  | session => "session"

def rulesetId : Tier → String
  | static list => list
  | dynamic => "custom"
  | session => "whitelist"

def idRange : Tier → IdRange
  | static _ => .staticIds
  | dynamic => .dynamicIds
  | session => .sessionIds

/-- The session tier of the engine also holds rules of others, so only ids of the session namespace
are removed there; of the other tiers every rule is. -/
def reconcileScope : Tier → Option IdRange
  | session => some .sessionIds
  | _ => none

def isStatic : Tier → Bool
  | static _ => true
  | _ => false

/-! ## order -/

/-- the group of a tier, and the list id inside the first group -/
def rank : Tier → Fin 3
  | static _ => 0
  | dynamic => 1
  | session => 2

def listId : Tier → String
  | static list => list
  | _ => ""

theorem eq_of_rank_of_listId {a b : Tier} (hr : a.rank = b.rank) (hl : a.listId = b.listId) :
    a = b := by
  cases a <;> cases b <;> simp_all [rank, listId]

instance : Ord Tier := ⟨compareLex (compareOn rank) (compareOn listId)⟩

instance : Std.TransOrd Tier :=
  inferInstanceAs (Std.TransCmp (compareLex (compareOn rank) (compareOn listId)))

instance : Std.LawfulEqOrd Tier where
  compare_self {a} := @Std.ReflCmp.compare_self Tier compare _ a
  eq_of_compare {a b} h := by
    have h' := compareLex_eq_eq.mp h
    exact eq_of_rank_of_listId (Std.LawfulEqCmp.eq_of_compare h'.1)
      (Std.LawfulEqCmp.eq_of_compare h'.2)

def le (a b : Tier) : Bool := (compare a b).isLE

end Tier

end Blocklist
