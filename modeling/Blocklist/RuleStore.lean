import Blocklist.IdAllocator
import Blocklist.Rule
import Blocklist.Tier

/-!
# The rule store

Every compiled rule, by tier and id. A tier holds only ids of its range, each once, and no more
rules than its capacity. The ids of the dynamic tier come from an allocator.

* `RuleStore.idRange`, `RuleStore.capacity`   what a tier may hold;
* `add`, `remove`, `get?`                     one rule;
* `rules`, `count`, `hasTier`                 a whole tier, by ascending id;
* `dropTier`, `replaceAll`                    all rules of a tier at once;
* `allocateDynamicId`, `releaseDynamicId`     fresh ids of the dynamic tier.
-/

namespace Blocklist

inductive StoreError where
  | duplicateId (tier : Tier) (id : RuleId)
  | idOutOfRange (tier : Tier) (id : RuleId) (range : IdRange)
  | capacityExceeded (tier : Tier) (capacity : Nat)
  | idSpaceExhausted (range : IdRange)
  deriving DecidableEq, Repr

def StoreError.message : StoreError → String
  | duplicateId tier id => s!"rule id {id.toNat} already exists in {tier.name}"
  | idOutOfRange tier id range =>
    s!"rule id {id.toNat} is outside the {tier.name} range {range.text}"
  | capacityExceeded tier capacity => s!"{tier.name} holds at most {capacity} rules"
  | idSpaceExhausted range => s!"no free rule ids left in {range.text}"

/-- how many rules the engine takes in the tiers that are not static -/
structure CapacityLimits where
  dynamic : UInt64 := 30000
  session : UInt64 := 5000
  deriving DecidableEq, Repr

/-- rules by id -/
abbrev RuleTable := Std.ExtTreeMap RuleId Rule

namespace RuleTable

def rules (t : RuleTable) : List Rule := t.toList.map (·.2)

def ofRules (rules : List Rule) : RuleTable := .ofList (rules.map fun r => (r.id, r))

end RuleTable

structure RuleStore where
  tiers : Std.ExtTreeMap Tier RuleTable
  /-- the id windows of static lists -/
  windows : Std.ExtTreeMap String IdRange
  dynamicIds : IdAllocator
  limits : CapacityLimits

namespace RuleStore

def new (limits : CapacityLimits) : RuleStore := ⟨∅, ∅, .new .dynamicIds, limits⟩

/-- confine a static list to a window -/
def register (s : RuleStore) (list : String) (window : IdRange) : RuleStore :=
  { s with windows := s.windows.insert list window }

def idRange (s : RuleStore) : Tier → IdRange
  | .static list => s.windows.getD list .staticIds
  | tier => tier.idRange

def capacity (s : RuleStore) (tier : Tier) : Nat :=
  let size := (s.idRange tier).size
  match tier with
  | .static _ => size
  | .dynamic => min s.limits.dynamic.toNat size
  | .session => min s.limits.session.toNat size

/-! ## looking -/

/-- the rules of a tier; none if it was never populated -/
def table (s : RuleStore) (tier : Tier) : RuleTable := s.tiers.getD tier ∅

def get? (s : RuleStore) (tier : Tier) (id : RuleId) : Option Rule := (s.table tier)[id]?

def rules (s : RuleStore) (tier : Tier) : List Rule := (s.table tier).rules

def count (s : RuleStore) (tier : Tier) : Nat := (s.table tier).size

/-- the tier has been populated, be it with no rule -/
def hasTier (s : RuleStore) (tier : Tier) : Bool := s.tiers.contains tier

/-! ## one rule -/

def setTable (s : RuleStore) (tier : Tier) (t : RuleTable) : RuleStore :=
  { s with tiers := s.tiers.insert tier t }

/-- mark an id as issued if it is one of the dynamic tier -/
def reserveId (s : RuleStore) (tier : Tier) (id : RuleId) : RuleStore :=
  match tier with
  | .dynamic => { s with dynamicIds := (s.dynamicIds.reserve id).2 }
  | _ => s

def releaseId (s : RuleStore) (tier : Tier) (id : RuleId) : RuleStore :=
  match tier with
  | .dynamic => { s with dynamicIds := (s.dynamicIds.release id).2 }
  | _ => s

/-- A rule whose id is in range makes its tier populated, even if the tier has no place for it. -/
def add (s : RuleStore) (tier : Tier) (rule : Rule) : Except StoreError Unit × RuleStore :=
  let range := s.idRange tier
  if range.contains rule.id then
    let t := s.table tier
    let s := s.setTable tier t
    if rule.id ∈ t then (.error (.duplicateId tier rule.id), s)
    else if t.size < s.capacity tier then
      (.ok (), (s.reserveId tier rule.id).setTable tier (t.insert rule.id rule))
    else (.error (.capacityExceeded tier (s.capacity tier)), s)
  else (.error (.idOutOfRange tier rule.id range), s)

def remove (s : RuleStore) (tier : Tier) (id : RuleId) : Option Rule × RuleStore :=
  match s.get? tier id with
  | some rule => (some rule, (s.setTable tier ((s.table tier).erase id)).releaseId tier id)
  | none => (none, s)

/-! ## whole tiers -/

/-- exactly the given ids of the dynamic tier are issued from now on -/
def resetIds (s : RuleStore) (tier : Tier) (ids : List RuleId) : RuleStore :=
  match tier with
  | .dynamic => { s with dynamicIds := s.dynamicIds.reset ids }
  | _ => s

/-- forget a tier; the answer is what it held -/
def dropTier (s : RuleStore) (tier : Tier) : List Rule × RuleStore :=
  (s.rules tier, { s with tiers := s.tiers.erase tier }.resetIds tier [])

/-- the table of some rules, or the first rule that is out of range or repeats an id -/
def tableOf (tier : Tier) (range : IdRange) : RuleTable → List Rule → Except StoreError RuleTable
  | t, [] => .ok t
  | t, rule :: rules =>
    if range.contains rule.id then
      if rule.id ∈ t then .error (.duplicateId tier rule.id)
      else tableOf tier range (t.insert rule.id rule) rules
    else .error (.idOutOfRange tier rule.id range)

/-- the given rules instead of those of the tier; the answer is what it held -/
def replaceAll (s : RuleStore) (tier : Tier) (rules : List Rule) :
    Except StoreError (List Rule × RuleStore) :=
  if s.capacity tier < rules.length then .error (.capacityExceeded tier (s.capacity tier))
  else
    match tableOf tier (s.idRange tier) ∅ rules with
    | .error e => .error e
    | .ok t => .ok (s.rules tier, (s.resetIds tier t.keys).setTable tier t)

/-! ## ids of the dynamic tier -/

def allocateDynamicId (s : RuleStore) : Except StoreError (RuleId × RuleStore) :=
  match s.dynamicIds.allocate with
  | some (id, ids) => .ok (id, { s with dynamicIds := ids })
  | none => .error (.idSpaceExhausted .dynamicIds)

/-- give back an id that no rule has -/
def releaseDynamicId (s : RuleStore) (id : RuleId) : RuleStore :=
  if (s.get? .dynamic id).isSome then s else s.releaseId .dynamic id

end RuleStore

end Blocklist
