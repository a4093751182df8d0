import Blocklist.IdRange
import Blocklist.ResourceType
import Std.Data.ExtTreeMap

/-!
# Rules

A declarative network rule: what to do with a request that meets a condition.

* `Condition`          the requests a rule is about;
* `Rule`               an id, a priority, an action and a condition, and the filter line it is from;
* `Rule.effect`        all of a rule that bears on requests: equal effects, equal behaviour;
* `Rule.hasPattern`    the rule is not about every request;
* an order on effects, so that they can be kept in a set.
-/

namespace Blocklist

inductive Action where
  | block
  | allow
  deriving DecidableEq, Repr

def Action.wireName : Action → String
  | block => "block"
  | allow => "allow"

def Action.ofWireName? : String → Option Action
  | "block" => some block
  | "allow" => some allow
  | _ => none

theorem Action.ofWireName?_wireName (a : Action) : ofWireName? a.wireName = some a := by
  cases a <;> rfl

/-- whether the request stays on the site of the page -/
inductive Party where
  | first
  | third
  deriving DecidableEq, Repr

def Party.wireName : Party → String
  | first => "firstParty"
  | third => "thirdParty"

def Party.ofWireName? : String → Option Party
  | "firstParty" => some first
  | "thirdParty" => some third
  | _ => none

theorem Party.ofWireName?_wireName (p : Party) : ofWireName? p.wireName = some p := by
  cases p <;> rfl

def Party.opposite : Party → Party
  | first => third
  | third => first

structure Condition where
  urlFilter : Option String := none
  requestDomains : Option (List String) := none
  resourceTypes : ResourceTypes := .usual
  initiatorDomains : Option (List String) := none
  excludedInitiatorDomains : Option (List String) := none
  party : Option Party := none
  caseSensitive : Option Bool := none
  deriving DecidableEq, Repr

structure Rule where
  id : RuleId
  priority : UInt32
  action : Action
  condition : Condition
  /-- the filter line the rule was compiled from; it is no part of the wire form -/
  source : Option String := none
  deriving DecidableEq, Repr

/-! ## priorities -/

/-- Exceptions win over blocking rules and whitelist rules over both. -/
def blockPriority : UInt32 := 1
def exceptionPriority : UInt32 := 2
def whitelistPriority : UInt32 := 10000

namespace Rule

def hasPattern (r : Rule) : Bool :=
  r.condition.urlFilter.any (· ≠ "") || r.condition.requestDomains.any (· ≠ [])

def isException (r : Rule) : Bool := r.action = .allow

/-- the rule without what is not written on the wire -/
def wire (r : Rule) : Rule := { r with source := none }

end Rule

/-! ## effects -/

/-- what a rule does, whatever its id and origin -/
structure Effect where
  action : Action
  priority : UInt32
  condition : Condition
  deriving DecidableEq, Repr

def Rule.effect (r : Rule) : Effect := ⟨r.action, r.priority, r.condition⟩

namespace Effect

def Action.rank : Action → Fin 2
  | .block => 0
  | .allow => 1

def Party.rank : Party → Fin 2
  | .first => 0
  | .third => 1

theorem Action.rank_injective {a b : Action} (h : rank a = rank b) : a = b := by
  cases a <;> cases b <;> simp_all [rank]

theorem Party.rank_injective {a b : Option Party} (h : a.map rank = b.map rank) : a = b := by
  rcases a with _ | (_ | _) <;> rcases b with _ | (_ | _) <;> simp_all [rank]

/-- effects are compared field by field -/
def order : Effect → Effect → Ordering :=
  compareLex (compareOn fun e => e.condition.urlFilter) <|
  compareLex (compareOn fun e => e.condition.requestDomains) <|
  compareLex (compareOn fun e => e.condition.resourceTypes.mask) <|
  compareLex (compareOn fun e => e.condition.initiatorDomains) <|
  compareLex (compareOn fun e => e.condition.excludedInitiatorDomains) <|
  compareLex (compareOn fun e => e.condition.party.map Party.rank) <|
  compareLex (compareOn fun e => e.condition.caseSensitive) <|
  compareLex (compareOn fun e => Action.rank e.action)
    (compareOn fun e => e.priority)

instance : Ord Effect := ⟨order⟩

instance : Std.TransOrd Effect := by
  show Std.TransCmp order
  unfold order
  infer_instance

theorem eq_of_order {a b : Effect} (h : order a b = .eq) : a = b := by
  simp only [order, compareLex_eq_eq, compareOn, Std.compare_eq_iff_eq] at h
  obtain ⟨h1, h2, h3, h4, h5, h6, h7, h8, h9⟩ := h
  rcases a with ⟨a1, a2, ⟨c1, c2, ⟨c3⟩, c4, c5, c6, c7⟩⟩
  rcases b with ⟨b1, b2, ⟨d1, d2, ⟨d3⟩, d4, d5, d6, d7⟩⟩
  cases Party.rank_injective h6
  cases Action.rank_injective h8
  simp_all

instance : Std.LawfulEqOrd Effect where
  compare_self {a} := @Std.ReflCmp.compare_self Effect compare _ a
  eq_of_compare h := eq_of_order h

end Effect

end Blocklist
