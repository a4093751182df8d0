import Blocklist.Rule
import Blocklist.Tier
import Std.Data.ExtTreeSet

/-!
# Differences of rule sets

What to do to the active rules of a tier: remove some ids, then add some rules.

* `RuleDiff.applyTo`   the active ids afterwards;
* `reconcile`          the difference that leaves exactly the desired rules. It removes and adds all
                       of them, which cannot go stale.
-/

namespace Blocklist

abbrev IdSet := Std.ExtTreeSet RuleId

structure RuleDiff where
  remove : List RuleId := []
  add : List Rule := []
  deriving DecidableEq, Repr

namespace RuleDiff

def isEmpty (d : RuleDiff) : Bool := d.remove = [] && d.add = []

def addedIds (d : RuleDiff) : IdSet := .ofList (d.add.map Rule.id)

def applyTo (d : RuleDiff) (active : IdSet) : IdSet :=
  (active.filter fun id => id ∉ d.remove) ∪ d.addedIds

end RuleDiff

/-- the ids of a tier that may be removed -/
def Tier.inScope (tier : Tier) (id : RuleId) : Bool :=
  match tier.reconcileScope with
  | some range => range.contains id
  | none => true

def reconcile (tier : Tier) (desired : List Rule) (active : IdSet) : RuleDiff where
  remove := active.toList.filter tier.inScope
  add := desired

end Blocklist
