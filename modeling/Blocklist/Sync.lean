import Blocklist.Services

/-!
# Bringing the engine in line

Every call of the engine is retried as a policy says. When no attempt succeeds, the operation fails
with the error of the last one.

* `syncTier`         the engine's rules of a tier become the desired ones;
* `setTierEnabled`   a tier is turned on or off.
-/

namespace Blocklist

variable {m : Type → Type} {α : Type} [Monad m]

/-- a call of the engine about `tier`, with retries -/
def engineCall [Sleep m] (retry : RetryPolicy) (tier : Tier) (call : m (Except EngineError α)) :
    ExceptT SyncError m α :=
  ExceptT.mk do
    match ← retry.run call with
    | .ok a => return .ok a
    | .error e => return .error (.engineApplyFailed tier e.attempts e.lastError)

variable [RuleEngine m] [Sleep m]

/-- the difference that was applied -/
def syncTier (tier : Tier) (desired : List Rule) (retry : RetryPolicy) :
    ExceptT SyncError m RuleDiff := do
  let active ← engineCall retry tier (RuleEngine.activeIds tier)
  let diff := reconcile tier desired active
  engineCall retry tier (RuleEngine.applyDiff tier diff)
  return diff

def setTierEnabled (tier : Tier) (enabled : Bool) (retry : RetryPolicy) :
    ExceptT SyncError m Unit :=
  engineCall retry tier (RuleEngine.setEnabled tier enabled)

end Blocklist
