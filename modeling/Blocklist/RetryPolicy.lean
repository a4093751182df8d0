/-!
# Bounded retry

* `RetryPolicy.delay n`   how long to wait after the failed call `n`: twice as long each time, up to
                          sixteen doublings and the longest delay;
* `RetryPolicy.run`       calls until one succeeds or the attempts are used up;
* `Sleep`                 somewhere to wait, where no single wait is longer than `Sleep.longestMs`.
-/

namespace Blocklist

structure RetryPolicy where
  maxAttempts : UInt32 := 3
  baseDelayMs : UInt64 := 100
  maxDelayMs : UInt64 := 2000
  deriving DecidableEq, Repr

/-- the attempts made, and the error of the last one -/
structure RetryExhausted (ε : Type) where
  attempts : Nat
  lastError : ε
  deriving DecidableEq, Repr

/-- somewhere to wait -/
class Sleep (m : Type → Type) where
  sleepMs : Nat → m Unit

/-- thirty years -/
def Sleep.longestMs : Nat := 30 * 365 * 24 * 60 * 60 * 1000

namespace RetryPolicy

/-- no second attempt -/
def once : RetryPolicy := { maxAttempts := 1 }

/-- at least one attempt is made -/
def attempts (p : RetryPolicy) : Nat := max p.maxAttempts.toNat 1

def delay (p : RetryPolicy) (attempt : Nat) : Nat :=
  min (p.baseDelayMs.toNat * Nat.pow 2 (min (attempt - 1) 16)) p.maxDelayMs.toNat

variable {m : Type → Type} {ε α : Type} [Monad m] [Sleep m]

/-- `attempt` is the number of the next call, and `left` calls may follow it -/
def runFrom (p : RetryPolicy) (call : m (Except ε α)) (attempt : Nat) :
    Nat → m (Except (RetryExhausted ε) α)
  | 0 => do
    match ← call with
    | .ok a => return .ok a
    | .error e => return .error ⟨attempt, e⟩
  | left + 1 => do
    match ← call with
    | .ok a => return .ok a
    | .error _ =>
      Sleep.sleepMs (p.delay attempt)
      runFrom p call (attempt + 1) left

def run (p : RetryPolicy) (call : m (Except ε α)) : m (Except (RetryExhausted ε) α) :=
  p.runFrom call 1 (p.attempts - 1)

end RetryPolicy

end Blocklist
