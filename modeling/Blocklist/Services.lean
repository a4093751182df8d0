import Blocklist.Error
import Blocklist.Json.Settled
import Blocklist.RetryPolicy
import Blocklist.RuleDiff

/-!
# Services

What the blocker needs from outside, as operations of a monad `m`. A service answers with a value or
with an error of its own kind; what else it does is up to `m`.

* `RuleEngine`      enforces rules;
* `KeyValueStore`   keeps values for the next start;
* `Fetcher`         supplies the texts of filter lists;
* `HttpClient`      makes requests over the web;
* `Clock`           tells the time;
* `Stopwatch`       tells how much time has passed;
* `Services`        all that a blocker needs: the engine, the store, the fetcher, the clock and
                    somewhere to wait.
-/

namespace Blocklist

class RuleEngine (m : Type → Type) where
  activeIds : Tier → m (Except EngineError IdSet)
  /-- removals first, then additions; all of the difference takes effect or nothing -/
  applyDiff : Tier → RuleDiff → m (Except EngineError Unit)
  setEnabled : Tier → Bool → m (Except EngineError Unit)

class KeyValueStore (m : Type → Type) where
  /-- the values of those keys that have one -/
  load : List String → m (Except StorageError Items)
  save : Items → m (Except StorageError Unit)

class Fetcher (m : Type → Type) where
  fetch : String → m (Except FetchError String)

/-- the answer to a request: a status, and a text that may break off on the way -/
structure Response where
  status : Nat
  text : Except String String

def Response.isSuccess (r : Response) : Bool := 200 ≤ r.status && r.status ≤ 299

/-- Where a client or a request fails, the answer is a description of what went wrong. -/
class HttpClient (m : Type → Type) where
  create : m (Except String Unit)
  get : String → m (Except String Response)

class Clock (m : Type → Type) where
  /-- milliseconds since 1970 -/
  nowMs : m UInt64

class Stopwatch (m : Type → Type) where
  /-- nanoseconds since some moment -/
  nowNs : m Nat

class Services (m : Type → Type) extends
  RuleEngine m, KeyValueStore m, Fetcher m, Clock m, Sleep m

/-! ## tables of rules under differences -/

namespace RuleTable

def removeAll (t : RuleTable) (ids : List RuleId) : RuleTable :=
  ids.foldl (fun t id => t.erase id) t

/-- add rules one after another, each with an id that is still free -/
def addAll (tier : Tier) : RuleTable → List Rule → Except EngineError RuleTable
  | t, [] => .ok t
  | t, rule :: rules =>
    if rule.id ∈ t then .error (.alreadyActive tier rule.id)
    else addAll tier (t.insert rule.id rule) rules

/-- what an engine makes of a difference -/
def applyDiff (t : RuleTable) (tier : Tier) (d : RuleDiff) : Except EngineError RuleTable :=
  addAll tier (t.removeAll d.remove) d.add

def ids (t : RuleTable) : IdSet := .ofList t.keys

end RuleTable

/-! ## items -/

namespace Items

/-- the items of the given keys -/
def pick (items : Items) (keys : List String) : Items :=
  .ofList (keys.filterMap fun key => items[key]?.map fun v => (key, v))

/-- later values replace earlier ones -/
def update (items new : Items) : Items := new.foldl (fun items key v => items.insert key v) items

end Items

end Blocklist
