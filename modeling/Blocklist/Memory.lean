import Blocklist.Services

/-!
# Services in memory

A world that consists of values: an engine, a key-value store, texts under their addresses and a
clock that moves when told to. A number of calls of the engine, and of writes to the store, can be
made to fail.

* `MemoryEngine`, `MemoryStore`, `MemorySources`, `ManualClock`   the four parts;
* `Memory`                                                       the world they make up;
* the services of `StateM Memory`.
-/

namespace Blocklist

/-! ## engine -/

structure MemoryEngine where
  tables : Std.ExtTreeMap Tier RuleTable := ∅
  disabled : Std.ExtTreeSet Tier := ∅
  /-- how many of the next calls fail -/
  failures : Nat := 0
  /-- how many differences have been applied -/
  applied : Nat := 0

namespace MemoryEngine

def table (e : MemoryEngine) (tier : Tier) : RuleTable := e.tables.getD tier ∅

def rules (e : MemoryEngine) (tier : Tier) : List Rule := (e.table tier).rules

def isEnabled (e : MemoryEngine) (tier : Tier) : Bool := !e.disabled.contains tier

/-- a call that fails while failures are pending -/
def call {α : Type} (e : MemoryEngine) (f : MemoryEngine → Except EngineError α × MemoryEngine) :
    Except EngineError α × MemoryEngine :=
  match e.failures with
  | 0 => f e
  | n + 1 => (.error (.unavailable "injected failure"), { e with failures := n })

def activeIds (tier : Tier) (e : MemoryEngine) : Except EngineError IdSet × MemoryEngine :=
  e.call fun e => (.ok (e.table tier).ids, e)

def applyDiff (tier : Tier) (d : RuleDiff) (e : MemoryEngine) :
    Except EngineError Unit × MemoryEngine :=
  e.call fun e =>
    match (e.table tier).applyDiff tier d with
    | .error error => (.error error, e)
    | .ok t => (.ok (), { e with tables := e.tables.insert tier t, applied := e.applied + 1 })

def setEnabled (tier : Tier) (enabled : Bool) (e : MemoryEngine) :
    Except EngineError Unit × MemoryEngine :=
  e.call fun e =>
    (.ok (),
      { e with disabled := if enabled then e.disabled.erase tier else e.disabled.insert tier })

end MemoryEngine

/-! ## key-value store -/

structure MemoryStore where
  items : Items := ∅
  /-- how many of the next writes fail -/
  failures : Nat := 0

def MemoryStore.load (keys : List String) (s : MemoryStore) : Except StorageError Items :=
  .ok (s.items.pick keys)

def MemoryStore.save (items : Items) (s : MemoryStore) : Except StorageError Unit × MemoryStore :=
  match s.failures with
  | 0 => (.ok (), { s with items := s.items.update items })
  | n + 1 => (.error (.backend "injected write failure"), { s with failures := n })

/-! ## sources -/

/-- what an address answers: a text or an HTTP status -/
inductive Source where
  | text (s : String)
  | status (code : Nat)
  deriving DecidableEq, Repr

structure MemorySources where
  sources : Std.ExtTreeMap String Source := ∅
  /-- how often each address was asked -/
  fetches : Std.ExtTreeMap String Nat := ∅

namespace MemorySources

def set (s : MemorySources) (url : String) (source : Source) : MemorySources :=
  { s with sources := s.sources.insert url source }

def fetchCount (s : MemorySources) (url : String) : Nat := s.fetches.getD url 0

def fetch (url : String) (s : MemorySources) : Except FetchError String × MemorySources :=
  let answer :=
    match s.sources[url]? with
    | some (.text text) => .ok text
    | some (.status code) => .error (.status url code)
    | none => .error (.notFound url)
  (answer, { s with fetches := s.fetches.insert url (s.fetchCount url + 1) })

end MemorySources

/-! ## clock -/

/-- a clock that moves when told to, and the time spent waiting, which does not move it -/
structure ManualClock where
  nowMs : UInt64 := 0
  waitedMs : Nat := 0
  deriving DecidableEq, Repr

def ManualClock.advance (c : ManualClock) (ms : UInt64) : ManualClock :=
  { c with nowMs := c.nowMs + ms }

def ManualClock.wait (c : ManualClock) (ms : Nat) : ManualClock :=
  { c with waitedMs := c.waitedMs + min ms Sleep.longestMs }

/-! ## the world -/

structure Memory where
  engine : MemoryEngine := {}
  store : MemoryStore := {}
  sources : MemorySources := {}
  clock : ManualClock := {}

namespace Memory

/-- a step of the engine as a step of the world -/
def onEngine {α : Type} (f : MemoryEngine → α × MemoryEngine) : StateM Memory α := fun w =>
  let r := f w.engine
  (r.1, { w with engine := r.2 })

def onStore {α : Type} (f : MemoryStore → α × MemoryStore) : StateM Memory α := fun w =>
  let r := f w.store
  (r.1, { w with store := r.2 })

def onSources {α : Type} (f : MemorySources → α × MemorySources) : StateM Memory α := fun w =>
  let r := f w.sources
  (r.1, { w with sources := r.2 })

end Memory

instance : Services (StateM Memory) where
  activeIds tier := Memory.onEngine (MemoryEngine.activeIds tier)
  applyDiff tier d := Memory.onEngine (MemoryEngine.applyDiff tier d)
  setEnabled tier enabled := Memory.onEngine (MemoryEngine.setEnabled tier enabled)
  load keys := fun w => (w.store.load keys, w)
  save items := Memory.onStore (MemoryStore.save items)
  fetch url := Memory.onSources (MemorySources.fetch url)
  nowMs := fun w => (w.clock.nowMs, w)
  sleepMs ms := fun w => ((), { w with clock := w.clock.wait ms })

end Blocklist
