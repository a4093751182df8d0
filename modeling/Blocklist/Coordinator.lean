import Blocklist.Fingerprint
import Blocklist.FilterList
import Blocklist.Saved
import Blocklist.Sync

/-!
# Refreshing static lists

The coordinator knows when each static list was last refreshed, from which text, and whether the
user wants it. A refresh takes the lists one by one: fetch, compile, put into the store, bring to
the engine. A list that fails stays as it was, and so do its rules; the others go on.

* `StaticList`                   a list and its state;
* `Coordinator.loadState`        take over the saved state;
* `Coordinator.refresh`          refresh the lists that need it, or all of them;
* `Coordinator.setListEnabled`   turn one list on or off in the engine;
* `Coordinator.setSuspended`     turn all lists off, or each back to what the user wants.
-/

namespace Blocklist

structure StaticList where
  id : String
  name : String
  url : Option String
  enabled : Bool
  /-- the time of the last successful refresh -/
  lastUpdate : Option UInt64 := none
  /-- the fingerprint of the text it came from -/
  fingerprint : Option UInt64 := none
  window : IdRange
  deriving DecidableEq, Repr

namespace StaticList

def ofConfig (l : ListConfig) : StaticList where
  id := l.id
  name := l.name
  url := l.url
  enabled := l.enabled
  window := l.window

def tier (l : StaticList) : Tier := .static l.id

def state (l : StaticList) : ListState := ⟨some l.enabled, l.lastUpdate, l.fingerprint⟩

/-- the list with a saved state; a flag that was not saved stays -/
def withState (l : StaticList) (s : ListState) : StaticList :=
  { l with
    enabled := s.enabled.getD l.enabled
    lastUpdate := s.lastUpdate
    fingerprint := s.fingerprint }

end StaticList

/-! ## reports -/

/-- why a list was not refreshed -/
inductive RefreshError where
  | fetch (cause : FetchError)
  | store (cause : StoreError)
  | sync (cause : SyncError)
  deriving DecidableEq, Repr

def RefreshError.message : RefreshError → String
  | fetch cause => "fetch failed: " ++ cause.message
  | store cause => cause.message
  | sync cause => cause.message

/-- what a refresh did, list by list -/
structure RefreshReport where
  succeeded : List String := []
  failed : List (String × RefreshError) := []
  skipped : List String := []
  /-- why the new state of the lists could not be saved -/
  persistError : Option SyncError := none
  deriving DecidableEq, Repr

def RefreshReport.isComplete (r : RefreshReport) : Bool := r.failed = [] && r.persistError = none

/-! ## the coordinator -/

structure Coordinator where
  lists : List StaticList
  intervalMs : Nat
  retry : RetryPolicy
  suspended : Bool := false
  deriving DecidableEq, Repr

namespace Coordinator

def new (config : SyncConfig) : Coordinator where
  lists := config.lists.map .ofConfig
  intervalMs := config.intervalMs
  retry := config.retry

/-- confine each list to its window -/
def registerWindows (c : Coordinator) (store : RuleStore) : RuleStore :=
  c.lists.foldl (fun store l => store.register l.id l.window) store

def list? (c : Coordinator) (id : String) : Option StaticList := c.lists.find? fun l => l.id = id

/-- more than the interval has passed since the last refresh -/
def isDue (c : Coordinator) (l : StaticList) (now : UInt64) : Bool :=
  match l.lastUpdate with
  | none => true
  | some last => c.intervalMs < now.toNat - last.toNat

/-- The list is due, or its rules have not been loaded since the start. -/
def needsRefresh (c : Coordinator) (l : StaticList) (store : RuleStore) (now : UInt64) : Bool :=
  !store.hasTier l.tier || c.isDue l now

/-! ## saved state -/

def states (c : Coordinator) : Saved.ListStates := .ofList (c.lists.map fun l => (l.id, l.state))

def lastUpdate (c : Coordinator) : Option UInt64 := (c.lists.filterMap StaticList.lastUpdate).max?

/-- the items that save the state of all lists -/
def items (c : Coordinator) : Items :=
  let items := Saved.single Saved.listStatesKey (Saved.listStatesToJson c.states)
  match c.lastUpdate with
  | some n => items.insert Saved.lastUpdateKey (.ofNat n.toNat)
  | none => items

def withStates (c : Coordinator) (states : Saved.ListStates) : Coordinator :=
  { c with
    lists := c.lists.map fun l =>
      match states[l.id]? with
      | some s => l.withState s
      | none => l }

variable {m : Type → Type} [Monad m]

def loadState [KeyValueStore m] (c : Coordinator) : m (Except SyncError Coordinator) := do
  match ← KeyValueStore.load [Saved.listStatesKey] with
  | .error e => return .error (.storage e)
  | .ok items => return .ok (c.withStates (Saved.listStates items))

def persistState [KeyValueStore m] (c : Coordinator) : m (Except SyncError Unit) := do
  match ← KeyValueStore.save c.items with
  | .error e => return .error (.storage e)
  | .ok () => return .ok ()

variable [Services m]

/-! ## refresh -/

/-- the store with what a tier held before its rules were replaced; a tier that was not loaded then
is forgotten again -/
def rollBack (store : RuleStore) (tier : Tier) (wasLoaded : Bool) (previous : List Rule) :
    RuleStore :=
  if wasLoaded then
    match store.replaceAll tier previous with
    | .ok (_, store) => store
    | .error _ => store
  else (store.dropTier tier).2

/-- Refresh one list from `url`; the answer is the fingerprint of the text. A text that the loaded
rules come from is not compiled again. When the engine does not follow, the new rules are taken
back. -/
def refreshList (c : Coordinator) (store : RuleStore) (l : StaticList) (url : String) :
    m (Except RefreshError UInt64 × RuleStore) := do
  match ← Fetcher.fetch url with
  | .error e => return (.error (.fetch e), store)
  | .ok text =>
    let hash := Blocklist.fingerprint text
    if l.fingerprint = some hash ∧ 0 < store.count l.tier then return (.ok hash, store)
    else
      match store.replaceAll l.tier (FilterList.compile text.toList l.window).rules with
      | .error e => return (.error (.store e), store)
      | .ok (previous, next) =>
        match ← (syncTier l.tier (next.rules l.tier) c.retry).run with
        | .error e =>
          return (.error (.sync e), rollBack next l.tier (store.hasTier l.tier) previous)
        | .ok _ => return (.ok hash, next)

/-- Refresh `lists` one after another at the time `now`. The answer holds them in their order. -/
def refreshLists (c : Coordinator) (force : Bool) (now : UInt64) :
    List StaticList → RuleStore → RefreshReport → m (List StaticList × RuleStore × RefreshReport)
  | [], store, report => return ([], store, report)
  | l :: ls, store, report => do
    let skip := fun (_ : Unit) => do
      let (ls, rest) ← refreshLists c force now ls store
        { report with skipped := report.skipped ++ [l.id] }
      return (l :: ls, rest)
    match l.url with
    | none => skip ()
    | some url =>
      if !force && !c.needsRefresh l store now then skip ()
      else
        match ← c.refreshList store l url with
        | (.ok hash, store) =>
          let (ls, rest) ← refreshLists c force now ls store
            { report with succeeded := report.succeeded ++ [l.id] }
          return ({ l with lastUpdate := some now, fingerprint := some hash } :: ls, rest)
        | (.error e, store) =>
          let (ls, rest) ← refreshLists c force now ls store
            { report with failed := report.failed ++ [(l.id, e)] }
          return (l :: ls, rest)

/-- Refresh the lists that need it, or all with an address if `force` says so. The new state is
saved if a list succeeded. -/
def refresh (c : Coordinator) (store : RuleStore) (force : Bool) :
    m (RefreshReport × Coordinator × RuleStore) := do
  let now ← Clock.nowMs
  let (lists, store, report) ← c.refreshLists force now c.lists store {}
  let c := { c with lists := lists }
  if report.succeeded = [] then return (report, c, store)
  else
    match ← c.persistState with
    | .ok () => return (report, c, store)
    | .error e => return ({ report with persistError := some e }, c, store)

/-! ## toggles -/

/-- the coordinator with the first list of this id turned on or off -/
def withEnabled (c : Coordinator) (id : String) (enabled : Bool) : Coordinator :=
  { c with
    lists := c.lists.modify (c.lists.findIdx fun l => l.id = id) fun l =>
      { l with enabled := enabled } }

/-- Turn a list on or off: in the engine, unless all lists are suspended, then here, then in the
saved state. -/
def setListEnabled (c : Coordinator) (id : String) (enabled : Bool) :
    m (Except SyncError Unit × Coordinator) := do
  match c.list? id with
  | none => return (.error (.unknownList id), c)
  | some l =>
    let engine ← if c.suspended then pure (.ok ()) else (setTierEnabled l.tier enabled c.retry).run
    match engine with
    | .error e => return (.error e, c)
    | .ok () =>
      let c := c.withEnabled id enabled
      return (← c.persistState, c)

/-- turn lists on or off in the engine, stopping at the first that fails -/
def setTiers (retry : RetryPolicy) (suspended : Bool) :
    List StaticList → m (Except SyncError Unit)
  | [] => return .ok ()
  | l :: ls => do
    match ← (setTierEnabled l.tier (l.enabled && !suspended) retry).run with
    | .error e => return .error e
    | .ok () => setTiers retry suspended ls

def setSuspended (c : Coordinator) (suspended : Bool) :
    m (Except SyncError Unit × Coordinator) := do
  match ← setTiers c.retry suspended c.lists with
  | .error e => return (.error e, c)
  | .ok () => return (.ok (), { c with suspended := suspended })

end Coordinator

end Blocklist
