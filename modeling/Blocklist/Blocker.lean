import Blocklist.Coordinator
import Blocklist.Whitelist

/-!
# The blocker

The state behind all operations of a user: custom filters, whitelist, filter lists, and whether
blocking is on. A change is saved first, then made here, then brought to the engine; a change that
cannot be saved is not made.

* `Blocker.new`               a blocker for a valid configuration;
* `Blocker.Action`            what an operation is: it may change the blocker, use the services, and
                              fail, in which case the changes so far stay;
* `restore`, `start`          take over the saved state, then refresh what is due;
* `addCustomFilter`, `removeCustomFilter`;
* `recomputeWhitelist`, `toggleWhitelist`, `isWhitelisted`;
* `refresh`, `setListEnabled`, `setEnabled`.
-/

namespace Blocklist

structure Blocker where
  config : SyncConfig
  store : RuleStore
  coordinator : Coordinator
  customFilters : List CustomFilter := []
  whitelist : List String := []
  enabled : Bool := true

namespace Blocker

/-- a blocker before anything is restored -/
def ofConfig (config : SyncConfig) : Blocker :=
  let coordinator := Coordinator.new config
  { config := config
    store := coordinator.registerWindows (.new config.limits)
    coordinator := coordinator }

def new (config : SyncConfig) : Except SyncError Blocker :=
  match config.validate with
  | .error e => .error (.config e)
  | .ok () => .ok (ofConfig config)

/-- the host or a domain it is part of is whitelisted -/
def isWhitelisted (b : Blocker) (host : String) : Bool := Whitelist.covers b.whitelist host

/-- operations over services in `m` -/
abbrev Action (m : Type → Type) := ExceptT SyncError (StateT Blocker m)

namespace Action

variable {m : Type → Type} {α ε : Type} [Monad m]

/-- do something outside the blocker -/
def perform (x : m α) : Action m α := ExceptT.lift (StateT.lift x)

/-- use a service -/
def call (cause : ε → SyncError) (service : m (Except ε α)) : Action m α := do
  match ← perform service with
  | .ok a => return a
  | .error e => throw (cause e)

def setStore (store : RuleStore) : Action m Unit := modify fun b => { b with store := store }

/-- a step of the coordinator, which changes even when it fails -/
def coordinate (f : Coordinator → m (Except SyncError α × Coordinator)) : Action m α := do
  let (answer, c) ← perform (f (← get).coordinator)
  modify fun b => { b with coordinator := c }
  liftExcept answer
where
  liftExcept : Except SyncError α → Action m α
    | .ok a => return a
    | .error e => throw e

/-- run an operation on a blocker -/
def on (act : Action m α) (b : Blocker) : m (Except SyncError α × Blocker) := act.run.run b

end Action

variable {m : Type → Type} [Monad m] [Services m]

/-! ## saving and syncing -/

def save (items : Items) : Action m Unit := .call .storage (KeyValueStore.save items)

def saveCustomFilters (filters : List CustomFilter) : Action m Unit :=
  save (Saved.single Saved.customFiltersKey (Saved.customFiltersToJson filters))

/-- bring the rules of a tier to the engine -/
def sync (tier : Tier) : Action m Unit := do
  let b ← get
  let _ ← Action.call id (syncTier tier (b.store.rules tier) b.config.retry).run
  return ()

/-! ## custom filters -/

/-- put the rule of a filter into the dynamic tier; the answer says whether that worked -/
def replayFilter (c : CustomFilter) : Action m Bool := do
  match Filter.parse c.filter.toList c.id with
  | .error _ => return false
  | .ok rule =>
    let (answer, store) := (← get).store.add .dynamic rule
    Action.setStore store
    return answer.toBool

/-- Put saved filters into the dynamic tier. Those without a place there are forgotten, also in the
saved state if it can be written. -/
def replayCustomFilters (saved : List CustomFilter) : Action m Unit := do
  let kept ← saved.filterM replayFilter
  if kept.length ≠ saved.length then
    tryCatch (saveCustomFilters kept) fun _ => return ()
  modify fun b => { b with customFilters := kept }
  sync .dynamic

/-- the rule of a new filter in the dynamic tier, under a fresh id -/
def compileCustomFilter (text : String) : Action m RuleId := do
  match (← get).store.allocateDynamicId with
  | .error e => throw (.store e)
  | .ok (id, store) =>
    match Filter.parse text.toList id with
    | .error rejection =>
      Action.setStore (store.releaseDynamicId id)
      throw (.rejected rejection)
    | .ok rule =>
      match store.add .dynamic rule with
      | (.error e, store) =>
        Action.setStore (store.releaseDynamicId id)
        throw (.store e)
      | (.ok (), store) =>
        Action.setStore store
        return id

/-- Add a filter of the user; the answer is the id of its rule. -/
def addCustomFilter (text : String) : Action m RuleId := do
  let text := Text.trimmed text
  let id ← compileCustomFilter text
  let filters := (← get).customFilters ++ [⟨id, text⟩]
  tryCatch (saveCustomFilters filters) fun e => do
    Action.setStore ((← get).store.remove .dynamic id).2
    throw e
  modify fun b => { b with customFilters := filters }
  sync .dynamic
  return id

/-- Remove the filter whose rule has this id; the answer is the filter. -/
def removeCustomFilter (id : RuleId) : Action m CustomFilter := do
  let filters := (← get).customFilters
  match filters.find? fun c => c.id = id with
  | none => throw (.unknownFilter id)
  | some removed =>
    let filters := filters.eraseIdx (filters.findIdx fun c => c.id = id)
    saveCustomFilters filters
    modify fun b =>
      { b with customFilters := filters, store := (b.store.remove .dynamic id).2 }
    sync .dynamic
    return removed

/-! ## whitelist -/

/-- Make `domains`, which are in normal form and distinct, the whitelist. -/
def applyWhitelist (domains : List String) : Action m Unit := do
  let store := (← get).store
  let rules := Whitelist.rules domains
  if store.capacity .session < rules.length then
    throw (.store (.capacityExceeded .session (store.capacity .session)))
  save (Saved.single Saved.whitelistKey (.ofStrings domains))
  match store.replaceAll .session rules with
  | .error e => throw (.store e)
  | .ok (_, store) =>
    modify fun b => { b with store := store, whitelist := domains }
    sync .session

/-- the first text that is neither blank nor a domain -/
def invalidDomain? (domains : List String) : Option String :=
  domains.find? fun d => Text.trimmed d ≠ "" ∧ Whitelist.normalize? d = none

/-- Replace the whitelist. Blank entries do not count. -/
def recomputeWhitelist (domains : List String) : Action m Unit := do
  match invalidDomain? domains with
  | some d => throw (.invalidDomain (Text.trimmed d))
  | none => applyWhitelist (Whitelist.normalizeAll domains)

/-- Put a domain on the whitelist, or take it off; the answer says whether it is on it now. -/
def toggleWhitelist (domain : String) : Action m Bool := do
  match Whitelist.normalize? domain with
  | none => throw (.invalidDomain (Text.trimmed domain))
  | some d =>
    let domains := (← get).whitelist
    if d ∈ domains then
      applyWhitelist (domains.erase d)
      return false
    else
      applyWhitelist (domains ++ [d])
      return true

/-! ## lists and the switch -/

/-- Refresh the lists that are due, or all of them. -/
def refresh (force : Bool) : Action m RefreshReport := do
  let b ← get
  let (report, coordinator, store) ← Action.perform (b.coordinator.refresh b.store force)
  modify fun b => { b with coordinator := coordinator, store := store }
  return report

def setListEnabled (list : String) (enabled : Bool) : Action m Unit :=
  .coordinate fun c => c.setListEnabled list enabled

/-- Turn static lists and custom filters on or off in the engine. The whitelist stays. -/
def applyEnabled (enabled : Bool) : Action m Unit := do
  .coordinate fun c => c.setSuspended (!enabled)
  .call id (setTierEnabled .dynamic enabled (← get).config.retry).run
  modify fun b => { b with enabled := enabled }

def setEnabled (enabled : Bool) : Action m Unit := do
  save (Saved.single Saved.enabledKey (.bool enabled))
  applyEnabled enabled

/-! ## start -/

/-- Take over the saved state and bring every tier in line with it. -/
def restore : Action m Unit := do
  .coordinate fun c => do
    match ← c.loadState with
    | .ok c => return (.ok (), c)
    | .error e => return (.error e, c)
  let items ← Action.call .storage
    (KeyValueStore.load [Saved.customFiltersKey, Saved.whitelistKey, Saved.enabledKey])
  replayCustomFilters (Saved.customFilters items)
  applyWhitelist (Whitelist.normalizeAll (Saved.whitelist items))
  applyEnabled (Saved.enabled items)

def start : Action m RefreshReport := do
  restore
  refresh false

end Blocker

end Blocklist
