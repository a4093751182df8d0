import Blocklist.Proofs.BlockerRuns
import Blocklist.Proofs.StoreFile

/-!
# Services at a site

The services on files work on two states, one above the other: where the files are, and the machine.
Taken as one state, the site, these make up services like any other, so that what holds for all
services holds for them. A program does the same either way.

* `Site.run_bind`             programs over the two states, run at a site;
* `Site.run_syncTier`, …      each program that uses services;
* `Blocker.Action.atSite`     an operation of the blocker, at a site;
* `Blocker.atSite_restore`, …   each operation.
-/

namespace Blocklist

namespace Site

instance : Services (StateM Site) where
  activeIds tier := run (RuleEngine.activeIds tier)
  applyDiff tier d := run (RuleEngine.applyDiff tier d)
  setEnabled tier enabled := run (RuleEngine.setEnabled tier enabled)
  load keys := run (KeyValueStore.load keys)
  save items := run (KeyValueStore.save items)
  fetch url := run (Fetcher.fetch url)
  nowMs := run Clock.nowMs
  sleepMs ms := run (Sleep.sleepMs ms)

variable {α β ε : Type}

theorem run_bind (x : SiteM α) (f : α → SiteM β) :
    run (x >>= f) = (run x >>= fun a => run (f a) : StateM Site β) := rfl

/-! ## retries -/

theorem run_runFrom (p : RetryPolicy) (call : SiteM (Except ε α)) (n left : Nat) :
    run (p.runFrom call n left) = p.runFrom (m := StateM Site) (run call) n left := by
  induction left generalizing n with
  | zero =>
    rw [RetryPolicy.runFrom, RetryPolicy.runFrom, run_bind]
    refine bind_congr fun answer => ?_
    cases answer <;> rfl
  | succ left ih =>
    rw [RetryPolicy.runFrom, RetryPolicy.runFrom, run_bind]
    refine bind_congr fun answer => ?_
    cases answer with
    | ok a => rfl
    | error e =>
      dsimp only
      rw [run_bind, ih]
      rfl

/-! ## programs that may fail -/

/-- a program that may fail, at a site -/
def trying (x : ExceptT ε SiteM α) : ExceptT ε (StateM Site) α := ExceptT.mk (run x.run)

theorem trying_bind (x : ExceptT ε SiteM α) (f : α → ExceptT ε SiteM β) :
    trying (x >>= f) = trying x >>= fun a => trying (f a) := by
  show ExceptT.mk (run (x.run >>= ExceptT.bindCont f)) =
    ExceptT.mk (run x.run >>= ExceptT.bindCont fun a => trying (f a))
  rw [run_bind]
  refine congrArg ExceptT.mk (bind_congr fun answer => ?_)
  cases answer <;> rfl

theorem trying_engineCall (retry : RetryPolicy) (tier : Tier)
    (call : SiteM (Except EngineError α)) :
    trying (engineCall retry tier call) = engineCall (m := StateM Site) retry tier (run call) := by
  rw [trying, engineCall, engineCall, ExceptT.run_mk, run_bind, RetryPolicy.run, run_runFrom]
  refine congrArg ExceptT.mk (bind_congr fun answer => ?_)
  cases answer <;> rfl

theorem trying_syncTier (tier : Tier) (desired : List Rule) (retry : RetryPolicy) :
    trying (syncTier tier desired retry) = syncTier (m := StateM Site) tier desired retry := by
  rw [syncTier, trying_bind, trying_engineCall]
  refine bind_congr fun active => ?_
  rw [trying_bind, trying_engineCall]
  rfl

theorem run_syncTier (tier : Tier) (desired : List Rule) (retry : RetryPolicy) :
    run (syncTier tier desired retry).run = (syncTier (m := StateM Site) tier desired retry).run :=
  congrArg ExceptT.run (trying_syncTier tier desired retry)

theorem run_setTierEnabled (tier : Tier) (enabled : Bool) (retry : RetryPolicy) :
    run (setTierEnabled tier enabled retry).run =
      (setTierEnabled (m := StateM Site) tier enabled retry).run :=
  congrArg ExceptT.run (trying_engineCall retry tier _)

/-! ## the coordinator -/

variable (c : Coordinator)

theorem run_loadState : run c.loadState = c.loadState (m := StateM Site) := by
  rw [Coordinator.loadState, run_bind]
  refine bind_congr fun answer => ?_
  cases answer <;> rfl

theorem run_persistState : run c.persistState = c.persistState (m := StateM Site) := by
  rw [Coordinator.persistState, run_bind]
  refine bind_congr fun answer => ?_
  cases answer <;> rfl

theorem run_refreshList (store : RuleStore) (l : StaticList) (url : String) :
    run (c.refreshList store l url) = c.refreshList (m := StateM Site) store l url := by
  rw [Coordinator.refreshList, run_bind]
  refine bind_congr fun answer => ?_
  cases answer with
  | error e => rfl
  | ok text =>
    dsimp only
    split
    · rfl
    · cases store.replaceAll l.tier (FilterList.compile text.toList l.window).rules with
      | error e => rfl
      | ok replaced =>
        dsimp only
        rw [run_bind, run_syncTier]
        refine bind_congr fun answer => ?_
        cases answer <;> rfl

theorem run_refreshLists (force : Bool) (now : UInt64) (ls : List StaticList) (store : RuleStore)
    (report : RefreshReport) :
    run (c.refreshLists force now ls store report) =
      c.refreshLists (m := StateM Site) force now ls store report := by
  induction ls generalizing store report with
  | nil => rfl
  | cons l ls ih =>
    rw [Coordinator.refreshLists, Coordinator.refreshLists]
    cases l.url with
    | none =>
      dsimp only
      rw [run_bind, ih]
      rfl
    | some url =>
      dsimp only
      split
      · rw [run_bind, ih]
        rfl
      · rw [run_bind, run_refreshList]
        refine bind_congr fun answer => ?_
        obtain ⟨_ | _, store⟩ := answer
        · dsimp only
          rw [run_bind, ih]
          rfl
        · dsimp only
          rw [run_bind, ih]
          rfl

theorem run_refresh (store : RuleStore) (force : Bool) :
    run (c.refresh store force) = c.refresh (m := StateM Site) store force := by
  rw [Coordinator.refresh, run_bind]
  refine bind_congr fun now => ?_
  rw [run_bind, run_refreshLists]
  refine bind_congr fun pass => ?_
  dsimp only
  split
  · rfl
  · rw [run_bind, run_persistState]
    refine bind_congr fun answer => ?_
    cases answer <;> rfl

theorem run_setTiers (retry : RetryPolicy) (suspended : Bool) (ls : List StaticList) :
    run (Coordinator.setTiers retry suspended ls) =
      Coordinator.setTiers (m := StateM Site) retry suspended ls := by
  induction ls with
  | nil => rfl
  | cons l ls ih =>
    rw [Coordinator.setTiers, Coordinator.setTiers, run_bind, run_setTierEnabled]
    refine bind_congr fun answer => ?_
    cases answer with
    | error e => rfl
    | ok u => exact ih

theorem run_setSuspended (suspended : Bool) :
    run (c.setSuspended suspended) = c.setSuspended (m := StateM Site) suspended := by
  rw [Coordinator.setSuspended, run_bind, run_setTiers]
  refine bind_congr fun answer => ?_
  cases answer <;> rfl

theorem run_setListEnabled (id : String) (enabled : Bool) :
    run (c.setListEnabled id enabled) = c.setListEnabled (m := StateM Site) id enabled := by
  rw [Coordinator.setListEnabled, Coordinator.setListEnabled]
  cases c.list? id with
  | none => rfl
  | some l =>
    dsimp only
    split
    · rw [pure_bind, pure_bind]
      dsimp only
      rw [run_bind, run_persistState]
      rfl
    · rw [run_bind, run_setTierEnabled]
      refine bind_congr fun answer => ?_
      cases answer with
      | error e => rfl
      | ok u =>
        dsimp only
        rw [run_bind, run_persistState]
        rfl

end Site

namespace Blocker

variable {α β ε : Type}

namespace Action

/-- an operation of the blocker, at a site -/
def atSite (act : Action SiteM α) : Action (StateM Site) α :=
  ExceptT.mk (StateT.mk fun b => Site.run (act.on b))

theorem on_atSite (act : Action SiteM α) (b : Blocker) :
    act.atSite.on b = Site.run (act.on b) := rfl

theorem ext_on {x y : Action (StateM Site) α} (h : ∀ b, x.on b = y.on b) : x = y :=
  congrArg ExceptT.mk (funext h)

theorem atSite_bind (x : Action SiteM α) (f : α → Action SiteM β) :
    atSite (x >>= f) = atSite x >>= fun a => atSite (f a) := by
  refine ext_on fun b => funext fun s => ?_
  rw [on_bind, on_atSite, on_atSite]
  have hon : (x >>= f).on b = x.on b >>= fun r =>
      match r with
      | (.ok a, b) => (f a).on b
      | (.error e, b) => pure (.error e, b) := by
    unfold on
    rw [ExceptT.run_bind, StateT.run_bind]
    refine congrArg _ (funext fun r => ?_)
    obtain ⟨_ | _, _⟩ := r <;> rfl
  rw [hon, Site.run_bind, bind_apply]
  rcases Site.run (x.on b) s with ⟨⟨_ | _, _⟩, _⟩ <;> rfl

theorem atSite_get : atSite get = get := rfl

theorem atSite_modify (g : Blocker → Blocker) : atSite (modify g) = modify g := rfl

theorem atSite_perform (x : SiteM α) : atSite (perform x) = perform (Site.run x) := rfl

theorem atSite_call (cause : ε → SyncError) (x : SiteM (Except ε α)) :
    atSite (call cause x) = call cause (Site.run x) := by
  rw [call, call, atSite_bind, atSite_perform]
  refine bind_congr fun answer => ?_
  cases answer <;> rfl

theorem atSite_tryCatch (x : Action SiteM α) (handle : SyncError → Action SiteM α) :
    atSite (tryCatch x handle) = tryCatch (atSite x) fun e => atSite (handle e) := by
  refine ext_on fun b => funext fun s => ?_
  rw [on_tryCatch, on_atSite, on_atSite]
  have hon : (tryCatch x handle).on b = x.on b >>= fun r =>
      match r with
      | (.ok a, b) => pure (.ok a, b)
      | (.error e, b) => (handle e).on b := by
    unfold on
    rw [ExceptT.run_tryCatch, StateT.run_bind]
    refine congrArg _ (funext fun r => ?_)
    obtain ⟨_ | _, _⟩ := r <;> rfl
  rw [hon, Site.run_bind, bind_apply]
  rcases Site.run (x.on b) s with ⟨⟨_ | _, _⟩, _⟩ <;> rfl

theorem atSite_coordinate (f : Coordinator → SiteM (Except SyncError α × Coordinator)) :
    atSite (coordinate f) = coordinate fun c => Site.run (f c) := by
  rw [coordinate, coordinate, atSite_bind, atSite_get]
  refine bind_congr fun b => ?_
  rw [atSite_bind, atSite_perform]
  refine bind_congr fun r => ?_
  obtain ⟨_ | _, _⟩ := r <;> rfl

end Action

open Blocker.Action

/-! ## operations of the blocker -/

theorem atSite_sync (tier : Tier) : (sync tier).atSite = sync (m := StateM Site) tier := by
  rw [sync, sync, atSite_bind, atSite_get]
  refine bind_congr fun b => ?_
  rw [atSite_bind, atSite_call, Site.run_syncTier]
  rfl

theorem atSite_save (items : Items) : (save items).atSite = save (m := StateM Site) items :=
  atSite_call _ _

theorem atSite_replayFilter (c : CustomFilter) :
    (replayFilter c).atSite = replayFilter (m := StateM Site) c := by
  rw [replayFilter, replayFilter]
  cases Filter.parse c.filter.toList c.id with
  | error e => rfl
  | ok rule =>
    dsimp only
    rw [atSite_bind, atSite_get]
    rfl

theorem atSite_filterAuxM (saved kept : List CustomFilter) :
    (saved.filterAuxM (m := Action SiteM) replayFilter kept).atSite =
      saved.filterAuxM (m := Action (StateM Site)) replayFilter kept := by
  induction saved generalizing kept with
  | nil => rfl
  | cons c cs ih =>
    rw [List.filterAuxM, List.filterAuxM, atSite_bind, atSite_replayFilter]
    refine bind_congr fun keep => ?_
    exact ih _

theorem atSite_replayCustomFilters (saved : List CustomFilter) :
    (replayCustomFilters saved).atSite = replayCustomFilters (m := StateM Site) saved := by
  rw [replayCustomFilters, replayCustomFilters, atSite_bind, List.filterM, List.filterM,
    atSite_bind, atSite_filterAuxM]
  refine bind_congr fun kept => ?_
  split
  · rw [atSite_bind, atSite_tryCatch, saveCustomFilters, atSite_save]
    refine bind_congr fun _ => ?_
    rw [atSite_bind, atSite_modify, atSite_sync]
  · rw [atSite_bind, atSite_modify, atSite_sync]

theorem atSite_compileCustomFilter (text : String) :
    (compileCustomFilter text).atSite = compileCustomFilter (m := StateM Site) text := by
  rw [compileCustomFilter, compileCustomFilter, atSite_bind, atSite_get]
  refine bind_congr fun b => ?_
  cases b.store.allocateDynamicId with
  | error e => rfl
  | ok allocated =>
    dsimp only
    cases Filter.parse text.toList allocated.1 with
    | error rejection => rfl
    | ok rule =>
      dsimp only
      rcases allocated.2.add .dynamic rule with ⟨_ | _, _⟩ <;> rfl

theorem atSite_addCustomFilter (text : String) :
    (addCustomFilter text).atSite = addCustomFilter (m := StateM Site) text := by
  rw [addCustomFilter, addCustomFilter, atSite_bind, atSite_compileCustomFilter]
  refine bind_congr fun id => ?_
  rw [atSite_bind, atSite_get]
  refine bind_congr fun b => ?_
  rw [atSite_bind, atSite_tryCatch, saveCustomFilters, atSite_save]
  refine bind_congr fun _ => ?_
  rw [atSite_bind, atSite_modify]
  refine bind_congr fun _ => ?_
  rw [atSite_bind, atSite_sync]
  rfl

theorem atSite_removeCustomFilter (id : RuleId) :
    (removeCustomFilter id).atSite = removeCustomFilter (m := StateM Site) id := by
  rw [removeCustomFilter, removeCustomFilter, atSite_bind, atSite_get]
  refine bind_congr fun b => ?_
  dsimp only
  cases b.customFilters.find? fun c => c.id = id with
  | none => rfl
  | some removed =>
    dsimp only
    rw [atSite_bind, saveCustomFilters, atSite_save]
    refine bind_congr fun _ => ?_
    rw [atSite_bind, atSite_modify]
    refine bind_congr fun _ => ?_
    rw [atSite_bind, atSite_sync]
    rfl

theorem atSite_applyWhitelist (domains : List String) :
    (applyWhitelist domains).atSite = applyWhitelist (m := StateM Site) domains := by
  rw [applyWhitelist, applyWhitelist, atSite_bind, atSite_get]
  refine bind_congr fun b => ?_
  dsimp only
  split
  · rfl
  · rw [atSite_bind, atSite_save]
    refine bind_congr fun _ => ?_
    cases b.store.replaceAll .session (Whitelist.rules domains) with
    | error e => rfl
    | ok replaced =>
      dsimp only
      rw [atSite_bind, atSite_modify, atSite_sync]

theorem atSite_toggleWhitelist (domain : String) :
    (toggleWhitelist domain).atSite = toggleWhitelist (m := StateM Site) domain := by
  rw [toggleWhitelist, toggleWhitelist]
  cases Whitelist.normalize? domain with
  | none => rfl
  | some d =>
    dsimp only
    rw [atSite_bind, atSite_get]
    refine bind_congr fun b => ?_
    split
    · rw [atSite_bind, atSite_applyWhitelist]
      rfl
    · rw [atSite_bind, atSite_applyWhitelist]
      rfl

theorem atSite_refresh (force : Bool) :
    (refresh force).atSite = refresh (m := StateM Site) force := by
  rw [refresh, refresh, atSite_bind, atSite_get]
  refine bind_congr fun b => ?_
  rw [atSite_bind, atSite_perform, Site.run_refresh]
  rfl

theorem atSite_setListEnabled (list : String) (enabled : Bool) :
    (setListEnabled list enabled).atSite = setListEnabled (m := StateM Site) list enabled :=
  (atSite_coordinate _).trans
    (congrArg coordinate (funext fun c => Site.run_setListEnabled c list enabled))

theorem atSite_applyEnabled (enabled : Bool) :
    (applyEnabled enabled).atSite = applyEnabled (m := StateM Site) enabled := by
  rw [applyEnabled, applyEnabled, atSite_bind, atSite_coordinate]
  simp only [Site.run_setSuspended]
  refine bind_congr fun _ => ?_
  rw [atSite_bind, atSite_get]
  refine bind_congr fun b => ?_
  rw [atSite_bind, atSite_call, Site.run_setTierEnabled]
  rfl

theorem atSite_setEnabled (enabled : Bool) :
    (setEnabled enabled).atSite = setEnabled (m := StateM Site) enabled := by
  rw [setEnabled, setEnabled, atSite_bind, atSite_save, atSite_applyEnabled]

theorem atSite_restore : restore.atSite = restore (m := StateM Site) := by
  rw [restore, restore, atSite_bind, atSite_coordinate]
  refine (congrArg (· >>= _) (congrArg coordinate (funext fun c => ?_))).trans
    (bind_congr fun _ => ?_)
  · rw [Site.run_bind, Site.run_loadState]
    refine bind_congr fun answer => ?_
    cases answer <;> rfl
  · rw [atSite_bind, atSite_call]
    refine bind_congr fun items => ?_
    rw [atSite_bind, atSite_replayCustomFilters]
    refine bind_congr fun _ => ?_
    rw [atSite_bind, atSite_applyWhitelist, atSite_applyEnabled]

end Blocker

end Blocklist
