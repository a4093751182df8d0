import Blocklist.Proofs.Durability

/-!
# Changes that are refused

A change may be refused before it is made: by the parser, by the store, since it names nothing that
exists, or since it cannot be saved. Then everything is as it was before. Only an engine that does
not follow leaves a change half made.

* `SyncError.FromEngine`             the errors of calls of the engine, and no others;
* `RuleStore.Intact`                 what every operation preserves, also after several starts;
* `Blocker.Attained`                 what can have happened to a blocker, starts included;
* `Blocker.Unchanged`                what a refused change leaves as it was, which is everything;
* `Blocker.Attained.refusals_change_nothing`   it holds of every operation that saves first.
-/

namespace Blocklist

/-! ## errors of the engine -/

def SyncError.FromEngine (e : SyncError) : Prop :=
  ∃ tier attempts cause, e = .engineApplyFailed tier attempts cause

section
variable {σ α : Type} [Services (StateM σ)] {retry : RetryPolicy} {tier : Tier} {enabled : Bool}
  {e : SyncError} {w w' : σ}

theorem fromEngine_of_engineCall {call : StateM σ (Except EngineError α)}
    (h : (engineCall retry tier call).run w = (.error e, w')) : e.FromEngine := by
  have hrun : (engineCall retry tier call).run w =
      match retry.run call w with
      | (.ok a, w) => (.ok a, w)
      | (.error e, w) => (.error (.engineApplyFailed tier e.attempts e.lastError), w) := by
    show (retry.run call >>= _) w = _
    rw [bind_apply]
    rcases retry.run call w with ⟨e | a, w₁⟩ <;> rfl
  rw [hrun] at h
  split at h
  · cases h
  · cases h
    exact ⟨_, _, _, rfl⟩

theorem fromEngine_of_syncTier {desired : List Rule}
    (h : (syncTier (m := StateM σ) tier desired retry).run w = (.error e, w')) :
    e.FromEngine := by
  rw [syncTier] at h
  rcases hread : (engineCall retry tier (RuleEngine.activeIds tier : StateM σ _)).run w with
    ⟨e₁ | active, w₁⟩
  · rw [run_bind_error hread] at h
    cases h
    exact fromEngine_of_engineCall hread
  · rw [run_bind_ok hread] at h
    rcases happly : (engineCall retry tier (RuleEngine.applyDiff tier
      (reconcile tier desired active) : StateM σ _)).run w₁ with ⟨e₂ | u, w₂⟩
    · rw [run_bind_error happly] at h
      cases h
      exact fromEngine_of_engineCall happly
    · rw [run_bind_ok happly] at h
      cases h

theorem fromEngine_of_setTierEnabled
    (h : (setTierEnabled (m := StateM σ) tier enabled retry).run w = (.error e, w')) :
    e.FromEngine :=
  fromEngine_of_engineCall h

theorem Coordinator.fromEngine_of_setTiers {suspended : Bool} {ls : List StaticList}
    (h : setTiers (m := StateM σ) retry suspended ls w = (.error e, w')) : e.FromEngine := by
  induction ls generalizing w with
  | nil => cases h
  | cons l ls ih =>
    rw [setTiers, bind_apply] at h
    rcases hrun : (setTierEnabled (m := StateM σ) l.tier (l.enabled && !suspended) retry).run w with
      ⟨e₁ | u, w₁⟩
    · rw [hrun] at h
      cases h
      exact fromEngine_of_setTierEnabled hrun
    · rw [hrun] at h
      exact ih h

theorem Coordinator.fromEngine_of_setSuspended {c c' : Coordinator} {suspended : Bool}
    (h : c.setSuspended (m := StateM σ) suspended w = ((.error e, c'), w')) : e.FromEngine := by
  rw [setSuspended, bind_apply] at h
  rcases hrun : setTiers (m := StateM σ) c.retry suspended c.lists w with ⟨e₁ | u, w₁⟩
  · rw [hrun] at h
    cases h
    exact fromEngine_of_setTiers hrun
  · rw [hrun] at h
    cases h

end

/-! ## what every operation preserves -/

/-- The tables of the store fit, and the issued ids are those of the dynamic rules. -/
structure RuleStore.Intact (s : RuleStore) : Prop where
  sound : s.Sound
  accounted : s.Accounted []

namespace RuleStore.Intact

variable {s s' : RuleStore} (h : s.Intact)
include h

theorem of_puts {t : RuleTable} (store : s.Puts .dynamic t s') (ha : s.Admits .dynamic t)
    (ids : s.Accounted [] → s'.Accounted []) : s'.Intact :=
  ⟨store.sound h.sound ha, ids h.accounted⟩

theorem of_onlyStatic (store : s.OnlyStatic s') : s'.Intact :=
  ⟨store.sound h.sound, h.accounted.of_same store.ids (store.table .dynamic rfl)⟩

theorem add (rule : Rule) : (s.add .dynamic rule).2.Intact := by
  refine ⟨h.sound.add .dynamic rule, ?_⟩
  rcases hadd : s.add .dynamic rule with ⟨e | u, s'⟩
  · exact h.accounted.add_error hadd
  · exact h.accounted.add_ok hadd

theorem replay (cs : List CustomFilter) : (s.replay cs).2.Intact := by
  induction cs generalizing s with
  | nil => exact h
  | cons c cs ih =>
    cases hr : c.rule with
    | error e =>
      rw [replay_cons_rejected hr]
      exact ih h
    | ok r =>
      have hadded := h.add r
      rcases hadd : s.add .dynamic r with ⟨e | u, s'⟩
      · rw [hadd] at hadded
        rw [replay_cons_refused hr hadd]
        exact ih hadded
      · rw [hadd] at hadded
        rw [replay_cons_ok hr hadd]
        exact ih hadded

end RuleStore.Intact

namespace Blocker

theorem intact_ofConfig (config : SyncConfig) : (ofConfig config).store.Intact :=
  ⟨RuleStore.sound_registerWindows_new _ config.limits,
    RuleStore.accounted_registerWindows_new _ config.limits⟩

section
variable {σ α : Type} [Services (StateM σ)] {b b' : Blocker} {w w' : σ}

theorem Addition.intact {text : String} {answer : Except SyncError RuleId}
    (change : Addition text b w answer b' w') (h : b.store.Intact) : b'.store.Intact := by
  cases change with
  | refused store ids => exact h.of_puts store (h.sound .dynamic) ids
  | unsaved failed store ids => exact h.of_puts store (h.sound .dynamic) ids
  | made accepted fresh admits store saved made ids =>
    rw [made]
    exact h.of_puts store (admits h.sound) ids

theorem Removal.intact {id : RuleId} {answer : Except SyncError CustomFilter}
    (change : Removal id b w answer b' w') (h : b.store.Intact) : b'.store.Intact := by
  cases change with
  | unknown => exact h
  | unsaved failed => exact h
  | made without saved made =>
    rw [made]
    exact ⟨h.sound.remove .dynamic id, h.accounted.remove id⟩

theorem Whitelisting.intact {domains : List String} {answer : Except SyncError Unit}
    (change : Whitelisting domains b w answer b' w') (h : b.store.Intact) : b'.store.Intact := by
  cases change with
  | full hfull => exact h
  | unsaved failed => exact h
  | made fits saved store sound made ids =>
    rw [made]
    exact ⟨sound h.sound, h.accounted.of_same ids (store.table_of_ne .dynamic nofun)⟩

theorem WhitelistChange.intact {answer : Except SyncError α}
    (change : WhitelistChange b w answer b' w') (h : b.store.Intact) : b'.store.Intact := by
  cases change with
  | invalid => exact h
  | applied normal change => exact change.intact h

theorem Switching.intact {enabled : Bool} {answer : Except SyncError Unit}
    (change : Switching enabled b w answer b' w') (h : b.store.Intact) : b'.store.Intact := by
  cases change with
  | lists failed => exact h
  | filters lists failed => exact h
  | made lists filters => exact h

theorem Adoption.intact {items : Items} {answer : Except SyncError Unit}
    (change : Adoption items b w answer b' w') (h : b.store.Intact) : b'.store.Intact := by
  have replayed : (b.replayed (Saved.customFilters items)).store.Intact := h.replay _
  cases change with
  | filters filters failed =>
    rw [filters]
    exact replayed
  | whitelist filters synced failed =>
    rw [← filters] at replayed
    exact failed.intact replayed
  | switch filters synced whitelist switch =>
    rw [← filters] at replayed
    exact switch.intact (whitelist.intact replayed)

theorem intact_of_refresh {force : Bool} {r : RefreshReport} {c : Coordinator} {s' : RuleStore}
    (h : b.store.Intact)
    (hrun : b.coordinator.refresh (m := StateM σ) b.store force w = ((r, c, s'), w')) :
    s'.Intact := by
  have store := b.coordinator.refresh_onlyStatic b.store force w
  rw [hrun] at store
  exact h.of_onlyStatic store

theorem Ending.intact {op : Operation} (ending : Ending b w op b' w') (h : b.store.Intact) :
    b'.store.Intact := by
  cases ending with
  | addition change => exact change.intact h
  | removal change => exact change.intact h
  | recomputed change => exact change.intact h
  | toggled change => exact change.intact h
  | list hrun => exact h
  | unsaved failed hrun => exact h
  | switched saved hrun change => exact change.intact h
  | refreshed hrun => exact intact_of_refresh h hrun

theorem intact_restore (h : b.store.Intact) (w : σ) :
    ((restore (m := StateM σ)).after b w).1.store.Intact := by
  rcases restore_cases b w with ⟨e, c, w', hrun⟩ | ⟨c, items, w₁, hrun⟩
  · rw [Action.after_eq hrun]
    exact h
  · obtain ⟨answer, b', w', hadopt, change⟩ := adopt_cases items { b with coordinator := c } w₁
    rw [Action.after_eq (hrun.trans hadopt)]
    exact change.intact h

theorem Start.intact (start : Start) (h : b.store.Intact) (w : σ) :
    (start.run b w).1.store.Intact := by
  have restored := intact_restore h w
  rcases start.run_cases b w with hstart | ⟨b₁, w₁, r, c, s', w', hrestore, hrefresh, hstart⟩
  · rw [hstart]
    exact restored
  · rw [hrestore] at restored
    rw [hstart]
    exact intact_of_refresh restored hrefresh

end

/-- A blocker after any operations and any number of starts, in worlds that may be different each
time. -/
inductive Attained (config : SyncConfig) : Blocker → Prop where
  | new {b : Blocker} (h : Blocker.new config = .ok b) : Attained config b
  | start {b : Blocker} (h : Attained config b) (start : Start) (w : Memory) :
      Attained config (start.run b w).1
  | step {b : Blocker} (h : Attained config b) (op : Operation) (w : Memory) :
      Attained config (op.run b w).1

variable {config : SyncConfig} {b b' : Blocker} {w w' : Memory}

theorem Attained.intact (h : Attained config b) : b.store.Intact := by
  induction h with
  | new h =>
    obtain ⟨-, rfl⟩ := new_eq_ok_iff.mp h
    exact intact_ofConfig config
  | start h start w ih => exact start.intact ih w
  | step h op w ih => exact (op.ending _ w).intact ih

/-! ## nothing has changed -/

/-- Blocker and world are as before. The allocator may go on from another id, and a dynamic tier
without rules may have become populated. -/
structure Unchanged (b : Blocker) (w : Memory) (b' : Blocker) (w' : Memory) : Prop where
  config : b'.config = b.config
  customFilters : b'.customFilters = b.customFilters
  whitelist : b'.whitelist = b.whitelist
  enabled : b'.enabled = b.enabled
  /-- each list with its flag, its last update and its fingerprint -/
  coordinator : b'.coordinator = b.coordinator
  rules : ∀ tier, b'.store.rules tier = b.store.rules tier
  hasTier : ∀ tier, tier ≠ .dynamic ∨ b.store.rules .dynamic ≠ [] →
    b'.store.hasTier tier = b.store.hasTier tier
  windows : b'.store.windows = b.store.windows
  limits : b'.store.limits = b.store.limits
  issued : b'.store.dynamicIds.issued = b.store.dynamicIds.issued
  items : w'.store.items = w.store.items
  /-- the rules of every tier, and which tiers are on -/
  engine : w'.engine = w.engine
  sources : w'.sources = w.sources
  clock : w'.clock = w.clock

theorem Unchanged.refl (b : Blocker) (w : Memory) : Unchanged b w b w :=
  ⟨rfl, rfl, rfl, rfl, rfl, fun _ => rfl, fun _ _ => rfl, rfl, rfl, rfl, rfl, rfl, rfl, rfl⟩

/-- a save that failed changes nothing either -/
theorem Unchanged.of_unsaved {items : Items} {e : StorageError} (h : Unchanged b w b' w)
    (failed : saving items w = (.error e, w')) : Unchanged b w b' w' := by
  obtain ⟨n, -, hstore⟩ := store_of_saving_error failed
  rw [saving_apply] at failed
  have hw' := (Prod.mk.inj failed).2
  have hitems : w'.store.items = w.store.items := by rw [hstore]
  subst hw'
  exact { h with items := hitems, engine := rfl, sources := rfl, clock := rfl }

/-- a store that only issued an id and took it back -/
theorem unchanged_of_puts {s' : RuleStore} (h : b.store.Intact)
    (store : b.store.Puts .dynamic (b.store.table .dynamic) s')
    (ids : b.store.Accounted [] → s'.Accounted []) (w : Memory) :
    Unchanged b w { b with store := s' } w := by
  have table : ∀ tier, s'.table tier = b.store.table tier := by
    intro tier
    by_cases hne : Tier.dynamic = tier
    · rw [← hne, store.table]
    · exact store.table_of_ne tier hne
  have rules : ∀ tier, s'.rules tier = b.store.rules tier := by
    intro tier
    rw [RuleStore.rules, table]
    rfl
  refine ⟨rfl, rfl, rfl, rfl, rfl, rules, fun tier htier => ?_, store.bounds.windows,
    store.bounds.limits, h.accounted.issued_eq (ids h.accounted) store.table, rfl, rfl, rfl, rfl⟩
  by_cases hne : Tier.dynamic = tier
  · subst hne
    have hrules := htier.resolve_left fun hne => hne rfl
    show s'.hasTier .dynamic = _
    rw [RuleStore.hasTier_of_rules_ne_nil hrules,
      RuleStore.hasTier_of_rules_ne_nil (rules .dynamic ▸ hrules)]
  · exact store.hasTier_of_ne tier hne

/-! ## each change that is refused -/

/-- An operation that fails for another reason than the engine changes nothing. -/
def Refusable {α : Type} (act : Action (StateM Memory) α) (b : Blocker) : Prop :=
  ∀ w e b' w', act.on b w = ((.error e, b'), w') → ¬ e.FromEngine → Unchanged b w b' w'

theorem refusable_of_cases {α : Type} {act : Action (StateM Memory) α}
    (h : ∀ w, ∃ answer b' w', act.on b w = ((answer, b'), w') ∧
      ∀ e, answer = .error e → ¬ e.FromEngine → Unchanged b w b' w') : Refusable act b := by
  intro w e b₁ w₁ hrun he
  obtain ⟨answer, b', w', hrun', hrefused⟩ := h w
  rw [hrun] at hrun'
  cases hrun'
  exact hrefused e rfl he

theorem fromEngine_of_syncing {α : Type} {tier : Tier} {f : RuleDiff → α} {e : SyncError}
    (h : (syncing tier b w).1.map f = .error e) : e.FromEngine := by
  rcases hrun : syncing tier b w with ⟨e' | d, w'⟩
  · rw [hrun] at h
    cases h
    exact fromEngine_of_syncTier hrun
  · rw [hrun] at h
    cases h

theorem Addition.unchanged {text : String} {answer : Except SyncError RuleId}
    (change : Addition text b w answer b' w') (hb : b.store.Intact) {e : SyncError}
    (h : answer = .error e) (he : ¬ e.FromEngine) : Unchanged b w b' w' := by
  cases change with
  | refused store ids => exact unchanged_of_puts hb store ids w
  | unsaved failed store ids => exact (unchanged_of_puts hb store ids w).of_unsaved failed
  | made accepted fresh admits store saved made => exact absurd (fromEngine_of_syncing h) he

theorem Removal.unchanged {id : RuleId} {answer : Except SyncError CustomFilter}
    (change : Removal id b w answer b' w') {e : SyncError} (h : answer = .error e)
    (he : ¬ e.FromEngine) : Unchanged b w b' w' := by
  cases change with
  | unknown => exact .refl b w
  | unsaved failed => exact (Unchanged.refl b w).of_unsaved failed
  | made without saved made => exact absurd (fromEngine_of_syncing h) he

theorem Whitelisting.unchanged {domains : List String} {answer : Except SyncError Unit}
    (change : Whitelisting domains b w answer b' w') {e : SyncError} (h : answer = .error e)
    (he : ¬ e.FromEngine) : Unchanged b w b' w' := by
  cases change with
  | full hfull => exact .refl b w
  | unsaved failed => exact (Unchanged.refl b w).of_unsaved failed
  | made fits saved store sound made => exact absurd (fromEngine_of_syncing h) he

theorem WhitelistChange.unchanged {α : Type} {answer : Except SyncError α}
    (change : WhitelistChange b w answer b' w') {e : SyncError} (h : answer = .error e)
    (he : ¬ e.FromEngine) : Unchanged b w b' w' := by
  cases change with
  | invalid => exact .refl b w
  | @applied domains answer b' w' a normal change =>
    cases answer with
    | error e' =>
      cases h
      exact change.unchanged rfl he
    | ok u => cases h

theorem Switching.fromEngine {enabled : Bool} {answer : Except SyncError Unit}
    (change : Switching enabled b w answer b' w') {e : SyncError} (h : answer = .error e) :
    e.FromEngine := by
  cases change with
  | lists failed =>
    cases h
    exact Coordinator.fromEngine_of_setSuspended failed
  | filters lists failed =>
    cases h
    exact fromEngine_of_setTierEnabled failed
  | made lists filters => cases h

/-! ## refusals -/

/-- a blocker whose operations change nothing when they are refused -/
structure RefusesCleanly (b : Blocker) : Prop where
  add : ∀ text, Refusable (addCustomFilter text) b
  remove : ∀ id, Refusable (removeCustomFilter id) b
  recompute : ∀ domains, Refusable (recomputeWhitelist domains) b
  toggle : ∀ domain, Refusable (toggleWhitelist domain) b
  switch : ∀ enabled, Refusable (setEnabled enabled) b

/-- Whatever happened to a blocker, a change that is refused or cannot be saved changes nothing. -/
theorem Attained.refusals_change_nothing (h : Attained config b) : RefusesCleanly b := by
  constructor
  case add =>
    intro text
    refine refusable_of_cases fun w => ?_
    obtain ⟨answer, b', w', hrun, change⟩ := addCustomFilter_cases text b w
    exact ⟨answer, b', w', hrun, fun e => change.unchanged h.intact⟩
  case remove =>
    intro id
    refine refusable_of_cases fun w => ?_
    obtain ⟨answer, b', w', hrun, change⟩ := removeCustomFilter_cases id b w
    exact ⟨answer, b', w', hrun, fun e => change.unchanged⟩
  case recompute =>
    intro domains
    refine refusable_of_cases fun w => ?_
    obtain ⟨answer, b', w', hrun, change⟩ := recomputeWhitelist_cases domains b w
    exact ⟨answer, b', w', hrun, fun e => change.unchanged⟩
  case toggle =>
    intro domain
    refine refusable_of_cases fun w => ?_
    obtain ⟨answer, b', w', hrun, change⟩ := toggleWhitelist_cases domain b w
    exact ⟨answer, b', w', hrun, fun e => change.unchanged⟩
  case switch =>
    intro enabled
    refine refusable_of_cases fun w => ?_
    rcases setEnabled_cases enabled b w with
      ⟨e, w', failed, hrun⟩ | ⟨w₁, answer, b', w', -, hrun, change⟩
    · exact ⟨_, b, w', hrun, fun _ _ _ => (Unchanged.refl b w).of_unsaved failed⟩
    · exact ⟨answer, b', w', hrun, fun e h he => absurd (change.fromEngine h) he⟩

/-- A filter cannot be saved; its rule is taken back, and its id is given back. -/
theorem unsaved_addCustomFilter_default :
    ∃ b' w', (addCustomFilter (m := StateM Memory) "||ads.example^").on (ofConfig .default)
        { store := { failures := 1 } } =
        ((.error (.storage (.backend "injected write failure")), b'), w') ∧
      Unchanged (ofConfig .default) { store := { failures := 1 } } b' w' := by
  have hanswer : ((addCustomFilter (m := StateM Memory) "||ads.example^").on (ofConfig .default)
      { store := { failures := 1 } }).1.1 =
        .error (.storage (.backend "injected write failure")) := by
    decide +kernel
  rcases hrun : (addCustomFilter (m := StateM Memory) "||ads.example^").on (ofConfig .default)
    { store := { failures := 1 } } with ⟨⟨answer, b'⟩, w'⟩
  rw [hrun] at hanswer
  cases hanswer
  have attained : Attained .default (ofConfig .default) :=
    .new (new_eq_ok_iff.mpr ⟨by decide, rfl⟩)
  refine ⟨b', w', rfl, (Attained.refusals_change_nothing attained).add _ _ _ _ _ hrun ?_⟩
  rintro ⟨tier, attempts, cause, h⟩
  cases h

end Blocker

end Blocklist
