import Blocklist.Proofs.Consistency
import Blocklist.Proofs.CoordinatorRuns

/-!
# Engine and store agree

The engine in memory may refuse any call, and what it holds at first is not known. Still its static
tiers are those of the store as soon as they are loaded, an operation that succeeds leaves its tier
in line, one that the engine refused leaves the engine alone, and session rules of others stay.

* `Agreed`                           store and engine, as far as they agree in every state;
* `Coordinator.Pass.agreed`          a refresh preserves it;
* `Blocker.Reachable.agreed`         it holds in every reachable state;
* `Blocker.EngineAgrees`, `Blocker.Reachable.engine_agrees`   what that means for rules.
-/

namespace Blocklist

/-- the engine has the rules of before; anything else may be different -/
def Memory.SameRules (w w' : Memory) : Prop := w'.engine.tables = w.engine.tables

/-- Loaded static tiers are those of the store, and session rules of others those of `e₀`. -/
structure Agreed (e₀ : MemoryEngine) (s : RuleStore) (e : MemoryEngine) : Prop where
  static : ∀ list, s.hasTier (.static list) = true →
    e.table (.static list) = s.table (.static list)
  foreign : (e.table .session).foreign .session = (e₀.table .session).foreign .session

theorem agreed_ofConfig (config : SyncConfig) (e : MemoryEngine) :
    Agreed e (Blocker.ofConfig config).store e where
  static list h := by
    rw [Blocker.ofConfig, RuleStore.hasTier_registerWindows_new] at h
    cases h
  foreign := rfl

namespace Agreed

variable {e₀ e e' : MemoryEngine} {s s' : RuleStore} {tier : Tier} {t : RuleTable}

variable (h : Agreed e₀ s e)
include h

theorem of_tables (htables : e'.tables = e.tables) : Agreed e₀ s e' := by
  refine ⟨fun list hlist => ?_, ?_⟩
  · rw [MemoryEngine.table_congr htables]
    exact h.static list hlist
  · rw [MemoryEngine.table_congr htables]
    exact h.foreign

/-- the store changes in a tier that is not static -/
theorem of_puts (htier : tier.isStatic = false) (store : s.Puts tier t s') : Agreed e₀ s' e where
  static list hlist := by
    have hne : tier ≠ .static list := by
      rintro rfl
      cases htier
    rw [store.hasTier_of_ne _ hne] at hlist
    rw [store.table_of_ne _ hne]
    exact h.static list hlist
  foreign := h.foreign

/-- the engine follows in some tier -/
theorem of_synced (hs : s.Sound) (synced : e.Synced tier (s.rules tier) e') : Agreed e₀ s e' where
  static list hlist := by
    by_cases heq : tier = .static list
    · subst heq
      exact hs.table_of_synced synced nofun
    · rw [synced.table_of_ne heq]
      exact h.static list hlist
  foreign := by
    by_cases heq : tier = .session
    · subst heq
      rw [synced.foreign_table (hs.takes .session)]
      exact h.foreign
    · rw [synced.table_of_ne heq]
      exact h.foreign

end Agreed

/-! ## refresh -/

namespace Coordinator

variable {c : Coordinator} {force : Bool} {now : UInt64} {l : StaticList} {o : Outcome} {log : Log}
  {s s' : RuleStore} {w w' : Memory} {e₀ : MemoryEngine}

theorem Turn.agreed (turn : c.Turn force now l s w o s' w') (hs : s.Sound)
    (h : Agreed e₀ s w.engine) : Agreed e₀ s' w'.engine := by
  cases turn with
  | skipped hskip => exact h
  | failed hskip hurl fetched kept => exact h.of_tables kept.tables
  | unchanged hskip hurl fetched source kept same loaded => exact h.of_tables kept.tables
  | renewed hskip hurl fetched source replaced synced =>
    have hs' := RuleStore.Sound.replaceAll replaced hs
    refine ⟨fun list hlist => ?_, ?_⟩
    · by_cases heq : l.tier = .static list
      · rw [← heq]
        exact hs'.table_of_synced synced nofun
      · rw [synced.table_of_ne heq, RuleStore.table_replaceAll replaced, if_neg heq]
        rw [RuleStore.hasTier_replaceAll replaced, decide_eq_false heq, Bool.false_or] at hlist
        exact h.static list hlist
    · rw [synced.table_of_ne (show l.tier ≠ .session from nofun)]
      exact h.foreign

theorem Pass.agreed (pass : c.Pass force now log s w s' w') (hs : s.Sound)
    (h : Agreed e₀ s w.engine) : Agreed e₀ s' w'.engine := by
  induction pass with
  | nil s w => exact h
  | cons turn rest ih => exact ih (turn.sound hs) (turn.agreed hs h)

theorem refresh_agreed (hs : s.Sound) (h : Agreed e₀ s w.engine) {r : RefreshReport}
    {c' : Coordinator}
    (hrun : c.refresh (m := StateM Memory) s force w = ((r, c', s'), w')) :
    Agreed e₀ s' w'.engine := by
  obtain ⟨log, w₁, -, pass, -, -, engine, -⟩ := refresh_pass hs hrun
  rw [engine]
  exact pass.agreed hs h

theorem tables_of_setListEnabled {id : String} {enabled : Bool} {answer : Except SyncError Unit}
    {c' : Coordinator}
    (hrun : c.setListEnabled (m := StateM Memory) id enabled w = ((answer, c'), w')) :
    w'.engine.tables = w.engine.tables := by
  rcases setListEnabled_cases c id enabled w with ⟨e, w₁, hrun', hstep⟩ | ⟨w₁, hstep, hrun'⟩
  · rw [hrun] at hrun'
    cases hrun'
    exact hstep.tables
  · rw [hrun] at hrun'
    cases hrun'
    exact hstep.tables

end Coordinator

namespace Blocker

variable {config : SyncConfig} {b b' : Blocker} {w w' : Memory} {e₀ : MemoryEngine}

/-! ## saving and syncing in memory -/

theorem saving_apply (items : Items) (w : Memory) :
    saving items w = ((w.store.save items).1, { w with store := (w.store.save items).2 }) := rfl

theorem engine_of_saving {items : Items} {answer : Except StorageError Unit}
    (h : saving items w = (answer, w')) : w'.engine = w.engine := by
  rw [saving_apply] at h
  rw [← (Prod.mk.inj h).2]

theorem syncing_cases (hs : b.store.Sound) (tier : Tier) (w : Memory) :
    (∃ d w', syncing tier b w = (.ok d, w') ∧ w.EngineStep w' ∧
      w.engine.Synced tier (b.store.rules tier) w'.engine) ∨
    (∃ e w', syncing tier b w = (.error e, w') ∧ w.EngineStep w' ∧ w.engine.Kept w'.engine) := by
  rcases syncTier_cases b.config.retry (hs.takes tier) w with
    ⟨d, w', hrun, hstep, synced⟩ | ⟨w', hrun, hstep, kept⟩
  · exact .inl ⟨d, w', hrun, hstep, synced⟩
  · exact .inr ⟨_, w', hrun, hstep, kept⟩

theorem synced_of_syncing_ok {tier : Tier} {d : RuleDiff} (hs : b.store.Sound)
    (h : syncing tier b w = (.ok d, w')) : w.engine.Synced tier (b.store.rules tier) w'.engine := by
  rcases syncing_cases hs tier w with ⟨d', w₁, hrun, -, synced⟩ | ⟨e, w₁, hrun, -, -⟩
  · rw [h] at hrun
    cases hrun
    exact synced
  · rw [h] at hrun
    cases hrun

section
variable {α : Type} {f : RuleDiff → α} {tier : Tier}

/-- a sync that succeeds brings the tier in line -/
theorem synced_of_map_ok {a : α} (hs : b.store.Sound) (h : (syncing tier b w).1.map f = .ok a) :
    w.engine.Synced tier (b.store.rules tier) (syncing tier b w).2.engine := by
  rcases syncing_cases hs tier w with ⟨d, w', hrun, -, synced⟩ | ⟨e, w', hrun, -, kept⟩
  · rw [hrun]
    exact synced
  · rw [hrun] at h
    cases h

/-- a sync that fails leaves the engine alone -/
theorem kept_of_map_error {e : SyncError} (hs : b.store.Sound)
    (h : (syncing tier b w).1.map f = .error e) : w.engine.Kept (syncing tier b w).2.engine := by
  rcases syncing_cases hs tier w with ⟨d, w', hrun, -, synced⟩ | ⟨e', w', hrun, -, kept⟩
  · rw [hrun] at h
    cases h
  · rw [hrun]
    exact kept

end

theorem syncing_agreed (hs : b.store.Sound) (h : Agreed e₀ b.store w.engine) (tier : Tier) :
    Agreed e₀ b.store (syncing tier b w).2.engine := by
  rcases syncing_cases hs tier w with ⟨d, w', hrun, -, synced⟩ | ⟨e, w', hrun, -, kept⟩
  · rw [hrun]
    exact h.of_synced hs synced
  · rw [hrun]
    exact h.of_tables kept.tables

/-! ## each operation preserves agreement -/

theorem Addition.agreed {text : String} {answer : Except SyncError RuleId}
    (change : Addition text b w answer b' w') (hb : Coherent config b)
    (h : Agreed e₀ b.store w.engine) : Agreed e₀ b'.store w'.engine := by
  have hb' := hb.addition change
  cases change with
  | refused store => exact h.of_puts rfl store
  | unsaved failed store =>
    rw [engine_of_saving failed]
    exact h.of_puts rfl store
  | made accepted fresh admits store saved made =>
    refine syncing_agreed hb'.sound ?_ .dynamic
    rw [engine_of_saving saved, made]
    exact h.of_puts rfl store

theorem Removal.agreed {id : RuleId} {answer : Except SyncError CustomFilter}
    (change : Removal id b w answer b' w') (hb : Coherent config b)
    (h : Agreed e₀ b.store w.engine) : Agreed e₀ b'.store w'.engine := by
  have hb' := hb.removal change
  cases change with
  | unknown => exact h
  | unsaved failed =>
    rw [engine_of_saving failed]
    exact h
  | made without saved made =>
    refine syncing_agreed hb'.sound ?_ .dynamic
    rw [engine_of_saving saved, made]
    exact h.of_puts rfl (RuleStore.puts_remove b.store .dynamic id)

theorem Whitelisting.agreed {domains : List String} {answer : Except SyncError Unit}
    (change : Whitelisting domains b w answer b' w') (hs : b.store.Sound)
    (h : Agreed e₀ b.store w.engine) : Agreed e₀ b'.store w'.engine := by
  cases change with
  | full hfull => exact h
  | unsaved failed =>
    rw [engine_of_saving failed]
    exact h
  | made fits saved store sound made =>
    refine syncing_agreed (by rw [made]; exact sound hs) ?_ .session
    rw [engine_of_saving saved, made]
    exact h.of_puts rfl store

theorem WhitelistChange.agreed {α : Type} {answer : Except SyncError α}
    (change : WhitelistChange b w answer b' w') (hs : b.store.Sound)
    (h : Agreed e₀ b.store w.engine) : Agreed e₀ b'.store w'.engine := by
  cases change with
  | invalid => exact h
  | applied normal change => exact change.agreed hs h

theorem Switching.store_eq {enabled : Bool} {answer : Except SyncError Unit}
    (change : Switching enabled b w answer b' w') : b'.store = b.store := by
  cases change <;> rfl

theorem Switching.flags {enabled : Bool} {answer : Except SyncError Unit}
    (change : Switching enabled b w answer b' w') : w.FlagStep w' := by
  have suspended : ∀ {answer c w₁}, b.coordinator.setSuspended (m := StateM Memory) (!enabled) w =
      ((answer, c), w₁) → w.FlagStep w₁ := by
    intro answer c w₁ hrun
    obtain ⟨answer', c', w₂, hrun', hstep, -⟩ := b.coordinator.setSuspended_cases (!enabled) w
    rw [hrun] at hrun'
    rw [(Prod.mk.inj hrun').2]
    exact hstep
  have tier : ∀ {answer w₁ w₂}, (setTierEnabled (m := StateM Memory) .dynamic enabled
      b.config.retry).run w₁ = (answer, w₂) → w₁.FlagStep w₂ := by
    intro answer w₁ w₂ hrun
    obtain ⟨answer', w₃, hrun', hstep⟩ := setTierEnabled_flags b.config.retry .dynamic enabled w₁
    rw [hrun] at hrun'
    rw [(Prod.mk.inj hrun').2]
    exact hstep
  cases change with
  | lists failed => exact suspended failed
  | filters lists failed => exact (suspended lists).trans (tier failed)
  | made lists filters => exact (suspended lists).trans (tier filters)

theorem Switching.agreed {enabled : Bool} {answer : Except SyncError Unit}
    (change : Switching enabled b w answer b' w') (h : Agreed e₀ b.store w.engine) :
    Agreed e₀ b'.store w'.engine := by
  rw [change.store_eq]
  exact h.of_tables change.flags.tables

theorem Ending.agreed {op : Operation} (ending : Ending b w op b' w') (hb : Coherent config b)
    (h : Agreed e₀ b.store w.engine) : Agreed e₀ b'.store w'.engine := by
  cases ending with
  | addition change => exact change.agreed hb h
  | removal change => exact change.agreed hb h
  | recomputed change => exact change.agreed hb.sound h
  | toggled change => exact change.agreed hb.sound h
  | list hrun => exact h.of_tables (Coordinator.tables_of_setListEnabled hrun)
  | unsaved failed hrun => exact engine_of_saving failed ▸ h
  | switched saved hrun change => exact change.agreed (engine_of_saving saved ▸ h)
  | refreshed hrun => exact Coordinator.refresh_agreed hb.sound h hrun

/-! ### start -/

theorem engine_pruned (saved : List CustomFilter) (b : Blocker) (w : Memory) :
    (pruned saved b w).engine = w.engine := by
  rw [pruned]
  split <;> rfl

theorem Adoption.agreed {items : Items} {answer : Except SyncError Unit}
    (change : Adoption items b w answer b' w') (hb : Coherent config b)
    (hnone : b.customFilters = []) (h : Agreed e₀ b.store w.engine) :
    Agreed e₀ b'.store w'.engine := by
  have hb₁ := hb.replayed hnone (Saved.customFilters items)
  have replayed : Agreed e₀ (b.replayed (Saved.customFilters items)).store
      (syncing .dynamic (b.replayed (Saved.customFilters items))
        (pruned (Saved.customFilters items) b w)).2.engine := by
    refine syncing_agreed hb₁.sound ?_ .dynamic
    rw [engine_pruned]
    have hm := hb.filters
    rw [hnone] at hm
    exact h.of_puts rfl (RuleStore.replay_mirrors hb.sound hm _).1
  cases change with
  | filters filters failed =>
    rw [← filters, failed] at replayed
    exact replayed
  | whitelist filters synced failed =>
    rw [← filters] at hb₁ replayed
    rw [synced] at replayed
    exact failed.agreed hb₁.sound replayed
  | switch filters synced whitelist switch =>
    rw [← filters] at hb₁ replayed
    rw [synced] at replayed
    exact switch.agreed (whitelist.agreed hb₁.sound replayed)

/-- what a restore reads, apart from the states of the lists -/
def savedItems (w : Memory) : Items :=
  w.store.items.pick [Saved.customFiltersKey, Saved.whitelistKey, Saved.enabledKey]

/-- the blocker with the saved states of the lists -/
def withSavedStates (b : Blocker) (w : Memory) : Blocker :=
  { b with
    coordinator :=
      b.coordinator.withStates (Saved.listStates (w.store.items.pick [Saved.listStatesKey])) }

/-- in memory, what is saved can always be read -/
theorem restore_memory (b : Blocker) (w : Memory) :
    (restore (m := StateM Memory)).on b w =
      (adopt (m := StateM Memory) (savedItems w)).on (b.withSavedStates w) w :=
  restore_on (Coordinator.loadState_apply b.coordinator w) rfl

theorem run_restore_agreed (hb : Coherent config b) (hnone : b.customFilters = [])
    (h : Agreed e₀ b.store w.engine) :
    Agreed e₀ ((restore (m := StateM Memory)).after b w).1.store
      ((restore (m := StateM Memory)).after b w).2.engine := by
  obtain ⟨answer, b', w', hadopt, change⟩ := adopt_cases (savedItems w) (b.withSavedStates w) w
  rw [Action.after_eq ((restore_memory b w).trans hadopt)]
  exact change.agreed (hb.of_coordinator _) hnone h

theorem run_start_agreed (hb : Coherent config b) (hnone : b.customFilters = [])
    (h : Agreed e₀ b.store w.engine) (start : Start) :
    Agreed e₀ (start.run b w).1.store (start.run b w).2.engine := by
  have restored := run_restore_agreed hb hnone h
  have hb₁ := hb.run_restore hnone w
  rcases start.run_cases b w with hstart | ⟨b₁, w₁, r, c, s', w', hrestore, hrefresh, hstart⟩
  · rw [hstart]
    exact restored
  · rw [hrestore] at restored hb₁
    rw [hstart]
    exact Coordinator.refresh_agreed hb₁.sound restored hrefresh

theorem Reachable.agreed {w₀ : Memory} (h : Reachable Memory.SameRules config w₀ b w) :
    Agreed w₀.engine b.store w.engine := by
  induction h with
  | new h =>
    obtain ⟨-, rfl⟩ := new_eq_ok_iff.mp h
    exact agreed_ofConfig config w₀.engine
  | start h start =>
    obtain ⟨-, rfl⟩ := new_eq_ok_iff.mp h
    exact run_start_agreed (coherent_ofConfig config) rfl (agreed_ofConfig config w₀.engine) start
  | step h meanwhile op ih => exact (op.ending _ _).agreed h.coherent (ih.of_tables meanwhile)

/-! ## what an answer says about the engine -/

section
variable (hb : Coherent config b)
include hb

theorem Addition.engine_of_ok {text : String} {id : RuleId} {answer : Except SyncError RuleId}
    (change : Addition text b w answer b' w') (h : answer = .ok id) :
    w'.engine.table .dynamic = b'.store.table .dynamic := by
  have hs := (hb.addition change).sound
  cases change with
  | refused store => cases h
  | unsaved failed store => cases h
  | made accepted fresh admits store saved made =>
    exact hs.table_of_synced (synced_of_map_ok hs h) nofun

theorem Addition.engine_of_error {text : String} {e : SyncError}
    {answer : Except SyncError RuleId} (change : Addition text b w answer b' w')
    (h : answer = .error e) : w'.engine.tables = w.engine.tables := by
  have hs := (hb.addition change).sound
  cases change with
  | refused store => rfl
  | unsaved failed store => rw [engine_of_saving failed]
  | made accepted fresh admits store saved made =>
    rw [(kept_of_map_error hs h).tables, engine_of_saving saved]

theorem Removal.engine_of_ok {id : RuleId} {c : CustomFilter}
    {answer : Except SyncError CustomFilter} (change : Removal id b w answer b' w')
    (h : answer = .ok c) : w'.engine.table .dynamic = b'.store.table .dynamic := by
  have hs := (hb.removal change).sound
  cases change with
  | unknown => cases h
  | unsaved failed => cases h
  | made without saved made => exact hs.table_of_synced (synced_of_map_ok hs h) nofun

theorem Removal.engine_of_error {id : RuleId} {e : SyncError}
    {answer : Except SyncError CustomFilter} (change : Removal id b w answer b' w')
    (h : answer = .error e) : w'.engine.tables = w.engine.tables := by
  have hs := (hb.removal change).sound
  cases change with
  | unknown => rfl
  | unsaved failed => rw [engine_of_saving failed]
  | made without saved made => rw [(kept_of_map_error hs h).tables, engine_of_saving saved]

theorem Whitelisting.engine_of_ok {domains : List String} {answer : Except SyncError Unit}
    (change : Whitelisting domains b w answer b' w') (h : answer = .ok ()) :
    (w'.engine.table .session).own .session = b'.store.table .session := by
  cases change with
  | full hfull => cases h
  | unsaved failed => cases h
  | made fits saved store sound made =>
    have hs := sound hb.sound
    rw [made] at h ⊢
    exact RuleStore.Sound.own_table_of_synced hs (synced_of_map_ok hs h)

theorem Whitelisting.engine_of_error {domains : List String} {e : SyncError}
    {answer : Except SyncError Unit} (change : Whitelisting domains b w answer b' w')
    (h : answer = .error e) : w'.engine.tables = w.engine.tables := by
  cases change with
  | full hfull => rfl
  | unsaved failed => rw [engine_of_saving failed]
  | made fits saved store sound made =>
    have hs := sound hb.sound
    rw [made] at h ⊢
    rw [(kept_of_map_error hs h).tables, engine_of_saving saved]

theorem WhitelistChange.engine_of_ok {α : Type} {a : α} {answer : Except SyncError α}
    (change : WhitelistChange b w answer b' w') (h : answer = .ok a) :
    (w'.engine.table .session).own .session = b'.store.table .session := by
  cases change with
  | invalid => cases h
  | @applied domains answer b' w' a' normal change =>
    cases answer with
    | error e => cases h
    | ok u => exact change.engine_of_ok hb rfl

theorem WhitelistChange.engine_of_error {α : Type} {e : SyncError} {answer : Except SyncError α}
    (change : WhitelistChange b w answer b' w') (h : answer = .error e) :
    w'.engine.tables = w.engine.tables := by
  cases change with
  | invalid => rfl
  | @applied domains answer b' w' a' normal change =>
    cases answer with
    | error e' => exact change.engine_of_error hb rfl
    | ok u => cases h

end

/-! ## agreement -/

/-- An operation that succeeds has brought the dynamic tier to the engine. -/
def BringsDynamic {α : Type} (act : Action (StateM Memory) α) (b : Blocker) : Prop :=
  ∀ w a b' w', act.on b w = ((.ok a, b'), w') →
    w'.engine.rules .dynamic = b'.store.rules .dynamic

/-- An operation that succeeds has brought the session tier to the engine: those of its rules there
that are ours are the rules of the store. -/
def BringsSession {α : Type} (act : Action (StateM Memory) α) (b : Blocker) : Prop :=
  ∀ w a b' w', act.on b w = ((.ok a, b'), w') →
    ((w'.engine.table .session).own .session).rules = b'.store.rules .session

/-- An operation that the engine refused has left the engine alone. -/
def SparesEngine {α : Type} (act : Action (StateM Memory) α) (b : Blocker) : Prop :=
  ∀ w tier attempts cause b' w',
    act.on b w = ((.error (.engineApplyFailed tier attempts cause), b'), w') →
      ∀ tier, w'.engine.rules tier = w.engine.rules tier

/-- a blocker and the world at some time after the world was `w₀` -/
structure EngineAgrees (config : SyncConfig) (w₀ : Memory) (b : Blocker) (w : Memory) : Prop where
  static : ∀ l ∈ config.lists, b.store.hasTier l.tier = true →
    w.engine.rules l.tier = b.store.rules l.tier
  /-- session rules of others never change -/
  foreign : (w.engine.table .session).foreign .session =
    (w₀.engine.table .session).foreign .session
  add : ∀ text, BringsDynamic (addCustomFilter text) b ∧ SparesEngine (addCustomFilter text) b
  remove : ∀ id, BringsDynamic (removeCustomFilter id) b ∧ SparesEngine (removeCustomFilter id) b
  recompute : ∀ domains,
    BringsSession (recomputeWhitelist domains) b ∧ SparesEngine (recomputeWhitelist domains) b
  toggle : ∀ domain,
    BringsSession (toggleWhitelist domain) b ∧ SparesEngine (toggleWhitelist domain) b

theorem rules_of_tables (h : w'.engine.tables = w.engine.tables) (tier : Tier) :
    w'.engine.rules tier = w.engine.rules tier := by
  rw [MemoryEngine.rules, MemoryEngine.table_congr h]
  rfl

section
variable {α : Type} {act : Action (StateM Memory) α}

theorem sparesEngine_of_cases (h : ∀ w, ∃ answer b' w', act.on b w = ((answer, b'), w') ∧
    ∀ e, answer = .error e → w'.engine.tables = w.engine.tables) : SparesEngine act b := by
  intro w tier attempts cause b₁ w₁ hrun tier'
  obtain ⟨answer, b', w', hrun', herror⟩ := h w
  rw [hrun] at hrun'
  cases hrun'
  exact rules_of_tables (herror _ rfl) tier'

theorem dynamic_of_cases (h : ∀ w, ∃ answer b' w', act.on b w = ((answer, b'), w') ∧
    (∀ a, answer = .ok a → w'.engine.table .dynamic = b'.store.table .dynamic) ∧
    ∀ e, answer = .error e → w'.engine.tables = w.engine.tables) :
    BringsDynamic act b ∧ SparesEngine act b := by
  constructor
  · intro w a b₁ w₁ hrun
    obtain ⟨answer, b', w', hrun', hok, -⟩ := h w
    rw [hrun] at hrun'
    cases hrun'
    rw [MemoryEngine.rules, hok a rfl]
    rfl
  · refine sparesEngine_of_cases fun w => ?_
    obtain ⟨answer, b', w', hrun, -, herror⟩ := h w
    exact ⟨answer, b', w', hrun, herror⟩

theorem session_of_cases
    (h : ∀ w, ∃ answer b' w', act.on b w = ((answer, b'), w') ∧ WhitelistChange b w answer b' w')
    (hb : Coherent config b) : BringsSession act b ∧ SparesEngine act b := by
  constructor
  · intro w a b₁ w₁ hrun
    obtain ⟨answer, b', w', hrun', change⟩ := h w
    rw [hrun] at hrun'
    cases hrun'
    rw [change.engine_of_ok hb rfl]
    rfl
  · refine sparesEngine_of_cases fun w => ?_
    obtain ⟨answer, b', w', hrun, change⟩ := h w
    exact ⟨answer, b', w', hrun, fun e => change.engine_of_error hb⟩

end

/-- In every reachable state engine and store agree, however the world answers. -/
theorem Reachable.engine_agrees {w₀ : Memory} (h : Reachable Memory.SameRules config w₀ b w) :
    EngineAgrees config w₀ b w := by
  have hb := h.coherent
  have hagreed := h.agreed
  constructor
  case static =>
    intro l hl hloaded
    rw [MemoryEngine.rules, show w.engine.table l.tier = _ from hagreed.static l.id hloaded]
    rfl
  case foreign => exact hagreed.foreign
  case add =>
    intro text
    refine dynamic_of_cases fun w => ?_
    obtain ⟨answer, b', w', hrun, change⟩ := addCustomFilter_cases text b w
    exact ⟨answer, b', w', hrun, fun a => change.engine_of_ok hb,
      fun e => change.engine_of_error hb⟩
  case remove =>
    intro id
    refine dynamic_of_cases fun w => ?_
    obtain ⟨answer, b', w', hrun, change⟩ := removeCustomFilter_cases id b w
    exact ⟨answer, b', w', hrun, fun a => change.engine_of_ok hb,
      fun e => change.engine_of_error hb⟩
  case recompute => exact fun domains => session_of_cases (recomputeWhitelist_cases domains b) hb
  case toggle => exact fun domain => session_of_cases (toggleWhitelist_cases domain b) hb

/-- an engine that fails once too often while the whitelist changes -/
theorem engine_agrees_toggleWhitelist_default :
    EngineAgrees .default {}
      (Operation.run (ofConfig .default) { engine := { failures := 3 } : Memory }
        (.toggleWhitelist "example.com")).1
      (Operation.run (ofConfig .default) { engine := { failures := 3 } : Memory }
        (.toggleWhitelist "example.com")).2 := by
  have same : Memory.SameRules {} { engine := { failures := 3 } } := rfl
  exact Reachable.engine_agrees (.step (.new (new_eq_ok_iff.mpr ⟨by decide, rfl⟩)) same
    (.toggleWhitelist "example.com"))

end Blocker

end Blocklist
