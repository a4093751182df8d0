import Blocklist.Proofs.EngineAgreement
import Blocklist.Proofs.SavedState

/-!
# What is saved determines the blocker

As long as writes succeed, a new blocker that takes over what is saved has the filters, the
whitelist, the lists and the switch of the old one.

* `Blocker.Durable`           the invariant: saved values that determine the blocker;
* `Blocker.Durable.ending`    an operation whose writes succeed preserves it;
* `Blocker.Adopted`           what taking over saved values leads to, and what it leaves saved;
* `Blocker.Orderly`           runs in which all is saved;
* `Blocker.Orderly.durable`   they preserve it.
-/

namespace Blocklist

/-! ## saves in memory -/

theorem MemoryStore.save_cases (s : MemoryStore) (items : Items) :
    (s.failures = 0 ∧ s.save items = (.ok (), { s with items := s.items.update items })) ∨
      ∃ e n, s.failures = n + 1 ∧ s.save items = (.error e, { s with failures := n }) := by
  rw [save]
  cases hn : s.failures with
  | zero => exact .inl ⟨rfl, rfl⟩
  | succ n => exact .inr ⟨_, n, rfl, rfl⟩

/-- a write that uses up no failure is made -/
theorem MemoryStore.items_of_clean {s : MemoryStore} {items : Items}
    (clean : (s.save items).2.failures = s.failures) :
    (s.save items).2.items = s.items.update items := by
  rcases s.save_cases items with ⟨-, hsave⟩ | ⟨e, n, hn, hsave⟩
  · rw [hsave]
  · rw [hsave, hn] at clean
    exact absurd clean (Nat.ne_of_lt (Nat.lt_succ_self n))

theorem Coordinator.Log.lists_eq_self {log : Log} (h : succeeded log = []) (now : UInt64) :
    log.lists now = log.map Prod.fst := by
  refine List.map_congr_left fun p hp => ?_
  obtain ⟨l, o⟩ := p
  cases o with
  | succeeded hash =>
    have hmem : l.id ∈ succeeded log := List.mem_filterMap.mpr ⟨_, hp, rfl⟩
    rw [h] at hmem
    cases hmem
  | failed e => rfl
  | skipped => rfl

namespace Blocker

variable {config : SyncConfig} {b b' : Blocker} {w w' : Memory} {items : Items}

/-- a write succeeds only when no failures are pending -/
theorem store_of_saving_ok {new : Items} (h : saving new w = (.ok (), w')) :
    w.store.failures = 0 ∧ w'.store = { w.store with items := w.store.items.update new } := by
  rw [saving_apply] at h
  rcases w.store.save_cases new with ⟨hzero, hsave⟩ | ⟨e, n, -, hsave⟩
  · rw [hsave] at h
    rw [← (Prod.mk.inj h).2]
    exact ⟨hzero, rfl⟩
  · rw [hsave] at h
    cases (Prod.mk.inj h).1

/-- a write that fails uses up a pending failure -/
theorem store_of_saving_error {new : Items} {e : StorageError}
    (h : saving new w = (.error e, w')) :
    ∃ n, w.store.failures = n + 1 ∧ w'.store = { w.store with failures := n } := by
  rw [saving_apply] at h
  rcases w.store.save_cases new with ⟨-, hsave⟩ | ⟨e', n, hn, hsave⟩
  · rw [hsave] at h
    cases (Prod.mk.inj h).1
  · rw [hsave] at h
    rw [← (Prod.mk.inj h).2]
    exact ⟨n, hn, rfl⟩

theorem items_of_saving_ok {new : Items} (h : saving new w = (.ok (), w')) :
    w'.store.items = w.store.items.update new := by
  rw [(store_of_saving_ok h).2]

theorem failures_of_saving_error {new : Items} {e : StorageError}
    (h : saving new w = (.error e, w')) : w'.store.failures ≠ w.store.failures := by
  obtain ⟨n, hn, hstore⟩ := store_of_saving_error h
  rw [hstore, hn]
  exact Nat.ne_of_lt (Nat.lt_succ_self n)

theorem store_syncing (hs : b.store.Sound) (tier : Tier) (w : Memory) :
    (syncing tier b w).2.store = w.store := by
  rcases syncing_cases hs tier w with ⟨d, w', hrun, hstep, -⟩ | ⟨e, w', hrun, hstep, -⟩
  · rw [hrun]
    exact hstep.store
  · rw [hrun]
    exact hstep.store

/-! ## what is saved determines the blocker -/

/-- a new blocker with the saved values is like `b` -/
structure Durable (config : SyncConfig) (items : Items) (b : Blocker) : Prop where
  valid : config.validate = .ok ()
  coherent : Coherent config b
  keeps : (Coordinator.new config).Keeps b.coordinator
  filters : ((ofConfig config).store.replay (Saved.customFilters items)).1 = b.customFilters
  whitelist : Whitelist.normalizeAll (Saved.whitelist items) = b.whitelist
  enabled : Saved.enabled items = b.enabled
  lists : ((Coordinator.new config).withStates (Saved.listStates items)).lists =
    b.coordinator.lists

theorem mirrors_nil (config : SyncConfig) : ((ofConfig config).store.table .dynamic).Mirrors [] :=
  (coherent_ofConfig config).filters

/-- filters that have rules are all accepted again by a new store -/
theorem Coherent.replay (h : Coherent config b) :
    ((ofConfig config).store.replay b.customFilters).1 = b.customFilters :=
  RuleStore.replay_of_mirrors (h.bounds.symm.admits (h.sound .dynamic))
    (List.nil_append b.customFilters ▸ h.filters) (mirrors_nil config)

namespace Durable

variable (h : Durable config items b)
include h

theorem nodup : (b.coordinator.lists.map StaticList.id).Nodup := by
  rw [h.keeps.ids, Coordinator.ids_new]
  exact SyncConfig.nodup_ids h.valid

/-- a change that concerns nothing that is saved -/
theorem of_store {s' : RuleStore} (coherent : Coherent config { b with store := s' }) :
    Durable config items { b with store := s' } :=
  ⟨h.valid, coherent, h.keeps, h.filters, h.whitelist, h.enabled, h.lists⟩

theorem of_filters {s' : RuleStore} {filters : List CustomFilter}
    (coherent : Coherent config { b with store := s', customFilters := filters }) :
    Durable config (items.update (filterItems filters))
      { b with store := s', customFilters := filters } where
  valid := h.valid
  coherent := coherent
  keeps := h.keeps
  filters := by
    rw [Saved.customFilters_update]
    exact coherent.replay
  whitelist := by
    rw [Saved.whitelist_of_none (filterItems_of_ne (by decide) filters)]
    exact h.whitelist
  enabled := by
    rw [Saved.enabled_of_none (filterItems_of_ne (by decide) filters)]
    exact h.enabled
  lists := by
    rw [Saved.listStates_of_none (filterItems_of_ne (by decide) filters)]
    exact h.lists

theorem of_whitelist {s' : RuleStore} {domains : List String}
    (coherent : Coherent config { b with store := s', whitelist := domains }) :
    Durable config (items.update (whitelistItems domains))
      { b with store := s', whitelist := domains } where
  valid := h.valid
  coherent := coherent
  keeps := h.keeps
  filters := by
    rw [Saved.customFilters_of_none (whitelistItems_of_ne (by decide) domains)]
    exact h.filters
  whitelist := by
    rw [Saved.whitelist_update]
    exact coherent.normal.normalizeAll_eq_self
  enabled := by
    rw [Saved.enabled_of_none (whitelistItems_of_ne (by decide) domains)]
    exact h.enabled
  lists := by
    rw [Saved.listStates_of_none (whitelistItems_of_ne (by decide) domains)]
    exact h.lists

theorem of_lists {s' : RuleStore} {c : Coordinator}
    (coherent : Coherent config { b with store := s', coordinator := c })
    (keeps : b.coordinator.Keeps c) :
    Durable config (items.update c.items) { b with store := s', coordinator := c } where
  valid := h.valid
  coherent := coherent
  keeps := h.keeps.trans keeps
  filters := by
    rw [Saved.customFilters_of_none (c.items_of_ne (by decide) (by decide))]
    exact h.filters
  whitelist := by
    rw [Saved.whitelist_of_none (c.items_of_ne (by decide) (by decide))]
    exact h.whitelist
  enabled := by
    rw [Saved.enabled_of_none (c.items_of_ne (by decide) (by decide))]
    exact h.enabled
  lists := by
    rw [Coordinator.listStates_update]
    refine Coordinator.withStates_states (h.keeps.trans keeps) ?_
    rw [keeps.ids]
    exact h.nodup

theorem of_enabled {c : Coordinator} (keeps : b.coordinator.Keeps c)
    (lists : c.lists = b.coordinator.lists) (enabled : Bool) :
    Durable config (items.update (enabledItems enabled))
      { b with coordinator := c, enabled := enabled } where
  valid := h.valid
  coherent := h.coherent.of_enabled c enabled
  keeps := h.keeps.trans keeps
  filters := by
    rw [Saved.customFilters_of_none (enabledItems_of_ne (by decide) enabled)]
    exact h.filters
  whitelist := by
    rw [Saved.whitelist_of_none (enabledItems_of_ne (by decide) enabled)]
    exact h.whitelist
  enabled := Saved.enabled_update items enabled
  lists := by
    rw [Saved.listStates_of_none (enabledItems_of_ne (by decide) enabled)]
    exact h.lists.trans lists.symm

end Durable

/-! ## operations whose writes succeed -/

/-- a refresh saves the state of the lists, unless none has changed -/
theorem refresh_saves (hs : b.store.Sound) {force : Bool} {r : RefreshReport} {c : Coordinator}
    {s' : RuleStore} (hrun : b.coordinator.refresh (m := StateM Memory) b.store force w =
      ((r, c, s'), w')) :
    b.coordinator.Keeps c ∧ ((c = b.coordinator ∧ w'.store = w.store) ∨
      w'.store = (w.store.save c.items).2) := by
  obtain ⟨log, s₁, w₁, hlog, pass, hrefresh⟩ := Coordinator.refresh_run hs b.coordinator force w
  have keeps := Coordinator.keeps_lists hlog w.clock.nowMs
  rw [hrun] at hrefresh
  by_cases hnone : log.succeeded = []
  · rw [if_pos hnone] at hrefresh
    cases hrefresh
    refine ⟨keeps, .inl ⟨?_, pass.aside.store⟩⟩
    rw [log.lists_eq_self hnone, hlog]
  · rw [if_neg hnone] at hrefresh
    cases hrefresh
    exact ⟨keeps, .inr rfl⟩

theorem failures_of_refresh (hs : b.store.Sound) {force : Bool} {r : RefreshReport}
    {c : Coordinator} {s' : RuleStore}
    (hrun : b.coordinator.refresh (m := StateM Memory) b.store force w = ((r, c, s'), w'))
    (hzero : w.store.failures = 0) : w'.store.failures = w.store.failures := by
  obtain ⟨-, ⟨-, hstore⟩ | hstore⟩ := refresh_saves hs hrun
  · rw [hstore]
  · rcases w.store.save_cases c.items with ⟨-, hsave⟩ | ⟨e, n, hn, -⟩
    · rw [hstore, hsave]
    · rw [hzero] at hn
      cases hn

theorem Switching.made_of_ok {enabled : Bool} {answer : Except SyncError Unit}
    (change : Switching enabled b w answer b' w') (h : answer = .ok ()) :
    ∃ c, b' = { b with coordinator := c, enabled := enabled } := by
  cases change with
  | lists failed => cases h
  | filters lists failed => cases h
  | @made c w₁ w₂ lists filters => exact ⟨c, rfl⟩

theorem Switching.keeps_lists {enabled : Bool} {answer : Except SyncError Unit}
    (change : Switching enabled b w answer b' w') :
    b'.coordinator.lists = b.coordinator.lists ∧ b.coordinator.Keeps b'.coordinator := by
  have suspended : ∀ {answer c w₁}, b.coordinator.setSuspended (m := StateM Memory) (!enabled) w =
      ((answer, c), w₁) → c.lists = b.coordinator.lists ∧ b.coordinator.Keeps c := by
    intro answer c w₁ hrun
    obtain ⟨answer', c', w₂, hrun', -, hc⟩ := b.coordinator.setSuspended_cases (!enabled) w
    rw [hrun] at hrun'
    rw [(Prod.mk.inj (Prod.mk.inj hrun').1).2]
    rcases hc with rfl | rfl
    · exact ⟨rfl, .refl _⟩
    · exact ⟨rfl, rfl, rfl, rfl⟩
  cases change with
  | lists failed => exact suspended failed
  | filters lists failed => exact suspended lists
  | made lists filters => exact suspended lists

section
variable (h : Durable config w.store.items b)
include h

theorem Durable.addition {text : String} {answer : Except SyncError RuleId}
    (change : Addition text b w answer b' w') (clean : w'.store.failures = w.store.failures) :
    Durable config w'.store.items b' := by
  have coherent := h.coherent.addition change
  cases change with
  | refused store => exact h.of_store coherent
  | unsaved failed store => exact absurd clean (failures_of_saving_error failed)
  | made accepted fresh admits store saved made =>
    rw [store_syncing coherent.sound, items_of_saving_ok saved]
    rw [made] at coherent ⊢
    exact h.of_filters coherent

theorem Durable.removal {id : RuleId} {answer : Except SyncError CustomFilter}
    (change : Removal id b w answer b' w') (clean : w'.store.failures = w.store.failures) :
    Durable config w'.store.items b' := by
  have coherent := h.coherent.removal change
  cases change with
  | unknown => exact h
  | unsaved failed => exact absurd clean (failures_of_saving_error failed)
  | made without saved made =>
    rw [store_syncing coherent.sound, items_of_saving_ok saved]
    rw [made] at coherent ⊢
    exact h.of_filters coherent

theorem Durable.whitelisting {domains : List String} {answer : Except SyncError Unit}
    (normal : Whitelist.Normal domains) (change : Whitelisting domains b w answer b' w')
    (clean : w'.store.failures = w.store.failures) : Durable config w'.store.items b' := by
  have coherent := h.coherent.whitelisting normal change
  cases change with
  | full hfull => exact h
  | unsaved failed => exact absurd clean (failures_of_saving_error failed)
  | made fits saved store sound made =>
    rw [store_syncing coherent.sound, items_of_saving_ok saved]
    rw [made] at coherent ⊢
    exact h.of_whitelist coherent

theorem Durable.whitelistChange {α : Type} {answer : Except SyncError α}
    (change : WhitelistChange b w answer b' w') (clean : w'.store.failures = w.store.failures) :
    Durable config w'.store.items b' := by
  cases change with
  | invalid => exact h
  | applied normal change => exact h.whitelisting (normal h.coherent.normal) change clean

theorem Durable.list {list : String} {enabled : Bool} {answer : Except SyncError Unit}
    {c : Coordinator}
    (hrun : b.coordinator.setListEnabled (m := StateM Memory) list enabled w = ((answer, c), w'))
    (clean : w'.store.failures = w.store.failures) :
    Durable config w'.store.items { b with coordinator := c } := by
  rcases b.coordinator.setListEnabled_cases list enabled w with
    ⟨e, w₁, hrun', hstep⟩ | ⟨w₁, hstep, hrun'⟩
  · rw [hrun] at hrun'
    cases hrun'
    rw [hstep.store]
    exact h
  · rw [hrun] at hrun'
    cases hrun'
    rw [MemoryStore.items_of_clean clean]
    exact h.of_lists (h.coherent.of_coordinator _)
      (Coordinator.keeps_withEnabled b.coordinator list enabled)

theorem Durable.refreshed {force : Bool} {r : RefreshReport} {c : Coordinator} {s' : RuleStore}
    (hrun : b.coordinator.refresh (m := StateM Memory) b.store force w = ((r, c, s'), w'))
    (clean : w'.store.failures = w.store.failures) :
    Durable config w'.store.items { b with coordinator := c, store := s' } := by
  have coherent := h.coherent.refreshed hrun
  obtain ⟨keeps, ⟨rfl, hstore⟩ | hstore⟩ := refresh_saves h.coherent.sound hrun
  · rw [hstore]
    exact h.of_store coherent
  · rw [hstore] at clean ⊢
    rw [MemoryStore.items_of_clean clean]
    exact h.of_lists coherent keeps

/-- a switch that was saved and that the engine has made -/
theorem Durable.switched {enabled : Bool} {answer : Except SyncError Unit} {w₁ : Memory}
    (saved : saving (enabledItems enabled) w = (.ok (), w₁))
    (change : Switching enabled b w₁ answer b' w') (hanswer : answer = .ok ()) :
    Durable config w'.store.items b' := by
  obtain ⟨hlists, hkeeps⟩ := change.keeps_lists
  rw [change.flags.store, items_of_saving_ok saved]
  obtain ⟨c, rfl⟩ := change.made_of_ok hanswer
  exact h.of_enabled hkeeps hlists enabled

/-- Every operation whose writes succeed; a switch must also be made, since it is saved first. -/
theorem Durable.ending {op : Operation} (ending : Ending b w op b' w')
    (clean : w'.store.failures = w.store.failures)
    (switched : ∀ enabled, op = .setEnabled enabled →
      ((setEnabled (m := StateM Memory) enabled).on b w).1.1 = .ok ()) :
    Durable config w'.store.items b' := by
  cases ending with
  | addition change => exact h.addition change clean
  | removal change => exact h.removal change clean
  | recomputed change => exact h.whitelistChange change clean
  | toggled change => exact h.whitelistChange change clean
  | list hrun => exact h.list hrun clean
  | unsaved failed hrun => exact absurd clean (failures_of_saving_error failed)
  | @switched enabled answer b' w₁ w' saved hrun change =>
    have hanswer := switched enabled rfl
    rw [hrun] at hanswer
    exact h.switched saved change hanswer
  | refreshed hrun => exact h.refreshed hrun clean

end

/-! ## start -/

/-- what a restore reads is what is saved -/
theorem getElem?_savedItems {key : String}
    (h : key ∈ [Saved.customFiltersKey, Saved.whitelistKey, Saved.enabledKey]) (w : Memory) :
    (savedItems w)[key]? = w.store.items[key]? :=
  Items.getElem?_pick w.store.items (by decide) h

theorem listStates_pick (items : Items) :
    Saved.listStates (items.pick [Saved.listStatesKey]) = Saved.listStates items := by
  rw [Saved.listStates, Items.getElem?_pick items (by decide) List.mem_cons_self]
  rfl

/-- how making `domains` the whitelist ends when it succeeds -/
structure Whitelisted (domains : List String) (b : Blocker) (w : Memory) (b' : Blocker)
    (w' : Memory) : Prop where
  customFilters : b'.customFilters = b.customFilters
  whitelist : b'.whitelist = domains
  coordinator : b'.coordinator = b.coordinator
  dynamic : b'.store.table .dynamic = b.store.table .dynamic
  session : b'.store.table .session = RuleTable.insertAll ∅ (Whitelist.rules domains)
  sound : b'.store.Sound
  items : w'.store.items = w.store.items.update (whitelistItems domains)
  engine : w'.engine.table .dynamic = w.engine.table .dynamic
  own : (w'.engine.table .session).own .session = b'.store.table .session
  foreign : (w'.engine.table .session).foreign .session =
    (w.engine.table .session).foreign .session
  failures : w'.store.failures = 0

theorem Whitelisting.whitelisted {domains : List String} {answer : Except SyncError Unit}
    (change : Whitelisting domains b w answer b' w') (hs : b.store.Sound) (h : answer = .ok ()) :
    Whitelisted domains b w b' w' := by
  cases change with
  | full hfull => cases h
  | unsaved failed => cases h
  | made fits saved store sound made =>
    subst made
    have hs' := sound hs
    have synced := synced_of_map_ok hs' h
    refine ⟨rfl, rfl, rfl, store.table_of_ne .dynamic nofun, store.table, hs', ?_, ?_,
      hs'.own_table_of_synced synced, ?_, ?_⟩
    · rw [store_syncing hs', items_of_saving_ok saved]
    · rw [synced.table_of_ne (show Tier.session ≠ .dynamic from nofun), engine_of_saving saved]
    · rw [synced.foreign_table (hs'.takes .session), engine_of_saving saved]
    · obtain ⟨hzero, hstore⟩ := store_of_saving_ok saved
      rw [store_syncing hs', hstore]
      exact hzero

theorem items_pruned (saved : List CustomFilter) (b : Blocker) (w : Memory) :
    (pruned saved b w).store.items = w.store.items ∨
      (pruned saved b w).store.items =
        w.store.items.update (filterItems (b.store.replay saved).1) := by
  rw [pruned]
  split
  · rcases hsave : saving (filterItems (b.store.replay saved).1) w with ⟨e | u, w'⟩
    · obtain ⟨n, -, hstore⟩ := store_of_saving_error hsave
      left
      show w'.store.items = _
      rw [hstore]
    · exact .inr (items_of_saving_ok hsave)
  · exact .inl rfl

/-- how taking over saved values ends when it succeeds: the whitelist is saved in normal form, and
so are the filters if some were forgotten -/
structure Adopted (items : Items) (b : Blocker) (w : Memory) (b' : Blocker) (w' : Memory) :
    Prop where
  filters : b'.customFilters = (b.store.replay (Saved.customFilters items)).1
  whitelist : b'.whitelist = Whitelist.normalizeAll (Saved.whitelist items)
  enabled : b'.enabled = Saved.enabled items
  keeps : b.coordinator.Keeps b'.coordinator
  lists : b'.coordinator.lists = b.coordinator.lists
  dynamic : b'.store.table .dynamic =
    (b.store.replay (Saved.customFilters items)).2.table .dynamic
  session : b'.store.table .session = RuleTable.insertAll ∅ (Whitelist.rules b'.whitelist)
  sound : b'.store.Sound
  saved : w'.store.items = (pruned (Saved.customFilters items) b w).store.items.update
    (whitelistItems b'.whitelist)
  engine : w'.engine.table .dynamic = b'.store.table .dynamic
  own : (w'.engine.table .session).own .session = b'.store.table .session
  foreign : (w'.engine.table .session).foreign .session =
    (w.engine.table .session).foreign .session
  failures : w'.store.failures = 0

theorem Adoption.adopted {answer : Except SyncError Unit} (change : Adoption items b w answer b' w')
    (hs : (b.replayed (Saved.customFilters items)).store.Sound) (h : answer = .ok ()) :
    Adopted items b w b' w' := by
  cases change with
  | filters filters failed => cases h
  | whitelist filters synced failed => cases h
  | @switch b₁ b₂ b' d w₁ w₂ w' answer filters synced whitelist switch =>
    subst filters
    have whitelisted := whitelist.whitelisted hs rfl
    obtain ⟨hlists, hkeeps⟩ := switch.keeps_lists
    obtain ⟨c, rfl⟩ := switch.made_of_ok h
    rw [whitelisted.coordinator] at hlists hkeeps
    have hsynced := synced_of_syncing_ok hs synced
    have hstore : w₁.store = (pruned (Saved.customFilters items) b w).store := by
      have hstore := store_syncing hs .dynamic (pruned (Saved.customFilters items) b w)
      rwa [synced] at hstore
    have htable : ∀ tier, w'.engine.table tier = w₂.engine.table tier :=
      MemoryEngine.table_congr switch.flags.tables
    constructor
    case filters => exact whitelisted.customFilters
    case whitelist => exact whitelisted.whitelist
    case enabled => rfl
    case keeps => exact hkeeps
    case lists => exact hlists
    case dynamic => exact whitelisted.dynamic
    case session => exact whitelisted.whitelist ▸ whitelisted.session
    case sound => exact whitelisted.sound
    case saved =>
      rw [switch.flags.store, whitelisted.items, hstore]
      show _ = Items.update _ (whitelistItems b₂.whitelist)
      rw [whitelisted.whitelist]
    case engine =>
      show _ = b₂.store.table .dynamic
      rw [htable, whitelisted.engine, hs.table_of_synced hsynced (by decide), whitelisted.dynamic]
    case own =>
      rw [htable]
      exact whitelisted.own
    case foreign =>
      rw [htable, whitelisted.foreign,
        hsynced.table_of_ne (show Tier.dynamic ≠ .session by decide), engine_pruned]
    case failures => rw [switch.flags.store, whitelisted.failures]

section
variable (config) (w : Memory)

theorem customFilters_savedItems :
    Saved.customFilters (savedItems w) = Saved.customFilters w.store.items := by
  rw [Saved.customFilters, getElem?_savedItems (by decide)]
  rfl

theorem whitelist_savedItems : Saved.whitelist (savedItems w) = Saved.whitelist w.store.items := by
  rw [Saved.whitelist, getElem?_savedItems (by decide)]
  rfl

theorem enabled_savedItems : Saved.enabled (savedItems w) = Saved.enabled w.store.items := by
  rw [Saved.enabled, getElem?_savedItems (by decide)]
  rfl

end

/-- a new blocker that has taken over what was saved -/
theorem Adopted.durable
    (adopted : Adopted (savedItems w) ((ofConfig config).withSavedStates w) w b' w')
    (hvalid : config.validate = .ok ()) (coherent : Coherent config b') :
    Durable config w'.store.items b' := by
  have hfilters := adopted.filters
  have hkept := items_pruned (Saved.customFilters (savedItems w))
    ((ofConfig config).withSavedStates w) w
  rw [← hfilters] at hkept
  rw [customFilters_savedItems] at hfilters
  rw [adopted.saved]
  generalize (pruned _ _ w).store.items = kept at hkept ⊢
  refine ⟨hvalid, coherent, ?_, ?_, ?_, ?_, ?_⟩
  · exact ((Coordinator.new config).keeps_withStates _).trans adopted.keeps
  · -- the filters found at the start are kept alike again, and those kept then are all kept again
    rw [Saved.customFilters_of_none (whitelistItems_of_ne (by decide) _)]
    rcases hkept with rfl | rfl
    · exact hfilters.symm
    · rw [Saved.customFilters_update]
      exact coherent.replay
  · rw [Saved.whitelist_update]
    exact coherent.normal.normalizeAll_eq_self
  · rw [Saved.enabled_of_none (whitelistItems_of_ne (by decide) _), adopted.enabled,
      enabled_savedItems]
    rcases hkept with rfl | rfl
    · rfl
    · rw [Saved.enabled_of_none (filterItems_of_ne (by decide) _)]
  · rw [Saved.listStates_of_none (whitelistItems_of_ne (by decide) _), adopted.lists]
    show _ = ((Coordinator.new config).withStates (Saved.listStates (Items.pick _ _))).lists
    rw [listStates_pick]
    rcases hkept with rfl | rfl
    · rfl
    · rw [Saved.listStates_of_none (filterItems_of_ne (by decide) _)]

theorem adopted_of_restore
    (hrun : (restore (m := StateM Memory)).on (ofConfig config) w = ((.ok (), b'), w')) :
    Adopted (savedItems w) ((ofConfig config).withSavedStates w) w b' w' := by
  obtain ⟨answer, b₁, w₁, hadopt, change⟩ :=
    adopt_cases (savedItems w) ((ofConfig config).withSavedStates w) w
  rw [restore_memory, hadopt] at hrun
  cases hrun
  exact change.adopted (((coherent_ofConfig config).of_coordinator _).replayed rfl _).sound rfl

theorem durable_of_restore (hvalid : config.validate = .ok ())
    (hrun : (restore (m := StateM Memory)).on (ofConfig config) w = ((.ok (), b'), w')) :
    Durable config w'.store.items b' ∧ w'.store.failures = 0 := by
  have coherent := (coherent_ofConfig config).run_restore rfl w
  rw [Action.after_eq hrun] at coherent
  have adopted := adopted_of_restore hrun
  exact ⟨adopted.durable hvalid coherent, adopted.failures⟩

/-- a start that succeeds -/
inductive Started (b : Blocker) (w : Memory) : Blocker → Memory → Prop where
  | restore {b' : Blocker} {w' : Memory}
      (h : (Blocker.restore (m := StateM Memory)).on b w = ((.ok (), b'), w')) : Started b w b' w'
  | restoreAndRefresh {report : RefreshReport} {b' : Blocker} {w' : Memory}
      (h : (Blocker.start (m := StateM Memory)).on b w = ((.ok report, b'), w')) :
      Started b w b' w'

/-- a restore, perhaps with a refresh after it -/
theorem Started.restored (started : Started b w b' w') :
    ∃ b₁ w₁, (Blocker.restore (m := StateM Memory)).on b w = ((.ok (), b₁), w₁) ∧
      ((b' = b₁ ∧ w' = w₁) ∨ ∃ r c s',
        b₁.coordinator.refresh (m := StateM Memory) b₁.store false w₁ = ((r, c, s'), w') ∧
          b' = { b₁ with coordinator := c, store := s' }) := by
  cases started with
  | restore h => exact ⟨b', w', h, .inl ⟨rfl, rfl⟩⟩
  | restoreAndRefresh h =>
    rw [start] at h
    rcases on_bind_cases (Blocker.restore (m := StateM Memory)) (fun _ => refresh false) b w with
      ⟨e, b₁, w₁, -, hstart⟩ | ⟨u, b₁, w₁, hrestore, hstart⟩
    · rw [h] at hstart
      cases hstart
    · rw [h] at hstart
      rcases hrun : b₁.coordinator.refresh (m := StateM Memory) b₁.store false w₁ with
        ⟨⟨r, c, s'⟩, w₂⟩
      rw [refresh_on hrun] at hstart
      cases hstart
      exact ⟨b₁, w₁, hrestore, .inr ⟨_, c, s', hrun, rfl⟩⟩

/-- A restore that succeeds ends with a write, so the refresh after it can write, too. -/
theorem Started.durable (started : Started (ofConfig config) w b' w')
    (hvalid : config.validate = .ok ()) : Durable config w'.store.items b' := by
  obtain ⟨b₁, w₁, hrestore, ⟨rfl, rfl⟩ | ⟨r, c, s', hrun, rfl⟩⟩ := started.restored
  · exact (durable_of_restore hvalid hrestore).1
  · obtain ⟨durable, hzero⟩ := durable_of_restore hvalid hrestore
    exact durable.refreshed hrun (failures_of_refresh durable.coherent.sound hrun hzero)

/-! ## orderly runs -/

/-- A blocker and the world after a run in which no write fails and no switch is refused: a start
that succeeds, then any operations. Between operations the world may change, apart from what is
saved; in particular calls of the engine and fetches may fail. -/
inductive Orderly (config : SyncConfig) : Blocker → Memory → Prop where
  | start {b b' : Blocker} {w w' : Memory} (h : Blocker.new config = .ok b)
      (started : Started b w b' w') : Orderly config b' w'
  | step {b : Blocker} {w w₁ : Memory} (h : Orderly config b w)
      (meanwhile : w₁.store.items = w.store.items) (op : Operation)
      (clean : (op.run b w₁).2.store.failures = w₁.store.failures)
      (switched : ∀ enabled, op = .setEnabled enabled →
        ((setEnabled (m := StateM Memory) enabled).on b w₁).1.1 = .ok ()) :
      Orderly config (op.run b w₁).1 (op.run b w₁).2

theorem Orderly.durable (h : Orderly config b w) : Durable config w.store.items b := by
  induction h with
  | start h started =>
    obtain ⟨hvalid, rfl⟩ := new_eq_ok_iff.mp h
    exact started.durable hvalid
  | step h meanwhile op clean switched ih =>
    rw [← meanwhile] at ih
    exact ih.ending (op.ending _ _) clean switched

end Blocker

end Blocklist
