import Blocklist.Proofs.Durability

/-!
# A restart brings everything back

A new blocker in a world where nothing fails restores what an orderly run has saved.

* `Memory.Calm`               no failures are pending;
* `Blocker.Durable.restores`  saved values that are durable can be taken over;
* `Blocker.SameState`         two blockers that are the same to their users;
* `Blocker.Orderly.restart`   a restart after an orderly run.
-/

namespace Blocklist

/-! ## a world where nothing fails -/

/-- no failures are pending -/
structure Memory.Calm (w : Memory) : Prop where
  engine : w.engine.failures = 0
  store : w.store.failures = 0

/-- nothing is left but what is saved -/
def Memory.rebooted (w : Memory) : Memory := { store := { items := w.store.items } }

theorem Memory.calm_rebooted (w : Memory) : w.rebooted.Calm := ⟨rfl, rfl⟩

section
variable {w : Memory} (calm : w.Calm)
include calm

theorem Memory.Calm.attempts (retry : RetryPolicy) : w.engine.failures < retry.attempts := by
  rw [calm.engine]
  exact retry.attempts_pos

theorem setTierEnabled_calm (retry : RetryPolicy) (tier : Tier) (enabled : Bool) :
    ∃ w', (setTierEnabled (m := StateM Memory) tier enabled retry).run w = (.ok (), w') ∧
      w'.Calm := by
  obtain ⟨w', hrun, he, hstep⟩ := setTierEnabled_ok tier enabled (calm.attempts retry)
  refine ⟨w', hrun, ?_, ?_⟩
  · rw [he]
    rfl
  · rw [hstep.store]
    exact calm.store

omit calm in
theorem Coordinator.setTiers_calm (retry : RetryPolicy) (suspended : Bool) (ls : List StaticList)
    (calm : w.Calm) :
    ∃ w', setTiers (m := StateM Memory) retry suspended ls w = (.ok (), w') ∧ w'.Calm := by
  induction ls generalizing w with
  | nil => exact ⟨w, rfl, calm⟩
  | cons l ls ih =>
    obtain ⟨w₁, hrun, calm₁⟩ := setTierEnabled_calm calm retry l.tier (l.enabled && !suspended)
    rw [setTiers, bind_apply, hrun]
    exact ih calm₁

theorem Coordinator.setSuspended_calm (c : Coordinator) (suspended : Bool) :
    ∃ c' w', c.setSuspended (m := StateM Memory) suspended w = ((.ok (), c'), w') ∧ w'.Calm := by
  obtain ⟨w', hrun, calm'⟩ := setTiers_calm c.retry suspended c.lists calm
  rw [setSuspended, bind_apply, hrun]
  exact ⟨_, w', rfl, calm'⟩

end

theorem Coordinator.lists_withStates_empty (c : Coordinator) :
    (c.withStates ∅).lists = c.lists := by
  refine (List.map_congr_left fun l _ => ?_).trans (List.map_id' c.lists)
  rw [Std.ExtTreeMap.getElem?_empty]

namespace Blocker

variable {config : SyncConfig} {b b' b₂ : Blocker} {w w' w₂ : Memory} {items : Items}

section
variable (calm : w.Calm)
include calm

theorem saving_calm (new : Items) : ∃ w', saving new w = (.ok (), w') ∧ w'.Calm := by
  rcases w.store.save_cases new with ⟨hzero, hsave⟩ | ⟨e, n, hn, -⟩
  · rw [saving_apply, hsave]
    exact ⟨_, rfl, calm.engine, hzero⟩
  · rw [calm.store] at hn
    cases hn

theorem syncing_calm (hs : b.store.Sound) (tier : Tier) :
    ∃ d w', syncing tier b w = (.ok d, w') ∧ w'.Calm := by
  obtain ⟨w', hrun, he, hstep⟩ := syncTier_ok (calm.attempts b.config.retry) (hs.takes tier)
  refine ⟨_, w', hrun, ?_, ?_⟩
  · rw [he]
    rfl
  · rw [hstep.store]
    exact calm.store

theorem pruned_calm (saved : List CustomFilter) (b : Blocker) : (pruned saved b w).Calm := by
  obtain ⟨w', hsave, calm'⟩ := saving_calm calm (filterItems (b.store.replay saved).1)
  rw [pruned, hsave]
  split
  · exact calm'
  · exact calm

/-- a whitelist that fits is made -/
theorem Whitelisting.made_of_calm {domains : List String} {answer : Except SyncError Unit}
    (change : Whitelisting domains b w answer b' w') (hs : b.store.Sound)
    (fits : (Whitelist.rules domains).length ≤ b.store.capacity .session) :
    answer = .ok () ∧ w'.Calm := by
  obtain ⟨w₁, hsave, calm₁⟩ := saving_calm calm (whitelistItems domains)
  cases change with
  | full hfull => exact absurd fits (Nat.not_le.mpr hfull)
  | unsaved failed =>
    rw [hsave] at failed
    cases failed
  | @made s' b' w₂ fits saved store sound made =>
    rw [hsave] at saved
    cases saved
    have hs' : b'.store.Sound := by
      rw [made]
      exact sound hs
    obtain ⟨d, w₂, hsync, calm₂⟩ := syncing_calm calm₁ hs' .session
    rw [hsync]
    exact ⟨rfl, calm₂⟩

theorem WhitelistChange.stays_calm {α : Type} {answer : Except SyncError α}
    (change : WhitelistChange b w answer b' w') (hs : b.store.Sound) : w'.Calm := by
  cases change with
  | invalid => exact calm
  | @applied domains answer b' w' a normal change =>
    by_cases fits : (Whitelist.rules domains).length ≤ b.store.capacity .session
    · exact (change.made_of_calm calm hs fits).2
    · cases change with
      | full hfull => exact calm
      | unsaved failed =>
        obtain ⟨w₁, hsave, -⟩ := saving_calm calm (whitelistItems domains)
        rw [hsave] at failed
        cases failed
      | made fits' => exact absurd fits' fits

theorem Switching.made_of_calm {enabled : Bool} {answer : Except SyncError Unit}
    (change : Switching enabled b w answer b' w') : answer = .ok () := by
  obtain ⟨c, w₁, hlists, calm₁⟩ := b.coordinator.setSuspended_calm calm (!enabled)
  obtain ⟨w₂, hfilters, -⟩ := setTierEnabled_calm calm₁ b.config.retry .dynamic enabled
  cases change with
  | lists failed =>
    rw [hlists] at failed
    cases failed
  | filters lists failed =>
    rw [hlists] at lists
    cases lists
    rw [hfilters] at failed
    cases failed
  | made lists filters => rfl

theorem Adoption.made_of_calm {answer : Except SyncError Unit}
    (change : Adoption items b w answer b' w')
    (hs : (b.replayed (Saved.customFilters items)).store.Sound)
    (fits : (Whitelist.rules (Whitelist.normalizeAll (Saved.whitelist items))).length ≤
      (b.replayed (Saved.customFilters items)).store.capacity .session) : answer = .ok () := by
  obtain ⟨d, w₁, hsync, calm₁⟩ :=
    syncing_calm (pruned_calm calm (Saved.customFilters items) b) hs .dynamic
  cases change with
  | filters filters failed =>
    subst filters
    rw [hsync] at failed
    cases failed
  | whitelist filters synced failed =>
    subst filters
    rw [hsync] at synced
    cases synced
    exact (failed.made_of_calm calm₁ hs fits).1
  | switch filters synced whitelist switch =>
    subst filters
    rw [hsync] at synced
    cases synced
    exact switch.made_of_calm (whitelist.made_of_calm calm₁ hs fits).2

end

/-! ## restart -/

/-- nothing saved determines a new blocker -/
theorem durable_ofConfig (hvalid : config.validate = .ok ()) :
    Durable config ∅ (ofConfig config) where
  valid := hvalid
  coherent := coherent_ofConfig config
  keeps := .refl _
  filters := rfl
  whitelist := rfl
  enabled := rfl
  lists := (Coordinator.new config).lists_withStates_empty

/-- A restore succeeds where nothing fails, if there is room for the saved whitelist. -/
theorem restores_of_calm (calm : w.Calm)
    (hs : (b.store.replay (Saved.customFilters w.store.items)).2.Sound)
    (fits : (Whitelist.rules (Whitelist.normalizeAll (Saved.whitelist w.store.items))).length ≤
      (b.store.replay (Saved.customFilters w.store.items)).2.capacity .session) :
    ∃ b' w', (restore (m := StateM Memory)).on b w = ((.ok (), b'), w') ∧
      Adopted (savedItems w) (b.withSavedStates w) w b' w' := by
  obtain ⟨answer, b', w', hadopt, change⟩ := adopt_cases (savedItems w) (b.withSavedStates w) w
  rw [← customFilters_savedItems] at hs fits
  rw [← whitelist_savedItems] at fits
  have hanswer : answer = .ok () := change.made_of_calm calm hs fits
  rw [hanswer] at hadopt
  exact ⟨b', w', (restore_memory b w).trans hadopt, change.adopted hs hanswer⟩

/-- Saved values that determine a blocker are taken over by a new one. -/
theorem Durable.restores (h : Durable config w.store.items b) (calm : w.Calm) :
    ∃ b' w', (restore (m := StateM Memory)).on (ofConfig config) w = ((.ok (), b'), w') ∧
      Adopted (savedItems w) ((ofConfig config).withSavedStates w) w b' w' := by
  have hb₁ := (coherent_ofConfig config).replayed rfl (Saved.customFilters w.store.items)
  refine restores_of_calm calm hb₁.sound ?_
  rw [h.whitelist]
  show _ ≤ ((ofConfig config).replayed _).store.capacity .session
  rw [hb₁.bounds.capacity_eq, ← h.coherent.bounds.capacity_eq]
  exact h.coherent.fits

/-- The same to a user, with the same rules for it: filters under their ids and in their order, the
whitelist in its order, the lists with their states, and the switch. -/
structure SameState (b b' : Blocker) : Prop where
  customFilters : b'.customFilters = b.customFilters
  whitelist : b'.whitelist = b.whitelist
  enabled : b'.enabled = b.enabled
  lists : b'.coordinator.lists = b.coordinator.lists
  dynamic : b'.store.rules .dynamic = b.store.rules .dynamic
  session : b'.store.rules .session = b.store.rules .session

/-- filters and whitelist determine the rules -/
theorem Coherent.sameState (h : Coherent config b) (h' : Coherent config b')
    (customFilters : b'.customFilters = b.customFilters) (whitelist : b'.whitelist = b.whitelist)
    (enabled : b'.enabled = b.enabled) (lists : b'.coordinator.lists = b.coordinator.lists) :
    SameState b b' := by
  refine ⟨customFilters, whitelist, enabled, lists, ?_, ?_⟩
  · have hm := h'.filters
    rw [customFilters] at hm
    rw [RuleStore.rules, hm.unique h.filters]
    rfl
  · rw [RuleStore.rules, h'.session, whitelist, ← h.session]
    rfl

/-- After an orderly run, a new blocker of the same configuration over what is saved by then
restores the state of the old one, and the engine has its rules. Nothing is assumed about the engine
but that no failures are pending. -/
theorem Orderly.restart (h : Orderly config b w) (fresh : Blocker.new config = .ok b₂)
    (same : w₂.store.items = w.store.items) (calm : w₂.Calm) :
    ∃ b' w', (restore (m := StateM Memory)).on b₂ w₂ = ((.ok (), b'), w') ∧ SameState b b' ∧
      w'.engine.rules .dynamic = b'.store.rules .dynamic := by
  obtain ⟨-, rfl⟩ := new_eq_ok_iff.mp fresh
  have durable := h.durable
  rw [← same] at durable
  obtain ⟨b', w', hrun, adopted⟩ := durable.restores calm
  have coherent := (coherent_ofConfig config).run_restore rfl w₂
  rw [Action.after_eq hrun] at coherent
  refine ⟨b', w', hrun, durable.coherent.sameState coherent ?_ ?_ ?_ ?_, ?_⟩
  · rw [adopted.filters, customFilters_savedItems]
    exact durable.filters
  · rw [adopted.whitelist, whitelist_savedItems, durable.whitelist]
  · rw [adopted.enabled, enabled_savedItems, durable.enabled]
  · rw [adopted.lists]
    show ((Coordinator.new config).withStates (Saved.listStates (Items.pick _ _))).lists = _
    rw [listStates_pick, durable.lists]
  · rw [MemoryEngine.rules, adopted.engine]
    rfl

/-- one change of the whitelist between two starts -/
theorem restart_toggleWhitelist_default :
    ∃ b' w', (restore (m := StateM Memory)).on (ofConfig .default)
        (Operation.run (Start.run (ofConfig .default) ({} : Memory) .restore).1
          (Start.run (ofConfig .default) ({} : Memory) .restore).2.rebooted
          (.toggleWhitelist "example.com")).2.rebooted = ((.ok (), b'), w') ∧
      SameState (Operation.run (Start.run (ofConfig .default) ({} : Memory) .restore).1
        (Start.run (ofConfig .default) ({} : Memory) .restore).2.rebooted
        (.toggleWhitelist "example.com")).1 b' ∧
      w'.engine.rules .dynamic = b'.store.rules .dynamic := by
  have hvalid : SyncConfig.validate .default = .ok () := by decide
  have hnew : Blocker.new .default = .ok (ofConfig .default) := new_eq_ok_iff.mpr ⟨hvalid, rfl⟩
  obtain ⟨b₁, w₁, hrestore, -⟩ := (durable_ofConfig hvalid).restores (w := {}) ⟨rfl, rfl⟩
  have started : Orderly .default b₁ w₁ := .start hnew (.restore hrestore)
  obtain ⟨answer, b₃, w₃, hrun, change⟩ := toggleWhitelist_cases "example.com" b₁ w₁.rebooted
  have calm' := change.stays_calm w₁.calm_rebooted started.durable.coherent.sound
  have meanwhile : w₁.rebooted.store.items = w₁.store.items := rfl
  have stepped := started.step meanwhile (.toggleWhitelist "example.com")
    (by rw [Operation.run, Action.after_eq hrun]; exact calm'.store) nofun
  rw [Start.run, Action.after_eq hrestore]
  exact Orderly.restart stepped hnew rfl (Memory.calm_rebooted _)

end Blocker

end Blocklist
