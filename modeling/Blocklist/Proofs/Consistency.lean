import Blocklist.Memory
import Blocklist.Proofs.BlockerRuns

/-!
# Filters, whitelist and store agree

A blocker keeps its custom filters and its whitelist twice: as the user gave them, and as rules in
the store. The two agree after every operation, also after one that failed, and whatever the
services did.

* `Blocker.Operation`, `Blocker.Start`, `Blocker.Reachable`   what can have happened to a blocker;
* `Blocker.Ending`                    how an operation ends;
* `Blocker.Coherent`                  the invariant: tables of the store, as filters and whitelist
                                      determine them;
* `Blocker.Reachable.coherent`        it holds in every reachable state;
* `Blocker.Consistent`, `Blocker.Reachable.consistent`   what that means for the rules.
-/

namespace Blocklist

/-! ## a refresh concerns static tiers -/

/-- all but the static tiers is as before -/
structure RuleStore.OnlyStatic (s s' : RuleStore) : Prop where
  table : ∀ tier, tier.isStatic = false → s'.table tier = s.table tier
  bounds : SameBounds s s'
  sound : s.Sound → s'.Sound
  ids : s'.dynamicIds = s.dynamicIds

namespace RuleStore.OnlyStatic

theorem refl (s : RuleStore) : OnlyStatic s s := ⟨fun _ _ => rfl, .refl s, fun h => h, rfl⟩

theorem trans {s₁ s₂ s₃ : RuleStore} (h : OnlyStatic s₁ s₂) (h' : OnlyStatic s₂ s₃) :
    OnlyStatic s₁ s₃ :=
  ⟨fun tier ht => (h'.table tier ht).trans (h.table tier ht), h.bounds.trans h'.bounds,
    fun hs => h'.sound (h.sound hs), h'.ids.trans h.ids⟩

theorem of_puts {s s' : RuleStore} {t : RuleTable} {list : String}
    (puts : s.Puts (.static list) t s') (sound : s.Sound → s'.Sound)
    (ids : s'.dynamicIds = s.dynamicIds) : OnlyStatic s s' := by
  refine ⟨fun tier ht => puts.table_of_ne tier ?_, puts.bounds, sound, ids⟩
  rintro rfl
  cases ht

theorem of_replaceAll {s s' : RuleStore} {list : String} {rs prev : List Rule}
    (h : s.replaceAll (.static list) rs = .ok (prev, s')) : OnlyStatic s s' :=
  of_puts (puts_replaceAll h) (Sound.replaceAll h) (dynamicIds_replaceAll h nofun)

theorem of_dropTier (s : RuleStore) (list : String) : OnlyStatic s (s.dropTier (.static list)).2 :=
  of_puts (puts_dropTier s _) (fun hs => (puts_dropTier s _).sound hs (admits_empty s _)) rfl

theorem of_rollBack (s : RuleStore) (list : String) (wasLoaded : Bool) (previous : List Rule) :
    OnlyStatic s (Coordinator.rollBack s (.static list) wasLoaded previous) := by
  rw [Coordinator.rollBack]
  cases wasLoaded with
  | true =>
    rw [if_pos rfl]
    split
    · rename_i h
      exact of_replaceAll h
    · exact refl s
  | false =>
    rw [if_neg Bool.false_ne_true]
    exact of_dropTier s list

end RuleStore.OnlyStatic

namespace Coordinator

variable {σ : Type} [Services (StateM σ)]

theorem refreshList_onlyStatic (c : Coordinator) (s : RuleStore) (l : StaticList) (url : String)
    (w : σ) : s.OnlyStatic (c.refreshList (m := StateM σ) s l url w).1.2 := by
  rw [refreshList, bind_apply]
  cases ((Fetcher.fetch url : StateM σ (Except FetchError String)) w).1 with
  | error e => exact .refl s
  | ok text =>
    by_cases hsame : l.fingerprint = some (Blocklist.fingerprint text) ∧ 0 < s.count l.tier
    · simp only [if_pos hsame]
      exact .refl s
    · simp only [if_neg hsame]
      cases hreplace : s.replaceAll l.tier (FilterList.compile text.toList l.window).rules with
      | error e => exact .refl s
      | ok p =>
        obtain ⟨prev, next⟩ := p
        have replaced : s.OnlyStatic next :=
          .of_replaceAll (show s.replaceAll (.static l.id) _ = _ from hreplace)
        dsimp only
        rw [bind_apply]
        cases ((syncTier (m := StateM σ) l.tier (next.rules l.tier) c.retry).run _).1 with
        | error e => exact replaced.trans (.of_rollBack next l.id _ prev)
        | ok d => exact replaced

theorem refreshLists_onlyStatic (c : Coordinator) (force : Bool) (now : UInt64)
    (ls : List StaticList) (s : RuleStore) (r : RefreshReport) (w : σ) :
    s.OnlyStatic (c.refreshLists (m := StateM σ) force now ls s r w).1.2.1 := by
  induction ls generalizing s r w with
  | nil => exact .refl s
  | cons l ls ih =>
    rw [refreshLists]
    cases l.url with
    | none => exact ih s _ w
    | some url =>
      dsimp only
      split
      · exact ih s _ w
      · have first := refreshList_onlyStatic c s l url w
        rw [bind_apply]
        rcases hrun : c.refreshList (m := StateM σ) s l url w with ⟨⟨e | hash, s₁⟩, w₁⟩
        · rw [hrun] at first
          exact first.trans (ih s₁ _ w₁)
        · rw [hrun] at first
          exact first.trans (ih s₁ _ w₁)

theorem refresh_onlyStatic (c : Coordinator) (s : RuleStore) (force : Bool) (w : σ) :
    s.OnlyStatic (c.refresh (m := StateM σ) s force w).1.2.2 := by
  rw [refresh, bind_apply, bind_apply]
  have pass := refreshLists_onlyStatic c force ((Clock.nowMs : StateM σ UInt64) w).1 c.lists s {}
    ((Clock.nowMs : StateM σ UInt64) w).2
  rcases hrun : c.refreshLists (m := StateM σ) force ((Clock.nowMs : StateM σ UInt64) w).1 c.lists s
    {} ((Clock.nowMs : StateM σ UInt64) w).2 with ⟨⟨ls, s', r⟩, w'⟩
  rw [hrun] at pass
  dsimp only
  split
  · exact pass
  · rw [bind_apply]
    cases (({ c with lists := ls } : Coordinator).persistState (m := StateM σ) w').1 with
    | error e => exact pass
    | ok u => exact pass

end Coordinator

namespace Blocker

/-! ## reachable states -/

section
variable {σ α : Type}

/-- blocker and services after an operation, whether or not it failed -/
def Action.after (act : Action (StateM σ) α) (b : Blocker) (w : σ) : Blocker × σ :=
  ((act.on b w).1.2, (act.on b w).2)

theorem Action.after_eq {act : Action (StateM σ) α} {answer : Except SyncError α} {b b' : Blocker}
    {w w' : σ} (h : act.on b w = ((answer, b'), w')) : act.after b w = (b', w') := by
  rw [after, h]

end

/-- what a user can do with a blocker -/
inductive Operation where
  | addCustomFilter (text : String)
  | removeCustomFilter (id : RuleId)
  | recomputeWhitelist (domains : List String)
  | toggleWhitelist (domain : String)
  | setListEnabled (list : String) (enabled : Bool)
  | setEnabled (enabled : Bool)
  | refresh (force : Bool)
  deriving DecidableEq, Repr

/-- with or without a refresh of what is due -/
inductive Start where
  | restore
  | restoreAndRefresh
  deriving DecidableEq, Repr

variable {σ : Type} [Services (StateM σ)]

def Operation.run (b : Blocker) (w : σ) : Operation → Blocker × σ
  | addCustomFilter text => (Blocker.addCustomFilter text).after b w
  | removeCustomFilter id => (Blocker.removeCustomFilter id).after b w
  | recomputeWhitelist domains => (Blocker.recomputeWhitelist domains).after b w
  | toggleWhitelist domain => (Blocker.toggleWhitelist domain).after b w
  | setListEnabled list enabled => (Blocker.setListEnabled list enabled).after b w
  | setEnabled enabled => (Blocker.setEnabled enabled).after b w
  | refresh force => (Blocker.refresh force).after b w

def Start.run (b : Blocker) (w : σ) : Start → Blocker × σ
  | restore => Blocker.restore.after b w
  | restoreAndRefresh => Blocker.start.after b w

/-- a start is a restore, perhaps with a refresh after it -/
theorem Start.run_cases (start : Start) (b : Blocker) (w : σ) :
    start.run b w = (Blocker.restore (m := StateM σ)).after b w ∨ ∃ b₁ w₁ r c s' w',
      (Blocker.restore (m := StateM σ)).after b w = (b₁, w₁) ∧
        b₁.coordinator.refresh (m := StateM σ) b₁.store false w₁ = ((r, c, s'), w') ∧
        start.run b w = ({ b₁ with coordinator := c, store := s' }, w') := by
  cases start with
  | restore => exact .inl rfl
  | restoreAndRefresh =>
    rw [run, Blocker.start]
    rcases hrun : (Blocker.restore (m := StateM σ)).on b w with ⟨⟨e | u, b₁⟩, w₁⟩
    · exact .inl ((Action.after_eq (Action.on_bind_error hrun)).trans (Action.after_eq hrun).symm)
    · rcases hrefresh : b₁.coordinator.refresh (m := StateM σ) b₁.store false w₁ with
        ⟨⟨r, c, s'⟩, w'⟩
      exact .inr ⟨b₁, w₁, r, c, s', w', Action.after_eq hrun, hrefresh,
        Action.after_eq ((Action.on_bind_ok hrun).trans (refresh_on hrefresh))⟩

/-- how an operation ends, whatever it answers -/
inductive Ending (b : Blocker) (w : σ) : Operation → Blocker → σ → Prop where
  | addition {text : String} {answer : Except SyncError RuleId} {b' : Blocker} {w' : σ}
      (change : Addition text b w answer b' w') : Ending b w (.addCustomFilter text) b' w'
  | removal {id : RuleId} {answer : Except SyncError CustomFilter} {b' : Blocker} {w' : σ}
      (change : Removal id b w answer b' w') : Ending b w (.removeCustomFilter id) b' w'
  | recomputed {domains : List String} {answer : Except SyncError Unit} {b' : Blocker} {w' : σ}
      (change : WhitelistChange b w answer b' w') : Ending b w (.recomputeWhitelist domains) b' w'
  | toggled {domain : String} {answer : Except SyncError Bool} {b' : Blocker} {w' : σ}
      (change : WhitelistChange b w answer b' w') : Ending b w (.toggleWhitelist domain) b' w'
  | list {list : String} {enabled : Bool} {answer : Except SyncError Unit} {c : Coordinator}
      {w' : σ}
      (h : b.coordinator.setListEnabled (m := StateM σ) list enabled w = ((answer, c), w')) :
      Ending b w (.setListEnabled list enabled) { b with coordinator := c } w'
  | unsaved {enabled : Bool} {e : StorageError} {w' : σ}
      (failed : saving (enabledItems enabled) w = (.error e, w'))
      (h : (Blocker.setEnabled (m := StateM σ) enabled).on b w = ((.error (.storage e), b), w')) :
      Ending b w (.setEnabled enabled) b w'
  | switched {enabled : Bool} {answer : Except SyncError Unit} {b' : Blocker} {w₁ w' : σ}
      (saved : saving (enabledItems enabled) w = (.ok (), w₁))
      (h : (Blocker.setEnabled (m := StateM σ) enabled).on b w = ((answer, b'), w'))
      (change : Switching enabled b w₁ answer b' w') : Ending b w (.setEnabled enabled) b' w'
  | refreshed {force : Bool} {r : RefreshReport} {c : Coordinator} {s' : RuleStore} {w' : σ}
      (h : b.coordinator.refresh (m := StateM σ) b.store force w = ((r, c, s'), w')) :
      Ending b w (.refresh force) { b with coordinator := c, store := s' } w'

theorem Operation.ending (op : Operation) (b : Blocker) (w : σ) :
    Ending b w op (op.run b w).1 (op.run b w).2 := by
  cases op with
  | addCustomFilter text =>
    obtain ⟨answer, b', w', hrun, change⟩ := addCustomFilter_cases text b w
    rw [run, Action.after_eq hrun]
    exact .addition change
  | removeCustomFilter id =>
    obtain ⟨answer, b', w', hrun, change⟩ := removeCustomFilter_cases id b w
    rw [run, Action.after_eq hrun]
    exact .removal change
  | recomputeWhitelist domains =>
    obtain ⟨answer, b', w', hrun, change⟩ := recomputeWhitelist_cases domains b w
    rw [run, Action.after_eq hrun]
    exact .recomputed change
  | toggleWhitelist domain =>
    obtain ⟨answer, b', w', hrun, change⟩ := toggleWhitelist_cases domain b w
    rw [run, Action.after_eq hrun]
    exact .toggled change
  | setListEnabled list enabled =>
    rcases hrun : b.coordinator.setListEnabled (m := StateM σ) list enabled w with ⟨⟨answer, c⟩, w'⟩
    rw [run, Action.after_eq (setListEnabled_on hrun)]
    exact .list hrun
  | setEnabled enabled =>
    rcases setEnabled_cases enabled b w with
      ⟨e, w', failed, hrun⟩ | ⟨w₁, answer, b', w', saved, hrun, change⟩
    · rw [run, Action.after_eq hrun]
      exact .unsaved failed hrun
    · rw [run, Action.after_eq hrun]
      exact .switched saved hrun change
  | refresh force =>
    rcases hrun : b.coordinator.refresh (m := StateM σ) b.store force w with ⟨⟨r, c, s'⟩, w'⟩
    rw [run, Action.after_eq (refresh_on hrun)]
    exact .refreshed hrun

/-- A blocker and the state of its services after any operations, from a new blocker that found
them in the state `w₀`. It is started at most once, and before anything else. Between operations the
services may change as `between` says. -/
inductive Reachable (between : σ → σ → Prop) (config : SyncConfig) (w₀ : σ) :
    Blocker → σ → Prop where
  | new {b : Blocker} (h : Blocker.new config = .ok b) : Reachable between config w₀ b w₀
  | start {b : Blocker} (h : Blocker.new config = .ok b) (start : Start) :
      Reachable between config w₀ (start.run b w₀).1 (start.run b w₀).2
  | step {b : Blocker} {w w₁ : σ} (h : Reachable between config w₀ b w) (meanwhile : between w w₁)
      (op : Operation) : Reachable between config w₀ (op.run b w₁).1 (op.run b w₁).2

theorem new_eq_ok_iff {config : SyncConfig} {b : Blocker} :
    Blocker.new config = .ok b ↔ config.validate = .ok () ∧ b = ofConfig config := by
  rw [new]
  cases config.validate with
  | error e =>
    refine ⟨nofun, fun h => ?_⟩
    cases h.1
  | ok u =>
    refine ⟨fun h => ⟨rfl, (Except.ok.inj h).symm⟩, fun h => ?_⟩
    rw [h.2]

/-! ## the invariant -/

/-- The tables of the store that are not static are those of the filters and of the whitelist. -/
structure Coherent (config : SyncConfig) (b : Blocker) : Prop where
  config_eq : b.config = config
  bounds : RuleStore.SameBounds (ofConfig config).store b.store
  sound : b.store.Sound
  filters : (b.store.table .dynamic).Mirrors b.customFilters
  session : b.store.table .session = RuleTable.insertAll ∅ (Whitelist.rules b.whitelist)
  fits : (Whitelist.rules b.whitelist).length ≤ b.store.capacity .session
  normal : Whitelist.Normal b.whitelist

theorem coherent_ofConfig (config : SyncConfig) : Coherent config (ofConfig config) := by
  have htable : ∀ tier, (ofConfig config).store.table tier = ∅ :=
    RuleStore.table_registerWindows_new (.new config) config.limits
  refine ⟨rfl, .refl _, RuleStore.sound_registerWindows_new _ _, ?_, ?_, Nat.zero_le _,
    Whitelist.normal_nil⟩
  · rw [htable]
    exact RuleTable.mirrors_empty
  · rw [htable]
    rfl

namespace Coherent

variable {config : SyncConfig} {b b' : Blocker} {s' : RuleStore} {t : RuleTable}

variable (h : Coherent config b)
include h

/-- filters and the dynamic tier change together -/
theorem of_dynamic {filters : List CustomFilter} (store : b.store.Puts .dynamic t s')
    (ha : b.store.Admits .dynamic t) (hm : t.Mirrors filters) :
    Coherent config { b with store := s', customFilters := filters } where
  config_eq := h.config_eq
  bounds := h.bounds.trans store.bounds
  sound := store.sound h.sound ha
  filters := by
    rw [store.table]
    exact hm
  session := by
    rw [store.table_of_ne .session nofun]
    exact h.session
  fits := by
    rw [store.bounds.capacity_eq]
    exact h.fits
  normal := h.normal

/-- the dynamic tier has the rules of before -/
theorem of_same_dynamic (store : b.store.Puts .dynamic (b.store.table .dynamic) s') :
    Coherent config { b with store := s' } :=
  h.of_dynamic store (h.sound .dynamic) h.filters

theorem of_onlyStatic (store : b.store.OnlyStatic s') (c : Coordinator) :
    Coherent config { b with store := s', coordinator := c } where
  config_eq := h.config_eq
  bounds := h.bounds.trans store.bounds
  sound := store.sound h.sound
  filters := by
    rw [store.table .dynamic rfl]
    exact h.filters
  session := by
    rw [store.table .session rfl]
    exact h.session
  fits := by
    rw [store.bounds.capacity_eq]
    exact h.fits
  normal := h.normal

/-- neither the lists nor the switch matter -/
theorem of_coordinator (c : Coordinator) : Coherent config { b with coordinator := c } :=
  ⟨h.config_eq, h.bounds, h.sound, h.filters, h.session, h.fits, h.normal⟩

theorem of_enabled (c : Coordinator) (enabled : Bool) :
    Coherent config { b with coordinator := c, enabled := enabled } :=
  ⟨h.config_eq, h.bounds, h.sound, h.filters, h.session, h.fits, h.normal⟩

/-! ### each operation preserves it -/

theorem addition {text : String} {w w' : σ} {answer : Except SyncError RuleId}
    (change : Addition text b w answer b' w') : Coherent config b' := by
  cases change with
  | refused store => exact h.of_same_dynamic store
  | unsaved failed store => exact h.of_same_dynamic store
  | made accepted fresh admits store saved made =>
    rw [made]
    exact h.of_dynamic store (admits h.sound) (h.filters.append accepted fresh)

theorem removal {id : RuleId} {w w' : σ} {answer : Except SyncError CustomFilter}
    (change : Removal id b w answer b' w') : Coherent config b' := by
  cases change with
  | unknown => exact h
  | unsaved failed => exact h
  | made without saved made =>
    rw [made, without]
    exact h.of_dynamic (RuleStore.puts_remove b.store .dynamic id) ((h.sound .dynamic).erase id)
      (h.filters.erase id)

theorem whitelisting {domains : List String} {w w' : σ} {answer : Except SyncError Unit}
    (normal : Whitelist.Normal domains) (change : Whitelisting domains b w answer b' w') :
    Coherent config b' := by
  cases change with
  | full hfull => exact h
  | unsaved failed => exact h
  | made fits saved store sound made =>
    rw [made]
    refine ⟨h.config_eq, h.bounds.trans store.bounds, sound h.sound, ?_, store.table, ?_, normal⟩
    · rw [store.table_of_ne .dynamic nofun]
      exact h.filters
    · rw [store.bounds.capacity_eq]
      exact fits

theorem whitelistChange {α : Type} {w w' : σ} {answer : Except SyncError α}
    (change : WhitelistChange b w answer b' w') : Coherent config b' := by
  cases change with
  | invalid => exact h
  | applied normal change => exact h.whitelisting (normal h.normal) change

theorem switching {enabled : Bool} {w w' : σ} {answer : Except SyncError Unit}
    (change : Switching enabled b w answer b' w') : Coherent config b' := by
  cases change with
  | lists failed => exact h.of_coordinator _
  | filters lists failed => exact h.of_coordinator _
  | made lists filters => exact h.of_enabled _ enabled

theorem refreshed {force : Bool} {r : RefreshReport} {c : Coordinator} {w w' : σ}
    (hrun : b.coordinator.refresh (m := StateM σ) b.store force w = ((r, c, s'), w')) :
    Coherent config { b with coordinator := c, store := s' } := by
  have store := b.coordinator.refresh_onlyStatic b.store force w
  rw [hrun] at store
  exact h.of_onlyStatic store c

theorem ending {op : Operation} {w w' : σ} (ending : Ending b w op b' w') : Coherent config b' := by
  cases ending with
  | addition change => exact h.addition change
  | removal change => exact h.removal change
  | recomputed change => exact h.whitelistChange change
  | toggled change => exact h.whitelistChange change
  | list hrun => exact h.of_coordinator _
  | unsaved failed hrun => exact h
  | switched saved hrun change => exact h.switching change
  | refreshed hrun => exact h.refreshed hrun

theorem run (op : Operation) (w : σ) : Coherent config (op.run b w).1 := h.ending (op.ending b w)

end Coherent

/-! ### a start establishes it -/

section
variable {config : SyncConfig} {b b' : Blocker}

/-- filters are replayed where there are none yet -/
theorem Coherent.replayed (h : Coherent config b) (hnone : b.customFilters = [])
    (saved : List CustomFilter) : Coherent config (b.replayed saved) := by
  have hm := h.filters
  rw [hnone] at hm
  obtain ⟨store, sound, mirrors⟩ := RuleStore.replay_mirrors h.sound hm saved
  exact h.of_dynamic store (store.bounds.symm.admits (sound .dynamic)) mirrors

theorem Coherent.adoption (h : Coherent config b) (hnone : b.customFilters = []) {items : Items}
    {w w' : σ} {answer : Except SyncError Unit} (change : Adoption items b w answer b' w') :
    Coherent config b' := by
  have normal := Whitelist.normal_normalizeAll (Saved.whitelist items)
  cases change with
  | filters filters failed =>
    rw [filters]
    exact h.replayed hnone _
  | whitelist filters synced failed =>
    rw [filters] at failed
    exact (h.replayed hnone _).whitelisting normal failed
  | switch filters synced whitelist switch =>
    rw [filters] at whitelist
    exact ((h.replayed hnone _).whitelisting normal whitelist).switching switch

theorem Coherent.run_restore (h : Coherent config b) (hnone : b.customFilters = []) (w : σ) :
    Coherent config ((restore (m := StateM σ)).after b w).1 := by
  rcases restore_cases b w with ⟨e, c, w', hrun⟩ | ⟨c, items, w₁, hrun⟩
  · rw [Action.after_eq hrun]
    exact h.of_coordinator c
  · obtain ⟨answer, b', w', hadopt, change⟩ := adopt_cases items { b with coordinator := c } w₁
    rw [Action.after_eq (hrun.trans hadopt)]
    exact (h.of_coordinator c).adoption hnone change

theorem Coherent.run_start (h : Coherent config b) (hnone : b.customFilters = []) (start : Start)
    (w : σ) : Coherent config (start.run b w).1 := by
  have restored := h.run_restore hnone w
  rcases start.run_cases b w with hstart | ⟨b₁, w₁, r, c, s', w', hrestore, hrefresh, hstart⟩
  · rw [hstart]
    exact restored
  · rw [hrestore] at restored
    rw [hstart]
    exact restored.refreshed hrefresh

end

variable {between : σ → σ → Prop} {config : SyncConfig} {w₀ w : σ} {b : Blocker}

theorem Reachable.coherent (h : Reachable between config w₀ b w) : Coherent config b := by
  induction h with
  | new h =>
    obtain ⟨-, rfl⟩ := new_eq_ok_iff.mp h
    exact coherent_ofConfig config
  | start h start =>
    obtain ⟨-, rfl⟩ := new_eq_ok_iff.mp h
    exact (coherent_ofConfig config).run_start rfl start w₀
  | step h meanwhile op ih => exact ih.run op _

/-! ## consistency -/

/-- Filters and whitelist as the user sees them, and the rules that the store has for them. -/
structure Consistent (b : Blocker) : Prop where
  ids : (b.customFilters.map CustomFilter.id).Nodup
  /-- the dynamic rules are those the filters stand for, one for each filter -/
  dynamic : ((b.store.rules .dynamic).map Except.ok).Perm (b.customFilters.map CustomFilter.rule)
  session : b.store.rules .session = Whitelist.rules b.whitelist
  distinct : b.whitelist.Nodup
  fixed : ∀ d ∈ b.whitelist, Whitelist.normalize? d = some d

theorem consistent_of_coherent (h : Coherent config b) : Consistent b where
  ids := h.filters.nodup
  dynamic := h.filters.rules_perm (h.sound .dynamic).keyed
  session := by
    rw [RuleStore.rules, h.session]
    exact RuleStore.rules_insertAll_whitelist h.fits
  distinct := h.normal.nodup
  fixed := h.normal.fixed

/-- In every reachable state filters, whitelist and store agree, whatever the services do. -/
theorem Reachable.consistent (h : Reachable between config w₀ b w) : Consistent b :=
  consistent_of_coherent h.coherent

/-- services in memory that fail at will: a write fails while a filter is added -/
theorem consistent_addCustomFilter_default :
    Consistent (Operation.run (ofConfig .default) { store := { failures := 1 } : Memory }
      (.addCustomFilter "||ads.example^")).1 :=
  @Reachable.consistent Memory _ (fun _ _ => True) .default {} _ _
    (.step (.new (new_eq_ok_iff.mpr ⟨by decide, rfl⟩)) trivial (.addCustomFilter "||ads.example^"))

end Blocker

end Blocklist
