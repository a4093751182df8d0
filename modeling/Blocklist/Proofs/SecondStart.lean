import Blocklist.Proofs.Restart

/-!
# Starting once more

A blocker that is started a second time replays its filters into a tier that has their rules
already. The tier refuses each of them, so that they are forgotten, also in the saved state; their
rules stay. Everything else is as it was.

* `RuleStore.HasPlace`, `RuleStore.Refuses`   rules that the dynamic tier has a place for, and
                                      filters that it refuses;
* `RuleStore.refuses_replay`          filters that were replayed are refused from then on;
* `RuleStore.replay_of_refuses`       replaying such filters changes nothing and keeps none;
* `Blocker.InLine`                    engine and saved whitelist, after a start that succeeded;
* `Blocker.SameButFilters`            what a second start leaves as it was;
* `Blocker.LosesFilters`, `Blocker.Started.loses_filters`   what it does to the filters.
-/

namespace Blocklist

/-! ## filters that are refused -/

namespace RuleStore

variable {s s' : RuleStore} {c : CustomFilter} {r : Rule}

/-- the dynamic tier has a place for the rule -/
structure HasPlace (s : RuleStore) (r : Rule) : Prop where
  inRange : (s.idRange .dynamic).contains r.id = true
  free : r.id ∉ s.table .dynamic
  room : (s.table .dynamic).size < s.capacity .dynamic

/-- the filter is no rule, or the dynamic tier has no place for its rule -/
def Refuses (s : RuleStore) (c : CustomFilter) : Prop := ∀ r, c.rule = .ok r → ¬ s.HasPlace r

theorem hasPlace_of_add (hadd : s.add .dynamic r = (.ok (), s')) : s.HasPlace r := by
  obtain ⟨inRange, free, room, -⟩ := add_eq_ok_iff.mp hadd
  exact ⟨inRange, free, room⟩

theorem not_hasPlace_of_add {e : StoreError} (hadd : s.add .dynamic r = (.error e, s')) :
    ¬ s.HasPlace r := by
  intro h
  rw [add_eq_ok_iff.mpr ⟨h.inRange, h.free, h.room, rfl⟩] at hadd
  cases hadd

/-- the dynamic tier has as many rules or more, under the ids of before and perhaps others -/
structure Grows (s s' : RuleStore) : Prop where
  bounds : SameBounds s s'
  mem : ∀ id, id ∈ s.table .dynamic → id ∈ s'.table .dynamic
  size_le : (s.table .dynamic).size ≤ (s'.table .dynamic).size

namespace Grows

theorem of_table (bounds : SameBounds s s') (table : s'.table .dynamic = s.table .dynamic) :
    Grows s s' := by
  refine ⟨bounds, fun id hid => ?_, Nat.le_of_eq ?_⟩
  · rw [table]
    exact hid
  · rw [table]

theorem refl (s : RuleStore) : Grows s s := of_table (.refl s) rfl

theorem trans {s₁ s₂ s₃ : RuleStore} (h : Grows s₁ s₂) (h' : Grows s₂ s₃) : Grows s₁ s₃ :=
  ⟨h.bounds.trans h'.bounds, fun id hid => h'.mem id (h.mem id hid),
    Nat.le_trans h.size_le h'.size_le⟩

theorem of_add_error {e : StoreError} (hadd : s.add .dynamic r = (.error e, s')) : Grows s s' :=
  of_table (puts_add_error hadd).bounds (puts_add_error hadd).table

theorem of_add_ok (hadd : s.add .dynamic r = (.ok (), s')) : Grows s s' := by
  have puts := puts_add_ok hadd
  refine ⟨puts.bounds, fun id hid => ?_, ?_⟩
  · rw [puts.table]
    exact Std.ExtTreeMap.mem_insert.mpr (.inr hid)
  · rw [puts.table]
    exact Std.ExtTreeMap.size_le_size_insert

theorem replay (s : RuleStore) (cs : List CustomFilter) : Grows s (s.replay cs).2 := by
  induction cs generalizing s with
  | nil => exact refl s
  | cons c cs ih =>
    cases hr : c.rule with
    | error e =>
      rw [replay_cons_rejected hr]
      exact ih s
    | ok r =>
      rcases hadd : s.add .dynamic r with ⟨e | u, s'⟩
      · rw [replay_cons_refused hr hadd]
        exact (of_add_error hadd).trans (ih s')
      · rw [replay_cons_ok hr hadd]
        exact (of_add_ok hadd).trans (ih s')

end Grows

/-- a tier that grows has no new places -/
theorem Refuses.mono (h : s.Refuses c) (grows : Grows s s') : s'.Refuses c := by
  intro r hr place
  refine h r hr ⟨?_, fun hid => place.free (grows.mem r.id hid), ?_⟩
  · rw [← grows.bounds.idRange_eq]
    exact place.inRange
  · rw [← grows.bounds.capacity_eq]
    exact Nat.lt_of_le_of_lt grows.size_le place.room

/-- Filters that were replayed are refused from then on: those that found a place since their ids
are taken, the others for the same reason as before. -/
theorem refuses_replay (s : RuleStore) (cs : List CustomFilter) :
    ∀ c ∈ cs, (s.replay cs).2.Refuses c := by
  induction cs generalizing s with
  | nil => nofun
  | cons c cs ih =>
    cases hr : c.rule with
    | error e =>
      rw [replay_cons_rejected hr]
      refine List.forall_mem_cons.mpr ⟨fun r hr' => ?_, ih s⟩
      rw [hr] at hr'
      cases hr'
    | ok r =>
      have refuses : ∀ {s' : RuleStore}, ¬ s'.HasPlace r → s'.Refuses c := by
        intro s' h r' hr'
        rw [← Except.ok.inj (hr.symm.trans hr')]
        exact h
      rcases hadd : s.add .dynamic r with ⟨e | u, s'⟩
      · rw [replay_cons_refused hr hadd]
        have here := refuses (not_hasPlace_of_add hadd)
        exact List.forall_mem_cons.mpr
          ⟨here.mono ((Grows.of_add_error hadd).trans (.replay s' cs)), ih s'⟩
      · rw [replay_cons_ok hr hadd]
        have here : s'.Refuses c := refuses fun place => place.free (by
          rw [(puts_add_ok hadd).table]
          exact Std.ExtTreeMap.mem_insert_self)
        exact List.forall_mem_cons.mpr ⟨here.mono (.replay s' cs), ih s'⟩

/-- filters that are refused leave the rules as they are -/
theorem replay_of_refuses {cs : List CustomFilter} (h : ∀ c ∈ cs, s.Refuses c) :
    (s.replay cs).1 = [] ∧ s.Puts .dynamic (s.table .dynamic) (s.replay cs).2 := by
  induction cs generalizing s with
  | nil => exact ⟨rfl, .refl s .dynamic⟩
  | cons c cs ih =>
    obtain ⟨hc, hcs⟩ := List.forall_mem_cons.mp h
    cases hr : c.rule with
    | error e =>
      rw [replay_cons_rejected hr]
      exact ih hcs
    | ok r =>
      rcases hadd : s.add .dynamic r with ⟨e | u, s'⟩
      · rw [replay_cons_refused hr hadd]
        have puts := puts_add_error hadd
        obtain ⟨hnone, puts'⟩ := ih fun c hc => (hcs c hc).mono (.of_add_error hadd)
        rw [puts.table] at puts'
        exact ⟨hnone, puts.trans puts'⟩
      · exact absurd (hasPlace_of_add hadd) (hc r hr)

end RuleStore

/-! ## lists with their saved states -/

namespace Coordinator

/-- which lists are on -/
def flags (c : Coordinator) : List (String × Bool) := c.lists.map fun l => (l.id, l.enabled)

theorem flags_of_log {c c' : Coordinator} {log : Log} {now : UInt64}
    (h : log.map Prod.fst = c.lists) (h' : c'.lists = log.lists now) : c'.flags = c.flags := by
  rw [flags, flags, h', ← h, Log.lists, List.map_map, List.map_map]
  refine List.map_congr_left fun p _ => ?_
  obtain ⟨l, o⟩ := p
  cases o <;> rfl

/-- states that the lists have already -/
theorem withStates_of_withStates {c₀ c : Coordinator} {states : Saved.ListStates}
    (h : (c₀.withStates states).lists = c.lists) : (c.withStates states).lists = c.lists := by
  rw [withStates, ← h, withStates, List.map_map]
  refine List.map_congr_left fun l _ => ?_
  rw [Function.comp_apply]
  cases hstate : states[l.id]? with
  | none => simp only [hstate]
  | some s =>
    have hid : (l.withState s).id = l.id := rfl
    simp only [hid, hstate]
    show { l.withState s with enabled := s.enabled.getD (s.enabled.getD l.enabled) } = l.withState s
    cases henabled : s.enabled <;> simp [StaticList.withState, henabled]

end Coordinator

namespace Blocker

variable {config : SyncConfig} {b b' b₁ b₂ : Blocker} {w w' w₁ w₂ : Memory} {items : Items}

/-! ## what a start leads to -/

/-- the saved filters are refused by the blocker that they determine -/
theorem Durable.refuses (h : Durable config items b) :
    ∀ c ∈ Saved.customFilters items, b.store.Refuses c := by
  obtain ⟨puts, -, mirrors⟩ := RuleStore.replay_mirrors (coherent_ofConfig config).sound
    (mirrors_nil config) (Saved.customFilters items)
  rw [List.nil_append, h.filters] at mirrors
  have grows : RuleStore.Grows ((ofConfig config).store.replay (Saved.customFilters items)).2
      b.store :=
    .of_table (puts.bounds.symm.trans h.coherent.bounds) (h.coherent.filters.unique mirrors)
  exact fun c hc => (RuleStore.refuses_replay _ _ c hc).mono grows

theorem Durable.lists_withSavedStates (h : Durable config w.store.items b) :
    (b.withSavedStates w).coordinator.lists = b.coordinator.lists := by
  show (b.coordinator.withStates (Saved.listStates (Items.pick _ _))).lists = _
  rw [listStates_pick]
  exact Coordinator.withStates_of_withStates h.lists

/-- the rules of the engine and the saved whitelist are those of the blocker -/
structure InLine (b : Blocker) (w : Memory) : Prop where
  dynamic : w.engine.table .dynamic = b.store.table .dynamic
  session : (w.engine.table .session).own .session = b.store.table .session
  savedWhitelist : w.store.items[Saved.whitelistKey]? = some (.ofStrings b.whitelist)

theorem Adopted.inLine (adopted : Adopted items b w b' w') : InLine b' w' := by
  refine ⟨adopted.engine, adopted.own, ?_⟩
  rw [adopted.saved, whitelistItems, Items.getElem?_update_of_some (Saved.single_self _ _)]

theorem InLine.of_same (h : InLine b w) (items : w'.store.items = w.store.items)
    (rules : w.SameRules w') : InLine b w' := by
  refine ⟨?_, ?_, ?_⟩
  · rw [MemoryEngine.table_congr rules]
    exact h.dynamic
  · rw [MemoryEngine.table_congr rules]
    exact h.session
  · rw [items]
    exact h.savedWhitelist

/-- All but the filters is as it was: whitelist, switch and lists that are on, the rules that are
not static, in the store and in the engine, and the saved whitelist. -/
structure SameButFilters (b : Blocker) (w : Memory) (b' : Blocker) (w' : Memory) : Prop where
  whitelist : b'.whitelist = b.whitelist
  enabled : b'.enabled = b.enabled
  flags : b'.coordinator.flags = b.coordinator.flags
  tables : ∀ tier, tier.isStatic = false → b'.store.table tier = b.store.table tier
  engine : ∀ tier, tier.isStatic = false → w'.engine.table tier = w.engine.table tier
  savedWhitelist : w'.store.items[Saved.whitelistKey]? = w.store.items[Saved.whitelistKey]?

theorem SameButFilters.trans (h : SameButFilters b w b₁ w₁) (h' : SameButFilters b₁ w₁ b₂ w₂) :
    SameButFilters b w b₂ w₂ where
  whitelist := h'.whitelist.trans h.whitelist
  enabled := h'.enabled.trans h.enabled
  flags := h'.flags.trans h.flags
  tables tier ht := (h'.tables tier ht).trans (h.tables tier ht)
  engine tier ht := (h'.engine tier ht).trans (h.engine tier ht)
  savedWhitelist := h'.savedWhitelist.trans h.savedWhitelist

theorem InLine.of_sameButFilters (h : InLine b w) (same : SameButFilters b w b' w') :
    InLine b' w' := by
  refine ⟨?_, ?_, ?_⟩
  · rw [same.engine .dynamic rfl, same.tables .dynamic rfl]
    exact h.dynamic
  · rw [same.engine .session rfl, same.tables .session rfl]
    exact h.session
  · rw [same.savedWhitelist, same.whitelist]
    exact h.savedWhitelist

/-! ## a refresh -/

section
variable (hs : b.store.Sound) {force : Bool} {r : RefreshReport} {c : Coordinator} {s' : RuleStore}
  (hrun : b.coordinator.refresh (m := StateM Memory) b.store force w = ((r, c, s'), w'))
include hs hrun

/-- a refresh saves the states of the lists and nothing else -/
theorem getElem?_items_of_refresh {key : String} (hstates : key ≠ Saved.listStatesKey)
    (hupdate : key ≠ Saved.lastUpdateKey) : w'.store.items[key]? = w.store.items[key]? := by
  obtain ⟨-, ⟨-, hstore⟩ | hstore⟩ := refresh_saves hs hrun
  · rw [hstore]
  · rcases w.store.save_cases c.items with ⟨-, hsave⟩ | ⟨e, n, -, hsave⟩
    · rw [hstore, hsave]
      exact Items.getElem?_update_of_none (c.items_of_ne hstates hupdate)
    · rw [hstore, hsave]

theorem sameButFilters_of_refresh :
    SameButFilters b w { b with coordinator := c, store := s' } w' := by
  obtain ⟨log, w₁, hlog, pass, -, hlists, hengine, -⟩ := Coordinator.refresh_pass hs hrun
  have store := b.coordinator.refresh_onlyStatic b.store force w
  rw [hrun] at store
  refine ⟨rfl, rfl, Coordinator.flags_of_log hlog hlists, store.table, fun tier ht => ?_,
    getElem?_items_of_refresh hs hrun (by decide) (by decide)⟩
  rw [hengine]
  refine (pass.untouched fun p _ hp => ?_).engine
  rw [← hp] at ht
  cases ht

end

/-! ## a second start -/

/-- The filters are forgotten, also in the saved state unless none were saved. Everything else is
as it was, the rules of the filters included. -/
structure LosesFilters (b : Blocker) (w : Memory) (b' : Blocker) (w' : Memory) : Prop
    extends SameButFilters b w b' w' where
  customFilters : b'.customFilters = []
  savedFilters : w'.store.items[Saved.customFiltersKey]? =
    if Saved.customFilters w.store.items = [] then w.store.items[Saved.customFiltersKey]?
    else some (Saved.customFiltersToJson [])

/-- filters of which none is kept are forgotten in the saved state, too -/
theorem getElem?_pruned {saved : List CustomFilter} (calm : w.Calm)
    (hnone : (b.store.replay saved).1 = []) :
    (pruned saved b w).store.items[Saved.customFiltersKey]? =
      if saved = [] then w.store.items[Saved.customFiltersKey]?
      else some (Saved.customFiltersToJson []) := by
  obtain ⟨w₁, hsave, -⟩ := saving_calm calm (filterItems [])
  rw [pruned, hnone, hsave]
  cases saved with
  | nil => rfl
  | cons c cs =>
    have hlen : ([] : List CustomFilter).length ≠ (c :: cs).length := Nat.zero_ne_add_one _
    rw [if_pos hlen, if_neg (List.cons_ne_nil c cs), items_of_saving_ok hsave, filterItems,
      Items.getElem?_update_of_some (Saved.single_self _ _)]

/-- A restore on a blocker that the saved values determine already. -/
theorem Durable.restore_again (h : Durable config w.store.items b) (inLine : InLine b w)
    (calm : w.Calm) :
    ∃ b' w', (restore (m := StateM Memory)).on b w = ((.ok (), b'), w') ∧ b'.store.Sound ∧
      LosesFilters b w b' w' := by
  obtain ⟨hnone, puts⟩ := RuleStore.replay_of_refuses h.refuses
  have fits : (Whitelist.rules (Whitelist.normalizeAll (Saved.whitelist w.store.items))).length ≤
      (b.store.replay (Saved.customFilters w.store.items)).2.capacity .session := by
    rw [h.whitelist, puts.bounds.capacity_eq]
    exact h.coherent.fits
  obtain ⟨b', w', hrun, adopted⟩ :=
    restores_of_calm calm (puts.sound h.coherent.sound (h.coherent.sound .dynamic)) fits
  have hwhitelist : b'.whitelist = b.whitelist := by
    rw [adopted.whitelist, whitelist_savedItems, h.whitelist]
  have hdynamic : b'.store.table .dynamic = b.store.table .dynamic := by
    rw [adopted.dynamic, customFilters_savedItems]
    exact puts.table
  have hsession : b'.store.table .session = b.store.table .session := by
    rw [adopted.session, hwhitelist, h.coherent.session]
  refine ⟨b', w', hrun, adopted.sound, ⟨hwhitelist, ?_, ?_, ?_, ?_, ?_⟩, ?_, ?_⟩
  · rw [adopted.enabled, enabled_savedItems, h.enabled]
  · rw [Coordinator.flags, adopted.lists, h.lists_withSavedStates]
    rfl
  · intro tier ht
    cases tier with
    | static list => cases ht
    | dynamic => exact hdynamic
    | session => exact hsession
  · intro tier ht
    cases tier with
    | static list => cases ht
    | dynamic => rw [adopted.engine, hdynamic, inLine.dynamic]
    | session =>
      refine RuleTable.eq_of_own_of_foreign ?_ adopted.foreign
      rw [adopted.own, hsession, inLine.session]
  · rw [adopted.inLine.savedWhitelist, hwhitelist, inLine.savedWhitelist]
  · rw [adopted.filters, customFilters_savedItems]
    exact hnone
  · rw [adopted.saved, Items.getElem?_update_of_none (whitelistItems_of_ne (by decide) _),
      customFilters_savedItems]
    exact getElem?_pruned calm hnone

/-- what any start makes of a restore -/
theorem Started.inLine (started : Started (ofConfig config) w b' w') : InLine b' w' := by
  obtain ⟨b₁, w₁, hrestore, ⟨rfl, rfl⟩ | ⟨r, c, s', hrun, rfl⟩⟩ := started.restored
  · exact (adopted_of_restore hrestore).inLine
  · have adopted := adopted_of_restore hrestore
    exact adopted.inLine.of_sameButFilters (sameButFilters_of_refresh adopted.sound hrun)

/-- a refresh after a restore that has lost the filters -/
theorem LosesFilters.refreshed (h : LosesFilters b w b₁ w₁) (hs : b₁.store.Sound) {force : Bool}
    {r : RefreshReport} {c : Coordinator} {s' : RuleStore}
    (hrun : b₁.coordinator.refresh (m := StateM Memory) b₁.store force w₁ = ((r, c, s'), w')) :
    LosesFilters b w { b₁ with coordinator := c, store := s' } w' where
  toSameButFilters := h.toSameButFilters.trans (sameButFilters_of_refresh hs hrun)
  customFilters := h.customFilters
  savedFilters :=
    (getElem?_items_of_refresh hs hrun (by decide) (by decide)).trans h.savedFilters

/-- A second start on the same blocker, with or without a refresh, succeeds where nothing fails, and
loses the filters. Between the two starts anything may change but what is saved and the rules of the
engine. -/
theorem Started.loses_filters (fresh : Blocker.new config = .ok b) (first : Started b w b₁ w₁)
    (items : w₂.store.items = w₁.store.items) (rules : w₁.SameRules w₂) (calm : w₂.Calm) :
    (∃ b' w', (Blocker.restore (m := StateM Memory)).on b₁ w₂ = ((.ok (), b'), w') ∧
      LosesFilters b₁ w₂ b' w') ∧
    ∃ r b' w', (Blocker.start (m := StateM Memory)).on b₁ w₂ = ((.ok r, b'), w') ∧
      LosesFilters b₁ w₂ b' w' := by
  obtain ⟨hvalid, rfl⟩ := new_eq_ok_iff.mp fresh
  have durable := first.durable hvalid
  rw [← items] at durable
  obtain ⟨b', w', hrestore, hs, loses⟩ :=
    durable.restore_again (first.inLine.of_same items rules) calm
  refine ⟨⟨b', w', hrestore, loses⟩, ?_⟩
  rcases hrun : b'.coordinator.refresh (m := StateM Memory) b'.store false w' with
    ⟨⟨r, c, s'⟩, w''⟩
  exact ⟨r, _, w'', (Action.on_bind_ok hrestore).trans (refresh_on hrun), loses.refreshed hs hrun⟩

/-- what is saved by a user with one filter and one whitelisted domain -/
def oneFilter : Memory where
  store.items :=
    (filterItems [⟨100000, "||ads.example.com^"⟩]).update (whitelistItems ["example.org"])

/-- The filter is there after the first restore, and gone after the second. -/
theorem loses_filters_default :
    ∃ b₁ w₁ b₂ w₂, (Blocker.restore (m := StateM Memory)).on (ofConfig .default) oneFilter =
        ((.ok (), b₁), w₁) ∧ b₁.customFilters = [⟨100000, "||ads.example.com^"⟩] ∧
      (Blocker.restore (m := StateM Memory)).on b₁ w₁ = ((.ok (), b₂), w₂) ∧
      LosesFilters b₁ w₁ b₂ w₂ := by
  have hfirst : ((Blocker.restore (m := StateM Memory)).on (ofConfig .default) oneFilter).1.1 =
        .ok () ∧
      ((Blocker.restore (m := StateM Memory)).on (ofConfig .default) oneFilter).1.2.customFilters =
        [⟨100000, "||ads.example.com^"⟩] ∧
      ((Blocker.restore (m := StateM Memory)).on (ofConfig .default) oneFilter).2.engine.failures =
        0 ∧
      ((Blocker.restore (m := StateM Memory)).on (ofConfig .default) oneFilter).2.store.failures =
        0 := by
    decide +kernel
  rcases hrun : (Blocker.restore (m := StateM Memory)).on (ofConfig .default) oneFilter with
    ⟨⟨answer, b₁⟩, w₁⟩
  rw [hrun] at hfirst
  obtain ⟨hanswer, hfilters, hengine, hstore⟩ := hfirst
  cases hanswer
  have fresh : Blocker.new .default = .ok (ofConfig .default) :=
    new_eq_ok_iff.mpr ⟨by decide, rfl⟩
  obtain ⟨⟨b₂, w₂, hsecond, loses⟩, -⟩ :=
    Started.loses_filters fresh (.restore hrun) rfl (rfl : w₁.SameRules w₁) ⟨hengine, hstore⟩
  exact ⟨b₁, w₁, b₂, w₂, rfl, hfilters, hsecond, loses⟩

/-- Two restores that succeed, and the second forgets the filter, also in the saved state, while its
rule stays in the store and in the engine. -/
theorem second_restore_forgets_default :
    let first := (Blocker.restore (m := StateM Memory)).on (ofConfig .default) oneFilter
    let second := (Blocker.restore (m := StateM Memory)).on first.1.2 first.2
    first.1.1 = .ok () ∧ second.1.1 = .ok () ∧
      first.1.2.customFilters = [⟨100000, "||ads.example.com^"⟩] ∧ second.1.2.customFilters = [] ∧
      Saved.customFilters first.2.store.items = [⟨100000, "||ads.example.com^"⟩] ∧
      Saved.customFilters second.2.store.items = [] ∧
      (second.1.2.store.rules .dynamic).map Rule.id = [100000] ∧
      (second.2.engine.rules .dynamic).map Rule.id = [100000] := by
  decide +kernel

end Blocker

end Blocklist
