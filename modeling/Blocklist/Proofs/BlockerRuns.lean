import Blocklist.Proofs.CustomFilterTables
import Blocklist.Proofs.IssuedIds
import Blocklist.Proofs.Runs
import Blocklist.Proofs.WhitelistRules

/-!
# What the operations of a blocker do

Each operation ends in one of a few ways. Here they are stated once, for services of any kind: what
becomes of the blocker, what is saved, and what is left to the engine.

* `Blocker.saving`, `Blocker.syncing`   a save, and bringing a tier to the engine;
* `Blocker.Addition`, `Blocker.Removal`, `Blocker.Whitelisting`, `Blocker.Switching`
                                        how the operations of these kinds end;
* `Blocker.Adoption`                    how taking over saved values ends;
* `Blocker.addCustomFilter_cases`, …    each operation ends in one of these ways.
-/

namespace Blocklist.Blocker

/-! ## saved items -/

def filterItems (filters : List CustomFilter) : Items :=
  Saved.single Saved.customFiltersKey (Saved.customFiltersToJson filters)

def whitelistItems (domains : List String) : Items :=
  Saved.single Saved.whitelistKey (.ofStrings domains)

def enabledItems (enabled : Bool) : Items := Saved.single Saved.enabledKey (.bool enabled)

variable {σ α β : Type}

open Blocker.Action

section
variable {x : Action (StateM σ) α} {f : α → Action (StateM σ) β}

/-- the first part of a program fails, or the rest goes on from where it ends -/
theorem on_bind_cases (x : Action (StateM σ) α) (f : α → Action (StateM σ) β) (b : Blocker)
    (w : σ) :
    (∃ e b' w', x.on b w = ((.error e, b'), w') ∧ (x >>= f).on b w = ((.error e, b'), w')) ∨
      ∃ a b' w', x.on b w = ((.ok a, b'), w') ∧ (x >>= f).on b w = (f a).on b' w' := by
  rcases hx : x.on b w with ⟨⟨e | a, b'⟩, w'⟩
  · exact .inl ⟨e, b', w', rfl, on_bind_error hx⟩
  · exact .inr ⟨a, b', w', rfl, on_bind_ok hx⟩

/-- what is done with the answer at the end -/
theorem on_bind_pure {answer : Except SyncError α} {b b' : Blocker} {w w' : σ}
    (h : x.on b w = ((answer, b'), w')) (g : α → β) :
    (x >>= fun a => pure (g a)).on b w = ((answer.map g, b'), w') := by
  cases answer with
  | error e => exact on_bind_error h
  | ok a => exact on_bind_ok h

end

/-! ## filters in the store -/

/-- how compiling a new filter ends: with an error and no rule, or with the rule in the dynamic
tier under a fresh id -/
inductive Compilation (text : String) (b : Blocker) :
    Except SyncError RuleId → RuleStore → Prop where
  | refused {e : SyncError} {s' : RuleStore}
      (store : b.store.Puts .dynamic (b.store.table .dynamic) s')
      (ids : b.store.Accounted [] → s'.Accounted []) : Compilation text b (.error e) s'
  | made {id : RuleId} {r : Rule} {s' : RuleStore}
      (accepted : (CustomFilter.mk id text).rule = .ok r)
      (fresh : id ∉ b.store.table .dynamic)
      (admits : b.store.Sound → b.store.Admits .dynamic ((b.store.table .dynamic).insert id r))
      (store : b.store.Puts .dynamic ((b.store.table .dynamic).insert id r) s')
      (ids : b.store.Accounted [] → s'.Accounted []) : Compilation text b (.ok id) s'

theorem compileCustomFilter_cases (text : String) (b : Blocker) (w : σ) :
    ∃ answer s', (compileCustomFilter (m := StateM σ) text).on b w =
        ((answer, { b with store := s' }), w) ∧ Compilation text b answer s' := by
  rw [compileCustomFilter, on_bind_ok (on_get b w)]
  cases halloc : b.store.allocateDynamicId with
  | error e => exact ⟨_, b.store, on_throw _ b w, .refused (.refl _ _) fun h => h⟩
  | ok p =>
    obtain ⟨id, s₁⟩ := p
    have taken : b.store.Accounted [] → s₁.Accounted [id] := fun h => h.allocate halloc
    have puts₁ := RuleStore.puts_allocateDynamicId .dynamic halloc
    have released : ∀ {s₂ : RuleStore}, b.store.Puts .dynamic (b.store.table .dynamic) s₂ →
        b.store.Puts .dynamic (b.store.table .dynamic) (s₂.releaseDynamicId id) := by
      intro s₂ puts₂
      have puts₃ := RuleStore.puts_releaseDynamicId s₂ .dynamic id
      rw [puts₂.table] at puts₃
      exact puts₂.trans puts₃
    dsimp only
    cases hparse : Filter.parse text.toList id with
    | error e => exact ⟨_, _, rfl, .refused (released puts₁) fun h => (taken h).release⟩
    | ok r =>
      dsimp only
      have hid := Filter.id_of_parse hparse
      rcases hadd : s₁.add .dynamic r with ⟨e | u, s₂⟩
      · have puts₂ := RuleStore.puts_add_error hadd
        rw [puts₁.table] at puts₂
        exact ⟨_, _, rfl, .refused (released (puts₁.trans puts₂))
          fun h => ((taken h).add_error hadd).release⟩
      · obtain ⟨hrange, hfresh, hsize, -⟩ := RuleStore.add_eq_ok_iff.mp hadd
        have puts₂ := RuleStore.puts_add_ok hadd
        rw [puts₁.table, hid] at hfresh puts₂
        rw [puts₁.bounds.idRange_eq] at hrange
        rw [puts₁.table, puts₁.bounds.capacity_eq] at hsize
        have puts := puts₁.trans puts₂
        refine ⟨_, _, rfl, .made hparse hfresh (fun hs => ?_) puts
          fun h => ((taken h).add_ok hadd).settle ?_⟩
        · rw [← hid] at hfresh ⊢
          exact (hs .dynamic).insert hrange hfresh hsize
        · rw [puts.table]
          exact Std.ExtTreeMap.mem_insert_self

theorem replayFilter_rejected {c : CustomFilter} {e : Rejection} (hr : c.rule = .error e)
    (b : Blocker) (w : σ) : (replayFilter (m := StateM σ) c).on b w = ((.ok false, b), w) := by
  rw [replayFilter, show Filter.parse c.filter.toList c.id = .error e from hr]
  rfl

theorem replayFilter_accepted {c : CustomFilter} {r : Rule} (hr : c.rule = .ok r) (b : Blocker)
    (w : σ) :
    (replayFilter (m := StateM σ) c).on b w =
      ((.ok (b.store.add .dynamic r).1.toBool,
        { b with store := (b.store.add .dynamic r).2 }), w) := by
  rw [replayFilter, show Filter.parse c.filter.toList c.id = .ok r from hr]
  dsimp only
  rw [on_bind_ok (on_get b w)]
  rfl

theorem filterAuxM_replayFilter (saved kept : List CustomFilter) (b : Blocker) (w : σ) :
    (saved.filterAuxM (m := Action (StateM σ)) replayFilter kept).on b w =
      ((.ok ((b.store.replay saved).1.reverse ++ kept),
        { b with store := (b.store.replay saved).2 }), w) := by
  induction saved generalizing kept b with
  | nil => rfl
  | cons c cs ih =>
    rw [List.filterAuxM]
    cases hr : c.rule with
    | error e =>
      rw [on_bind_ok (replayFilter_rejected hr b w), RuleStore.replay_cons_rejected hr]
      exact ih kept b
    | ok r =>
      rw [on_bind_ok (replayFilter_accepted hr b w)]
      rcases hadd : b.store.add .dynamic r with ⟨e | u, s'⟩
      · rw [RuleStore.replay_cons_refused hr hadd]
        exact ih kept { b with store := s' }
      · rw [RuleStore.replay_cons_ok hr hadd, List.reverse_cons, List.append_assoc]
        exact ih (c :: kept) { b with store := s' }

theorem filterM_replayFilter (saved : List CustomFilter) (b : Blocker) (w : σ) :
    (saved.filterM (m := Action (StateM σ)) replayFilter).on b w =
      ((.ok (b.store.replay saved).1, { b with store := (b.store.replay saved).2 }), w) := by
  rw [List.filterM, on_bind_ok (filterAuxM_replayFilter saved [] b w), List.append_nil,
    List.reverse_reverse]
  rfl

variable [Services (StateM σ)] {b b' : Blocker} {w w' : σ}

/-! ## saving and syncing -/

def saving (items : Items) (w : σ) : Except StorageError Unit × σ :=
  (KeyValueStore.save items : StateM σ (Except StorageError Unit)) w

def syncing (tier : Tier) (b : Blocker) (w : σ) : Except SyncError RuleDiff × σ :=
  (syncTier (m := StateM σ) tier (b.store.rules tier) b.config.retry).run w

theorem save_ok {items : Items} (h : saving items w = (.ok (), w')) (b : Blocker) :
    (save (m := StateM σ) items).on b w = ((.ok (), b), w') := on_call_ok h b

theorem save_error {items : Items} {e : StorageError} (h : saving items w = (.error e, w'))
    (b : Blocker) : (save (m := StateM σ) items).on b w = ((.error (.storage e), b), w') :=
  on_call_error h b

theorem saveCustomFilters_ok {filters : List CustomFilter}
    (h : saving (filterItems filters) w = (.ok (), w')) (b : Blocker) :
    (saveCustomFilters (m := StateM σ) filters).on b w = ((.ok (), b), w') := save_ok h b

theorem saveCustomFilters_error {filters : List CustomFilter} {e : StorageError}
    (h : saving (filterItems filters) w = (.error e, w')) (b : Blocker) :
    (saveCustomFilters (m := StateM σ) filters).on b w = ((.error (.storage e), b), w') :=
  save_error h b

theorem sync_on (tier : Tier) (b : Blocker) (w : σ) :
    (sync (m := StateM σ) tier).on b w =
      (((syncing tier b w).1.map fun _ => (), b), (syncing tier b w).2) := by
  rw [sync, on_bind_ok (on_get b w)]
  rcases h : syncing tier b w with ⟨e | d, w'⟩
  · exact on_bind_error (on_call_error h b)
  · exact on_bind_ok (on_call_ok h b)

theorem sync_pure_on (tier : Tier) (a : α) (b : Blocker) (w : σ) :
    (sync (m := StateM σ) tier >>= fun _ => pure a).on b w =
      (((syncing tier b w).1.map fun _ => a, b), (syncing tier b w).2) := by
  rw [on_bind_pure (sync_on tier b w) fun _ => a]
  cases (syncing tier b w).1 <;> rfl

/-! ## custom filters -/

/-- how adding a filter ends -/
inductive Addition (text : String) (b : Blocker) (w : σ) :
    Except SyncError RuleId → Blocker → σ → Prop where
  | refused {e : SyncError} {s' : RuleStore}
      (store : b.store.Puts .dynamic (b.store.table .dynamic) s')
      (ids : b.store.Accounted [] → s'.Accounted []) :
      Addition text b w (.error e) { b with store := s' } w
  /-- the new list of filters could not be saved, and the rule is gone again -/
  | unsaved {e : StorageError} {filters : List CustomFilter} {s' : RuleStore} {w' : σ}
      (failed : saving (filterItems filters) w = (.error e, w'))
      (store : b.store.Puts .dynamic (b.store.table .dynamic) s')
      (ids : b.store.Accounted [] → s'.Accounted []) :
      Addition text b w (.error (.storage e)) { b with store := s' } w'
  | made {id : RuleId} {r : Rule} {s' : RuleStore} {b' : Blocker} {w₁ : σ}
      (accepted : (CustomFilter.mk id (Text.trimmed text)).rule = .ok r)
      (fresh : id ∉ b.store.table .dynamic)
      (admits : b.store.Sound → b.store.Admits .dynamic ((b.store.table .dynamic).insert id r))
      (store : b.store.Puts .dynamic ((b.store.table .dynamic).insert id r) s')
      (saved : saving (filterItems (b.customFilters ++ [⟨id, Text.trimmed text⟩])) w = (.ok (), w₁))
      (made : b' =
        { b with store := s', customFilters := b.customFilters ++ [⟨id, Text.trimmed text⟩] })
      (ids : b.store.Accounted [] → s'.Accounted []) :
      Addition text b w ((syncing .dynamic b' w₁).1.map fun _ => id) b' (syncing .dynamic b' w₁).2

theorem addCustomFilter_cases (text : String) (b : Blocker) (w : σ) :
    ∃ answer b' w', (addCustomFilter (m := StateM σ) text).on b w = ((answer, b'), w') ∧
      Addition text b w answer b' w' := by
  obtain ⟨answer, s₁, hcompile, compiled⟩ := compileCustomFilter_cases (Text.trimmed text) b w
  rw [addCustomFilter]
  cases compiled with
  | @refused e s₁ store ids => exact ⟨_, _, _, on_bind_error hcompile, .refused store ids⟩
  | @made id r s₁ accepted fresh admits store ids =>
    rw [on_bind_ok hcompile, on_bind_ok (on_get _ w)]
    dsimp only
    rcases hsave : saving (filterItems (b.customFilters ++ [⟨id, Text.trimmed text⟩])) w with
      ⟨e | u, w₁⟩
    · refine ⟨.error (.storage e), { b with store := (s₁.remove .dynamic id).2 }, w₁,
        on_bind_error ((on_tryCatch_error (saveCustomFilters_error hsave _)).trans rfl),
        .unsaved hsave ?_ fun h => (ids h).remove id⟩
      have removed := RuleStore.puts_remove s₁ .dynamic id
      have herase : (s₁.table .dynamic).erase id = b.store.table .dynamic := by
        rw [store.table]
        exact RuleTable.erase_insert_of_not_mem fresh
      rw [herase] at removed
      exact store.trans removed
    · refine ⟨_, _, _, ?_, .made accepted fresh admits store hsave rfl ids⟩
      rw [on_bind_ok (on_tryCatch_ok (saveCustomFilters_ok hsave _)), on_bind_ok (on_modify _ _ w₁)]
      exact sync_pure_on .dynamic _ _ w₁

/-- how removing a filter ends -/
inductive Removal (id : RuleId) (b : Blocker) (w : σ) :
    Except SyncError CustomFilter → Blocker → σ → Prop where
  | unknown : Removal id b w (.error (.unknownFilter id)) b w
  | unsaved {e : StorageError} {filters : List CustomFilter} {w' : σ}
      (failed : saving (filterItems filters) w = (.error e, w')) :
      Removal id b w (.error (.storage e)) b w'
  | made {c : CustomFilter} {filters : List CustomFilter} {b' : Blocker} {w₁ : σ}
      (without : filters = b.customFilters.eraseIdx (b.customFilters.findIdx fun c => c.id = id))
      (saved : saving (filterItems filters) w = (.ok (), w₁))
      (made : b' = { b with customFilters := filters, store := (b.store.remove .dynamic id).2 }) :
      Removal id b w ((syncing .dynamic b' w₁).1.map fun _ => c) b' (syncing .dynamic b' w₁).2

theorem removeCustomFilter_cases (id : RuleId) (b : Blocker) (w : σ) :
    ∃ answer b' w', (removeCustomFilter (m := StateM σ) id).on b w = ((answer, b'), w') ∧
      Removal id b w answer b' w' := by
  rw [removeCustomFilter, on_bind_ok (on_get b w)]
  cases hfind : b.customFilters.find? fun c => c.id = id with
  | none =>
    dsimp only
    rw [hfind]
    exact ⟨_, _, _, on_throw _ b w, .unknown⟩
  | some removed =>
    dsimp only
    rw [hfind]
    dsimp only
    rcases hsave : saving (filterItems (b.customFilters.eraseIdx
      (b.customFilters.findIdx fun c => c.id = id))) w with ⟨e | u, w₁⟩
    · exact ⟨_, _, _, on_bind_error (saveCustomFilters_error hsave b), .unsaved hsave⟩
    · refine ⟨_, _, _, ?_, .made (c := removed) rfl hsave rfl⟩
      rw [on_bind_ok (saveCustomFilters_ok hsave b), on_bind_ok (on_modify _ b w₁)]
      exact sync_pure_on .dynamic _ _ w₁

/-! ## whitelist -/

/-- how making `domains` the whitelist ends -/
inductive Whitelisting (domains : List String) (b : Blocker) (w : σ) :
    Except SyncError Unit → Blocker → σ → Prop where
  | full {e : SyncError} (h : b.store.capacity .session < (Whitelist.rules domains).length) :
      Whitelisting domains b w (.error e) b w
  | unsaved {e : StorageError} {w' : σ}
      (failed : saving (whitelistItems domains) w = (.error e, w')) :
      Whitelisting domains b w (.error (.storage e)) b w'
  | made {s' : RuleStore} {b' : Blocker} {w₁ : σ}
      (fits : (Whitelist.rules domains).length ≤ b.store.capacity .session)
      (saved : saving (whitelistItems domains) w = (.ok (), w₁))
      (store : b.store.Puts .session (RuleTable.insertAll ∅ (Whitelist.rules domains)) s')
      (sound : b.store.Sound → s'.Sound)
      (made : b' = { b with store := s', whitelist := domains })
      (ids : s'.dynamicIds = b.store.dynamicIds) :
      Whitelisting domains b w ((syncing .session b' w₁).1.map fun _ => ()) b'
        (syncing .session b' w₁).2

theorem applyWhitelist_cases (domains : List String) (b : Blocker) (w : σ) :
    ∃ answer b' w', (applyWhitelist (m := StateM σ) domains).on b w = ((answer, b'), w') ∧
      Whitelisting domains b w answer b' w' := by
  rw [applyWhitelist, on_bind_ok (on_get b w)]
  by_cases hfull : b.store.capacity .session < (Whitelist.rules domains).length
  · exact ⟨_, _, _, by simp only [if_pos hfull]; exact on_bind_error (on_throw _ b w), .full hfull⟩
  · have fits := Nat.not_lt.mp hfull
    simp only [if_neg hfull]
    rcases hsave : saving (whitelistItems domains) w with ⟨e | u, w₁⟩
    · exact ⟨_, _, _, on_bind_error (save_error hsave b), .unsaved hsave⟩
    · obtain ⟨prev, s', hreplace⟩ := RuleStore.replaceAll_whitelist fits
      refine ⟨_, _, _, ?_, .made fits hsave (RuleStore.puts_replaceAll hreplace)
        (RuleStore.Sound.replaceAll hreplace) rfl (RuleStore.dynamicIds_replaceAll hreplace nofun)⟩
      refine (on_bind_ok (save_ok hsave b)).trans ?_
      rw [hreplace]
      dsimp only
      rw [on_bind_ok (on_modify _ b w₁)]
      exact sync_on .session _ w₁

/-- how an operation that changes the whitelist ends; a normal whitelist is followed by one -/
inductive WhitelistChange (b : Blocker) (w : σ) : Except SyncError α → Blocker → σ → Prop where
  | invalid {text : String} : WhitelistChange b w (.error (.invalidDomain text)) b w
  | applied {domains : List String} {answer : Except SyncError Unit} {b' : Blocker} {w' : σ} {a : α}
      (normal : Whitelist.Normal b.whitelist → Whitelist.Normal domains)
      (change : Whitelisting domains b w answer b' w') :
      WhitelistChange b w (answer.map fun _ => a) b' w'

theorem recomputeWhitelist_cases (domains : List String) (b : Blocker) (w : σ) :
    ∃ answer b' w', (recomputeWhitelist (m := StateM σ) domains).on b w = ((answer, b'), w') ∧
      WhitelistChange b w answer b' w' := by
  rw [recomputeWhitelist]
  cases invalidDomain? domains with
  | some d => exact ⟨_, _, _, on_throw _ b w, .invalid⟩
  | none =>
    obtain ⟨answer, b', w', hrun, change⟩ :=
      applyWhitelist_cases (Whitelist.normalizeAll domains) b w
    have changed := WhitelistChange.applied (a := ())
      (fun _ => Whitelist.normal_normalizeAll domains) change
    have hanswer : (answer.map fun _ => ()) = answer := by cases answer <;> rfl
    rw [hanswer] at changed
    exact ⟨answer, b', w', hrun, changed⟩

theorem toggleWhitelist_cases (domain : String) (b : Blocker) (w : σ) :
    ∃ answer b' w', (toggleWhitelist (m := StateM σ) domain).on b w = ((answer, b'), w') ∧
      WhitelistChange b w answer b' w' := by
  rw [toggleWhitelist]
  cases hd : Whitelist.normalize? domain with
  | none => exact ⟨_, _, _, on_throw _ b w, .invalid⟩
  | some d =>
    dsimp only
    rw [on_bind_ok (on_get b w)]
    by_cases hmem : d ∈ b.whitelist
    · rw [if_pos hmem]
      obtain ⟨answer, b', w', hrun, change⟩ := applyWhitelist_cases (b.whitelist.erase d) b w
      exact ⟨_, _, _, on_bind_pure hrun _, .applied (fun normal => normal.erase d) change⟩
    · rw [if_neg hmem]
      obtain ⟨answer, b', w', hrun, change⟩ := applyWhitelist_cases (b.whitelist ++ [d]) b w
      exact ⟨_, _, _, on_bind_pure hrun _,
        .applied (fun normal => normal.append (Whitelist.normalize?_idem hd) hmem) change⟩

/-! ## lists and the switch -/

theorem setListEnabled_on {list : String} {enabled : Bool} {answer : Except SyncError Unit}
    {c : Coordinator}
    (h : b.coordinator.setListEnabled (m := StateM σ) list enabled w = ((answer, c), w')) :
    (setListEnabled (m := StateM σ) list enabled).on b w =
      ((answer, { b with coordinator := c }), w') :=
  on_coordinate h

theorem refresh_on {force : Bool} {report : RefreshReport} {c : Coordinator} {s : RuleStore}
    (h : b.coordinator.refresh (m := StateM σ) b.store force w = ((report, c, s), w')) :
    (refresh (m := StateM σ) force).on b w =
      ((.ok report, { b with coordinator := c, store := s }), w') := by
  rw [refresh, on_bind_ok (on_get b w), on_bind_ok (on_perform h b), on_bind_ok (on_modify _ b w')]
  rfl

/-- how turning everything on or off in the engine ends -/
inductive Switching (enabled : Bool) (b : Blocker) (w : σ) :
    Except SyncError Unit → Blocker → σ → Prop where
  | lists {e : SyncError} {c : Coordinator} {w' : σ}
      (failed : b.coordinator.setSuspended (m := StateM σ) (!enabled) w = ((.error e, c), w')) :
      Switching enabled b w (.error e) { b with coordinator := c } w'
  | filters {e : SyncError} {c : Coordinator} {w₁ w' : σ}
      (lists : b.coordinator.setSuspended (m := StateM σ) (!enabled) w = ((.ok (), c), w₁))
      (failed : (setTierEnabled (m := StateM σ) .dynamic enabled b.config.retry).run w₁ =
        (.error e, w')) :
      Switching enabled b w (.error e) { b with coordinator := c } w'
  | made {c : Coordinator} {w₁ w' : σ}
      (lists : b.coordinator.setSuspended (m := StateM σ) (!enabled) w = ((.ok (), c), w₁))
      (filters : (setTierEnabled (m := StateM σ) .dynamic enabled b.config.retry).run w₁ =
        (.ok (), w')) :
      Switching enabled b w (.ok ()) { b with coordinator := c, enabled := enabled } w'

theorem applyEnabled_cases (enabled : Bool) (b : Blocker) (w : σ) :
    ∃ answer b' w', (applyEnabled (m := StateM σ) enabled).on b w = ((answer, b'), w') ∧
      Switching enabled b w answer b' w' := by
  rw [applyEnabled]
  rcases hlists : b.coordinator.setSuspended (m := StateM σ) (!enabled) w with ⟨⟨e | u, c⟩, w₁⟩
  · exact ⟨_, _, _, on_bind_error (on_coordinate hlists), .lists hlists⟩
  · rw [on_bind_ok (on_coordinate hlists), on_bind_ok (on_get _ w₁)]
    rcases hfilters : (setTierEnabled (m := StateM σ) .dynamic enabled b.config.retry).run w₁ with
      ⟨e | u, w'⟩
    · exact ⟨_, _, _, on_bind_error (on_call_error hfilters _), .filters hlists hfilters⟩
    · refine ⟨_, _, _, ?_, .made hlists hfilters⟩
      rw [on_bind_ok (on_call_ok hfilters _)]
      exact on_modify _ _ w'

/-- a switch is saved first -/
theorem setEnabled_cases (enabled : Bool) (b : Blocker) (w : σ) :
    (∃ e w', saving (enabledItems enabled) w = (.error e, w') ∧
      (setEnabled (m := StateM σ) enabled).on b w = ((.error (.storage e), b), w')) ∨
    ∃ w₁ answer b' w', saving (enabledItems enabled) w = (.ok (), w₁) ∧
      (setEnabled (m := StateM σ) enabled).on b w = ((answer, b'), w') ∧
      Switching enabled b w₁ answer b' w' := by
  rw [setEnabled]
  rcases hsave : saving (enabledItems enabled) w with ⟨e | u, w₁⟩
  · exact .inl ⟨e, w₁, rfl, on_bind_error (save_error hsave b)⟩
  · obtain ⟨answer, b', w', hrun, switch⟩ := applyEnabled_cases enabled b w₁
    exact .inr ⟨w₁, answer, b', w', rfl, (on_bind_ok (save_ok hsave b)).trans hrun, switch⟩

/-! ## start -/

/-- the blocker with saved filters -/
def replayed (saved : List CustomFilter) (b : Blocker) : Blocker :=
  { b with store := (b.store.replay saved).2, customFilters := (b.store.replay saved).1 }

/-- the state of the services after filters without a place were forgotten -/
def pruned (saved : List CustomFilter) (b : Blocker) (w : σ) : σ :=
  if (b.store.replay saved).1.length ≠ saved.length then
    (saving (filterItems (b.store.replay saved).1) w).2
  else w

theorem replayCustomFilters_on (saved : List CustomFilter) (b : Blocker) (w : σ) :
    (replayCustomFilters (m := StateM σ) saved).on b w =
      (((syncing .dynamic (b.replayed saved) (pruned saved b w)).1.map fun _ => (),
        b.replayed saved), (syncing .dynamic (b.replayed saved) (pruned saved b w)).2) := by
  rw [replayCustomFilters, on_bind_ok (filterM_replayFilter saved b w), pruned]
  dsimp only
  by_cases hlen : (b.store.replay saved).1.length ≠ saved.length
  · simp only [if_pos hlen]
    rcases hsave : saving (filterItems (b.store.replay saved).1) w with ⟨e | u, w₁⟩
    · rw [on_bind_ok ((on_tryCatch_error (saveCustomFilters_error hsave _)).trans (on_pure () _ _)),
        on_bind_ok (on_modify _ _ w₁)]
      exact sync_on .dynamic _ w₁
    · rw [on_bind_ok (on_tryCatch_ok (saveCustomFilters_ok hsave _)), on_bind_ok (on_modify _ _ w₁)]
      exact sync_on .dynamic _ w₁
  · simp only [if_neg hlen]
    rw [on_bind_ok (on_modify _ _ w)]
    exact sync_on .dynamic _ w

/-- take over saved values -/
def adopt {m : Type → Type} [Monad m] [Services m] (items : Items) : Action m Unit := do
  replayCustomFilters (Saved.customFilters items)
  applyWhitelist (Whitelist.normalizeAll (Saved.whitelist items))
  applyEnabled (Saved.enabled items)

/-- how taking over saved values ends: filters, whitelist and switch, one after another -/
inductive Adoption (items : Items) (b : Blocker) (w : σ) :
    Except SyncError Unit → Blocker → σ → Prop where
  | filters {b₁ : Blocker} {e : SyncError} {w' : σ}
      (filters : b₁ = b.replayed (Saved.customFilters items))
      (failed : syncing .dynamic b₁ (pruned (Saved.customFilters items) b w) = (.error e, w')) :
      Adoption items b w (.error e) b₁ w'
  | whitelist {b₁ b' : Blocker} {d : RuleDiff} {e : SyncError} {w₁ w' : σ}
      (filters : b₁ = b.replayed (Saved.customFilters items))
      (synced : syncing .dynamic b₁ (pruned (Saved.customFilters items) b w) = (.ok d, w₁))
      (failed :
        Whitelisting (Whitelist.normalizeAll (Saved.whitelist items)) b₁ w₁ (.error e) b' w') :
      Adoption items b w (.error e) b' w'
  | switch {b₁ b₂ b' : Blocker} {d : RuleDiff} {w₁ w₂ w' : σ} {answer : Except SyncError Unit}
      (filters : b₁ = b.replayed (Saved.customFilters items))
      (synced : syncing .dynamic b₁ (pruned (Saved.customFilters items) b w) = (.ok d, w₁))
      (whitelist :
        Whitelisting (Whitelist.normalizeAll (Saved.whitelist items)) b₁ w₁ (.ok ()) b₂ w₂)
      (switch : Switching (Saved.enabled items) b₂ w₂ answer b' w') :
      Adoption items b w answer b' w'

theorem adopt_cases (items : Items) (b : Blocker) (w : σ) :
    ∃ answer b' w', (adopt (m := StateM σ) items).on b w = ((answer, b'), w') ∧
      Adoption items b w answer b' w' := by
  rw [adopt]
  have hreplay := replayCustomFilters_on (Saved.customFilters items) b w
  rcases hsync : syncing .dynamic (b.replayed (Saved.customFilters items))
    (pruned (Saved.customFilters items) b w) with ⟨e | d, w₁⟩
  · rw [hsync] at hreplay
    exact ⟨_, _, _, on_bind_error hreplay, .filters rfl hsync⟩
  · rw [hsync] at hreplay
    rw [on_bind_ok hreplay]
    obtain ⟨answer, b₂, w₂, hwhitelist, change⟩ := applyWhitelist_cases
      (Whitelist.normalizeAll (Saved.whitelist items)) (b.replayed (Saved.customFilters items)) w₁
    cases answer with
    | error e => exact ⟨_, _, _, on_bind_error hwhitelist, .whitelist rfl hsync change⟩
    | ok u =>
      obtain ⟨answer, b', w', hswitch, switch⟩ := applyEnabled_cases (Saved.enabled items) b₂ w₂
      exact ⟨_, _, _, (on_bind_ok hwhitelist).trans hswitch, .switch rfl hsync change switch⟩

/-- a restore that can read what is saved takes it over -/
theorem restore_on {c : Coordinator} {items : Items} {w₁ w₂ : σ}
    (hstates : b.coordinator.loadState (m := StateM σ) w = (.ok c, w₁))
    (hitems : (KeyValueStore.load [Saved.customFiltersKey, Saved.whitelistKey, Saved.enabledKey] :
      StateM σ (Except StorageError Items)) w₁ = (.ok items, w₂)) :
    (restore (m := StateM σ)).on b w =
      (adopt (m := StateM σ) items).on { b with coordinator := c } w₂ := by
  rw [restore]
  refine (on_bind_ok (on_coordinate
    (?_ : _ = (((.ok () : Except SyncError Unit), c), w₁)))).trans ?_
  · rw [bind_apply, hstates]
    rfl
  · exact (on_bind_ok (on_call_ok hitems _)).trans rfl

/-- A restore takes over what is saved, unless it cannot be read. -/
theorem restore_cases (b : Blocker) (w : σ) :
    (∃ e c w', (restore (m := StateM σ)).on b w = ((.error e, { b with coordinator := c }), w')) ∨
      ∃ c items w', (restore (m := StateM σ)).on b w =
        (adopt (m := StateM σ) items).on { b with coordinator := c } w' := by
  rcases hstates : b.coordinator.loadState (m := StateM σ) w with ⟨e | c, w₁⟩
  · refine .inl ⟨e, b.coordinator, w₁, ?_⟩
    rw [restore]
    refine on_bind_error (on_coordinate
      (?_ : _ = (((.error e : Except SyncError Unit), b.coordinator), w₁)))
    rw [bind_apply, hstates]
    rfl
  · rcases hitems : (KeyValueStore.load [Saved.customFiltersKey, Saved.whitelistKey,
      Saved.enabledKey] : StateM σ (Except StorageError Items)) w₁ with ⟨e | items, w₂⟩
    · refine .inl ⟨.storage e, c, w₂, ?_⟩
      rw [restore]
      refine (on_bind_ok (on_coordinate
        (?_ : _ = (((.ok () : Except SyncError Unit), c), w₁)))).trans
        (on_bind_error (on_call_error hitems _))
      rw [bind_apply, hstates]
      rfl
    · exact .inr ⟨c, items, w₂, restore_on hstates hitems⟩

end Blocklist.Blocker
