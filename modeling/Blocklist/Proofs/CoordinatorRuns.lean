import Blocklist.Proofs.RefreshPass
import Blocklist.Proofs.ValidConfig

/-!
# What the operations of the coordinator do

* `Coordinator.Keeps`               what no operation changes: everything that is configured;
* `Memory.FlagStep`                 a step that turns tiers on or off;
* `Coordinator.setListEnabled_cases`, `Coordinator.setSuspended_cases`   the toggles;
* `Coordinator.refresh_run`, `Coordinator.refresh_pass`   a refresh: a pass, and a save if a list
                                    succeeded.
-/

namespace Blocklist

/-! ## what is configured -/

/-- what is configured about a list -/
def StaticList.origin (l : StaticList) : String × String × Option String × IdRange :=
  (l.id, l.name, l.url, l.window)

namespace Coordinator

variable {c c' : Coordinator} {s s' : RuleStore} {w w' : Memory}

/-- everything that is configured is that of before -/
structure Keeps (c c' : Coordinator) : Prop where
  origins : c'.lists.map StaticList.origin = c.lists.map StaticList.origin
  intervalMs : c'.intervalMs = c.intervalMs
  retry : c'.retry = c.retry

theorem Keeps.refl (c : Coordinator) : Keeps c c := ⟨rfl, rfl, rfl⟩

theorem Keeps.trans {c₁ c₂ c₃ : Coordinator} (h : Keeps c₁ c₂) (h' : Keeps c₂ c₃) : Keeps c₁ c₃ :=
  ⟨h'.origins.trans h.origins, h'.intervalMs.trans h.intervalMs, h'.retry.trans h.retry⟩

theorem Keeps.ids (h : Keeps c c') : c'.lists.map StaticList.id = c.lists.map StaticList.id := by
  have hids := congrArg (List.map Prod.fst) h.origins
  rwa [List.map_map, List.map_map] at hids

theorem ids_new (config : SyncConfig) :
    (new config).lists.map StaticList.id = config.lists.map ListConfig.id := by
  rw [new, List.map_map]
  rfl

theorem keeps_withStates (c : Coordinator) (states : Saved.ListStates) :
    c.Keeps (c.withStates states) := by
  refine ⟨?_, rfl, rfl⟩
  rw [withStates, List.map_map]
  refine List.map_congr_left fun l _ => ?_
  rw [Function.comp_apply]
  split <;> rfl

theorem keeps_withEnabled (c : Coordinator) (id : String) (enabled : Bool) :
    c.Keeps (c.withEnabled id enabled) := by
  refine ⟨?_, rfl, rfl⟩
  rw [withEnabled]
  apply List.ext_getElem?
  intro i
  rw [List.getElem?_map, List.getElem?_map, List.getElem?_modify]
  cases c.lists[i]? with
  | none => rfl
  | some l =>
    show some (StaticList.origin (if _ then _ else _)) = _
    split <;> rfl

theorem keeps_lists {log : Log} (h : log.map Prod.fst = c.lists) (now : UInt64) :
    c.Keeps { c with lists := log.lists now } := by
  refine ⟨?_, rfl, rfl⟩
  rw [← h, Log.lists, List.map_map, List.map_map]
  refine List.map_congr_left fun p _ => ?_
  obtain ⟨l, o⟩ := p
  cases o <;> rfl

end Coordinator

/-! ## toggles -/

/-- a step that turns tiers on or off in the engine -/
structure Memory.FlagStep (w w' : Memory) : Prop extends EngineStep w w' where
  tables : w'.engine.tables = w.engine.tables

theorem Memory.FlagStep.refl (w : Memory) : FlagStep w w := ⟨.refl w, rfl⟩

theorem Memory.FlagStep.trans {w₁ w₂ w₃ : Memory} (h : FlagStep w₁ w₂) (h' : FlagStep w₂ w₃) :
    FlagStep w₁ w₃ :=
  ⟨h.toEngineStep.trans h'.toEngineStep, h'.tables.trans h.tables⟩

theorem setTierEnabled_flags (retry : RetryPolicy) (tier : Tier) (enabled : Bool) (w : Memory) :
    ∃ answer w', (setTierEnabled (m := StateM Memory) tier enabled retry).run w = (answer, w') ∧
      w.FlagStep w' := by
  rcases Nat.lt_or_ge w.engine.failures retry.attempts with h | h
  · obtain ⟨w', hrun, he, hstep⟩ := setTierEnabled_ok tier enabled h
    exact ⟨_, w', hrun, hstep, by rw [he]; rfl⟩
  · obtain ⟨w', hrun, he, hstep⟩ := setTierEnabled_error tier enabled h
    exact ⟨_, w', hrun, hstep, by rw [he]; rfl⟩

namespace Coordinator

variable {c : Coordinator} {s s' : RuleStore} {w w' : Memory}

theorem loadState_apply (c : Coordinator) (w : Memory) :
    c.loadState (m := StateM Memory) w =
      (.ok (c.withStates (Saved.listStates (w.store.items.pick [Saved.listStatesKey]))), w) := rfl

theorem persistState_apply (c : Coordinator) (w : Memory) :
    c.persistState (m := StateM Memory) w =
      ((w.store.save c.items).1.mapError .storage,
        { w with store := (w.store.save c.items).2 }) := by
  have hsave : (KeyValueStore.save c.items : StateM Memory (Except StorageError Unit)) w =
      ((w.store.save c.items).1, { w with store := (w.store.save c.items).2 }) := rfl
  rw [persistState, bind_apply, hsave]
  rcases w.store.save c.items with ⟨e | u, st⟩ <;> rfl

/-- A list is turned on or off when the engine has done so; then the state of all lists is saved,
as far as it can be. -/
theorem setListEnabled_cases (c : Coordinator) (id : String) (enabled : Bool) (w : Memory) :
    (∃ e w', c.setListEnabled (m := StateM Memory) id enabled w = ((.error e, c), w') ∧
      w.FlagStep w') ∨
    (∃ w', w.FlagStep w' ∧ c.setListEnabled (m := StateM Memory) id enabled w =
      (((w.store.save (c.withEnabled id enabled).items).1.mapError .storage,
        c.withEnabled id enabled),
        { w' with store := (w.store.save (c.withEnabled id enabled).items).2 })) := by
  rw [setListEnabled]
  cases c.list? id with
  | none => exact .inl ⟨_, w, rfl, .refl w⟩
  | some l =>
    have persisted : ∀ {w'}, w.FlagStep w' →
        ((do return (← (c.withEnabled id enabled).persistState, c.withEnabled id enabled)) :
          StateM Memory (Except SyncError Unit × Coordinator)) w' =
        (((w.store.save (c.withEnabled id enabled).items).1.mapError .storage,
          c.withEnabled id enabled),
          { w' with store := (w.store.save (c.withEnabled id enabled).items).2 }) := by
      intro w' hstep
      rw [bind_apply, persistState_apply, hstep.store]
      rfl
    cases hsus : c.suspended with
    | true => exact .inr ⟨w, .refl w, persisted (.refl w)⟩
    | false =>
      obtain ⟨answer, w', hrun, hstep⟩ := setTierEnabled_flags c.retry l.tier enabled w
      simp only [Bool.false_eq_true, if_false, bind_apply, hrun]
      cases answer with
      | error e => exact .inl ⟨e, w', rfl, hstep⟩
      | ok u => exact .inr ⟨w', hstep, persisted hstep⟩

theorem setTiers_flags (retry : RetryPolicy) (suspended : Bool) (ls : List StaticList)
    (w : Memory) :
    ∃ answer w', setTiers (m := StateM Memory) retry suspended ls w = (answer, w') ∧
      w.FlagStep w' := by
  induction ls generalizing w with
  | nil => exact ⟨_, w, rfl, .refl w⟩
  | cons l ls ih =>
    obtain ⟨answer, w₁, hrun, hstep⟩ :=
      setTierEnabled_flags retry l.tier (l.enabled && !suspended) w
    rw [setTiers, bind_apply, hrun]
    cases answer with
    | error e => exact ⟨.error e, w₁, rfl, hstep⟩
    | ok u =>
      obtain ⟨answer, w', hrest, hstep'⟩ := ih w₁
      exact ⟨answer, w', hrest, hstep.trans hstep'⟩

theorem setSuspended_cases (c : Coordinator) (suspended : Bool) (w : Memory) :
    ∃ answer c' w', c.setSuspended (m := StateM Memory) suspended w = ((answer, c'), w') ∧
      w.FlagStep w' ∧ (c' = c ∨ c' = { c with suspended := suspended }) := by
  obtain ⟨answer, w', hrun, hstep⟩ := setTiers_flags c.retry suspended c.lists w
  rw [setSuspended, bind_apply, hrun]
  cases answer with
  | error e => exact ⟨.error e, c, w', rfl, hstep, .inl rfl⟩
  | ok u => exact ⟨.ok (), _, w', rfl, hstep, .inr rfl⟩

/-! ## refresh -/

/-- what a save that a refresh makes ends with -/
def persistError? : Except StorageError Unit → Option SyncError
  | .ok () => none
  | .error e => some (.storage e)

theorem refresh_run (hs : s.Sound) (c : Coordinator) (force : Bool) (w : Memory) :
    ∃ (log : Log) (s' : RuleStore) (w' : Memory), log.map Prod.fst = c.lists ∧
      c.Pass force w.clock.nowMs log s w s' w' ∧
      c.refresh (m := StateM Memory) s force w =
        if log.succeeded = [] then
          ((log.report {}, { c with lists := log.lists w.clock.nowMs }, s'), w')
        else
          (({ log.report {} with persistError := persistError? (w.store.save
                { c with lists := log.lists w.clock.nowMs }.items).1 },
            { c with lists := log.lists w.clock.nowMs }, s'),
            { w' with store := (w.store.save
                { c with lists := log.lists w.clock.nowMs }.items).2 }) := by
  obtain ⟨log, s', w', hlog, hpass, hrun⟩ :=
    refreshLists_pass c force w.clock.nowMs hs c.lists {} w
  refine ⟨log, s', w', hlog, hpass, ?_⟩
  have hnow : (Clock.nowMs : StateM Memory UInt64) w = (w.clock.nowMs, w) := rfl
  rw [refresh, bind_apply, hnow, bind_apply, hrun]
  have hsucceeded : (log.report {}).succeeded = log.succeeded := List.nil_append _
  simp only [hsucceeded]
  split
  · rfl
  · rw [bind_apply, persistState_apply, hpass.aside.store]
    rcases w.store.save _ with ⟨e | u, st⟩ <;> rfl

/-- the pass that a refresh makes, with what the refresh answers; a save may follow the pass -/
theorem refresh_pass (hs : s.Sound) {force : Bool} {r : RefreshReport}
    {c' : Coordinator} (hrun : c.refresh (m := StateM Memory) s force w = ((r, c', s'), w')) :
    ∃ (log : Log) (w₁ : Memory), log.map Prod.fst = c.lists ∧
      c.Pass force w.clock.nowMs log s w s' w₁ ∧ r.succeeded = log.succeeded ∧
      c'.lists = log.lists w.clock.nowMs ∧ w'.engine = w₁.engine ∧ w'.sources = w₁.sources := by
  obtain ⟨log, s₁, w₁, hlog, pass, hrefresh⟩ := refresh_run hs c force w
  rw [hrun] at hrefresh
  split at hrefresh
  · cases hrefresh
    exact ⟨log, w', hlog, pass, rfl, rfl, rfl, rfl⟩
  · cases hrefresh
    exact ⟨log, w₁, hlog, pass, rfl, rfl, rfl, rfl⟩

end Coordinator

end Blocklist
