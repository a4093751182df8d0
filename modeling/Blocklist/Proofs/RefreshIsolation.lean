import Blocklist.Proofs.CoordinatorRuns

/-!
# A refresh keeps failures apart

Whatever the coordinator did before, and whatever the sources, the engine and the key-value store
make of it, a refresh reports on each list once, asks for each list that is not skipped once, and
leaves a list that does not succeed as it was.

* `Coordinator.Operation`, `Coordinator.Reachable`   what a coordinator can have done before;
* `Coordinator.Log.mem_failed_iff`, …       the parts of a report, by the outcomes of the lists;
* `Coordinator.Isolates`                    a refresh that keeps failures apart;
* `Coordinator.refresh_isolates_failures`   it holds in every reachable state.
-/

namespace Blocklist.Coordinator

/-! ## reachable states -/

inductive Operation where
  | loadState
  | refresh (force : Bool)
  | setListEnabled (id : String) (enabled : Bool)
  | setSuspended (suspended : Bool)
  deriving DecidableEq, Repr

/-- coordinator and store after an operation, be it one that fails -/
def Operation.run (c : Coordinator) (s : RuleStore) :
    Operation → StateM Memory (Coordinator × RuleStore)
  | loadState => do
    match ← c.loadState with
    | .ok c => return (c, s)
    | .error _ => return (c, s)
  | refresh force => do
    let (_, c, s) ← c.refresh s force
    return (c, s)
  | setListEnabled id enabled => do
    let (_, c) ← c.setListEnabled id enabled
    return (c, s)
  | setSuspended suspended => do
    let (_, c) ← c.setSuspended suspended
    return (c, s)

/-- A coordinator and a store after any operations, from a new coordinator and a new store with its
windows. Each operation may find the world in any state. -/
inductive Reachable (config : SyncConfig) : Coordinator → RuleStore → Prop where
  | new (limits : CapacityLimits) :
      Reachable config (.new config) ((Coordinator.new config).registerWindows (.new limits))
  | step {c : Coordinator} {s : RuleStore} (op : Operation) (w : Memory)
      (h : Reachable config c s) : Reachable config (op.run c s w).1.1 (op.run c s w).1.2

variable {config : SyncConfig} {c : Coordinator} {s : RuleStore}

theorem sound_run (hs : s.Sound) (c : Coordinator) (op : Operation) (w : Memory) :
    (op.run c s w).1.2.Sound := by
  cases op with
  | loadState => exact hs
  | setListEnabled id enabled => exact hs
  | setSuspended suspended => exact hs
  | refresh force =>
    obtain ⟨log, s', w', -, pass, hrun⟩ := refresh_run hs c force w
    have hstore : (c.refresh (m := StateM Memory) s force w).1.2.2 = s' := by
      rw [hrun]
      split <;> rfl
    show (c.refresh (m := StateM Memory) s force w).1.2.2.Sound
    rw [hstore]
    exact pass.sound hs

theorem keeps_run (hs : s.Sound) (c : Coordinator) (op : Operation) (w : Memory) :
    c.Keeps (op.run c s w).1.1 := by
  cases op with
  | loadState => exact keeps_withStates c _
  | setListEnabled id enabled =>
    show c.Keeps (c.setListEnabled (m := StateM Memory) id enabled w).1.2
    rcases setListEnabled_cases c id enabled w with ⟨e, w', hrun, -⟩ | ⟨w', -, hrun⟩
    · rw [hrun]
      exact .refl c
    · rw [hrun]
      exact keeps_withEnabled c id enabled
  | setSuspended suspended =>
    show c.Keeps (c.setSuspended (m := StateM Memory) suspended w).1.2
    obtain ⟨answer, c', w', hrun, -, rfl | rfl⟩ := setSuspended_cases c suspended w
    · rw [hrun]
      exact .refl c'
    · rw [hrun]
      exact ⟨rfl, rfl, rfl⟩
  | refresh force =>
    obtain ⟨log, s', w', hlog, -, hrun⟩ := refresh_run hs c force w
    have hc : (c.refresh (m := StateM Memory) s force w).1.2.1 =
        { c with lists := log.lists w.clock.nowMs } := by
      rw [hrun]
      split <;> rfl
    show c.Keeps (c.refresh (m := StateM Memory) s force w).1.2.1
    rw [hc]
    exact keeps_lists hlog _

namespace Reachable

variable (h : Reachable config c s)
include h

theorem sound : s.Sound := by
  induction h with
  | new limits => exact RuleStore.sound_registerWindows_new _ limits
  | step op w h ih => exact sound_run ih _ op w

theorem keeps : (Coordinator.new config).Keeps c := by
  induction h with
  | new limits => exact .refl _
  | step op w h ih => exact ih.trans (keeps_run h.sound _ op w)

theorem ids : c.lists.map StaticList.id = config.lists.map ListConfig.id :=
  h.keeps.ids.trans (ids_new config)

end Reachable

/-! ## the parts of a report -/

namespace Log

/-- a list that is reported to have succeeded is one of the pass -/
theorem exists_of_mem_succeeded {log : Log} {id : String} (h : id ∈ log.succeeded) :
    ∃ l hash, (l, .succeeded hash) ∈ log ∧ l.id = id := by
  obtain ⟨⟨l, o⟩, hmem, hid⟩ := List.mem_filterMap.mp h
  cases o with
  | succeeded hash => exact ⟨l, hash, hmem, Option.some.inj hid⟩
  | failed e => cases hid
  | skipped => cases hid

variable {log : Log} {l : StaticList} {o : Outcome} (hnd : log.ids.Nodup) (hmem : (l, o) ∈ log)
include hnd hmem

/-- a list has one outcome -/
theorem outcome_unique {l' : StaticList} {o' : Outcome} (hmem' : (l', o') ∈ log)
    (hid : l'.id = l.id) : o' = o :=
  congrArg Prod.snd (List.inj_on_of_nodup_map hnd hmem' hmem hid)

theorem mem_failed_iff : l.id ∈ log.failed.map Prod.fst ↔ ∃ e, o = .failed e := by
  rw [failed, List.map_filterMap, List.mem_filterMap]
  constructor
  · rintro ⟨⟨l', o'⟩, hmem', hsome⟩
    cases o' with
    | succeeded hash => cases hsome
    | failed e => exact ⟨e, (outcome_unique hnd hmem hmem' (Option.some.inj hsome)).symm⟩
    | skipped => cases hsome
  · rintro ⟨e, rfl⟩
    exact ⟨_, hmem, rfl⟩

theorem mem_skipped_iff : l.id ∈ log.skipped ↔ o = .skipped := by
  rw [skipped, List.mem_filterMap]
  constructor
  · rintro ⟨⟨l', o'⟩, hmem', hsome⟩
    cases o' with
    | succeeded hash => cases hsome
    | failed e => cases hsome
    | skipped => exact (outcome_unique hnd hmem hmem' (Option.some.inj hsome)).symm
  · rintro rfl
    exact ⟨_, hmem, rfl⟩

/-- a list is still there, with what its outcome made of it -/
theorem find?_lists (now : UInt64) :
    ((log.lists now).find? fun l' => l'.id = l.id) = some (o.update now l) := by
  refine (find?_key_eq_some_iff ?_).mpr ⟨List.mem_map.mpr ⟨(l, o), hmem, rfl⟩, o.id_update now l⟩
  rw [log.ids_lists]
  exact hnd

end Log

/-! ## isolation -/

/-- a refresh at the state `c`, `s`, `w` that answers `r` and ends at `c'`, `s'`, `w'` -/
structure Isolates (config : SyncConfig) (force : Bool) (c : Coordinator) (s : RuleStore)
    (w : Memory) (r : RefreshReport) (c' : Coordinator) (s' : RuleStore) (w' : Memory) : Prop where
  /-- each list is in one part of the report, and once -/
  partition : (r.succeeded ++ r.failed.map Prod.fst ++ r.skipped).Perm
    (config.lists.map ListConfig.id)
  nodup : (r.succeeded ++ r.failed.map Prod.fst ++ r.skipped).Nodup
  succeeded_order : r.succeeded.Sublist (config.lists.map ListConfig.id)
  failed_order : (r.failed.map Prod.fst).Sublist (config.lists.map ListConfig.id)
  skipped_order : r.skipped.Sublist (config.lists.map ListConfig.id)
  skipped_iff : ∀ l ∈ c.lists, l.id ∈ r.skipped ↔
    l.url = none ∨ force = false ∧ s.hasTier l.tier = true ∧
      ∃ last, l.lastUpdate = some last ∧
        w.clock.nowMs.toNat - last.toNat ≤ config.intervalMs
  /-- an address is asked once for each list that has it and is not skipped -/
  fetches : ∀ url, w'.sources.fetchCount url = w.sources.fetchCount url +
    c.lists.countP fun l => l.url = some url ∧ l.id ∉ r.skipped
  ids : c'.lists.map StaticList.id = c.lists.map StaticList.id
  kept : ∀ l ∈ c.lists, l.id ∈ r.failed.map Prod.fst ∨ l.id ∈ r.skipped →
    c'.list? l.id = some l ∧ s'.rules l.tier = s.rules l.tier ∧
      s'.hasTier l.tier = s.hasTier l.tier ∧ w'.engine.rules l.tier = w.engine.rules l.tier
  /-- one save, and only if a list succeeded -/
  saved : w'.store = if r.succeeded = [] then w.store else (w.store.save c'.items).2
  persistError : r.persistError =
    if r.succeeded = [] then none else persistError? (w.store.save c'.items).1

theorem needsRefresh_eq_false_iff {c : Coordinator} {l : StaticList} {s : RuleStore}
    {now : UInt64} :
    c.needsRefresh l s now = false ↔ s.hasTier l.tier = true ∧
      ∃ last, l.lastUpdate = some last ∧ now.toNat - last.toNat ≤ c.intervalMs := by
  rw [needsRefresh, Bool.or_eq_false_iff, Bool.not_eq_false', isDue]
  cases l.lastUpdate with
  | none => simp
  | some last => simp

/-- a pass over all lists, with or without the save at its end -/
theorem Pass.isolates {c : Coordinator} {force : Bool} {log : Log} {s s' : RuleStore}
    {w w₁ w' : Memory} {r : RefreshReport} {c' : Coordinator}
    (pass : c.Pass force w.clock.nowMs log s w s' w₁) (hlog : log.map Prod.fst = c.lists)
    (hids : c.lists.map StaticList.id = config.lists.map ListConfig.id)
    (hnd : (config.lists.map ListConfig.id).Nodup) (hinterval : c.intervalMs = config.intervalMs)
    (hsucceeded : r.succeeded = log.succeeded) (hfailed : r.failed = log.failed)
    (hskipped : r.skipped = log.skipped) (hc : c'.lists = log.lists w.clock.nowMs)
    (hsources : w'.sources = w₁.sources) (hengine : w'.engine = w₁.engine)
    (saved : w'.store = if r.succeeded = [] then w.store else (w.store.save c'.items).2)
    (persistError : r.persistError =
      if r.succeeded = [] then none else persistError? (w.store.save c'.items).1) :
    Isolates config force c s w r c' s' w' := by
  have hlogIds : log.ids = config.lists.map ListConfig.id := by
    rw [← hids, ← hlog, List.map_map]
    rfl
  have hlogNd : log.ids.Nodup := hlogIds ▸ hnd
  have outcome : ∀ l ∈ c.lists, ∃ o, (l, o) ∈ log := by
    intro l hl
    rw [← hlog] at hl
    obtain ⟨⟨l', o⟩, hmem, rfl⟩ := List.mem_map.mp hl
    exact ⟨o, hmem⟩
  constructor
  case partition =>
    rw [hsucceeded, hfailed, hskipped, ← hlogIds]
    exact log.perm_ids
  case nodup =>
    rw [hsucceeded, hfailed, hskipped]
    exact log.perm_ids.nodup_iff.mpr hlogNd
  case succeeded_order =>
    rw [hsucceeded, ← hlogIds]
    exact log.succeeded_sublist
  case failed_order =>
    rw [hfailed, ← hlogIds]
    exact log.failed_sublist
  case skipped_order =>
    rw [hskipped, ← hlogIds]
    exact log.skipped_sublist
  case skipped_iff =>
    intro l hl
    obtain ⟨o, hmem⟩ := outcome l hl
    rw [hskipped, Log.mem_skipped_iff hlogNd hmem, pass.skipped_iff_of_mem hlogNd hmem, Skips,
      needsRefresh_eq_false_iff, hinterval]
  case fetches =>
    intro url
    rw [hsources, pass.fetchCount url, ← hlog, List.countP_map]
    congr 1
    refine List.countP_congr fun p hp => ?_
    rw [Function.comp_apply, decide_eq_true_iff, decide_eq_true_iff, hskipped,
      Log.mem_skipped_iff hlogNd hp]
  case ids =>
    rw [hc, log.ids_lists, hlogIds, hids]
  case kept =>
    intro l hl hpart
    obtain ⟨o, hmem⟩ := outcome l hl
    have hno : ∀ hash, o ≠ .succeeded hash := by
      rw [hfailed, hskipped, Log.mem_failed_iff hlogNd hmem,
        Log.mem_skipped_iff hlogNd hmem] at hpart
      rintro hash rfl
      rcases hpart with ⟨e, he⟩ | he <;> cases he
    have same := pass.untouched_of_mem hlogNd hmem hno
    refine ⟨?_, ?_, same.hasTier, ?_⟩
    · rw [list?, hc, Log.find?_lists hlogNd hmem, Outcome.update_of_not_succeeded hno]
    · rw [RuleStore.rules, same.table]
      rfl
    · rw [MemoryEngine.rules, hengine, same.engine]
      rfl
  case saved => exact saved
  case persistError => exact persistError

/-- In every state that a coordinator of a valid configuration can reach, a refresh isolates the
lists that fail, however the world answers. -/
theorem refresh_isolates_failures (hvalid : config.validate = .ok ()) (h : Reachable config c s)
    (force : Bool) (w : Memory) :
    ∃ r c' s' w', c.refresh (m := StateM Memory) s force w = ((r, c', s'), w') ∧
      Isolates config force c s w r c' s' w' := by
  have hnd := SyncConfig.nodup_ids hvalid
  obtain ⟨log, s', w', hlog, pass, hrun⟩ := refresh_run h.sound c force w
  by_cases hnone : log.succeeded = []
  · rw [if_pos hnone] at hrun
    refine ⟨_, _, s', w', hrun, pass.isolates hlog h.ids hnd h.keeps.intervalMs rfl rfl rfl rfl rfl
      rfl ?_ ?_⟩
    · rw [if_pos (show (log.report {}).succeeded = [] from hnone)]
      exact pass.aside.store
    · rw [if_pos (show (log.report {}).succeeded = [] from hnone)]
      rfl
  · rw [if_neg hnone] at hrun
    refine ⟨_, _, s', _, hrun, pass.isolates hlog h.ids hnd h.keeps.intervalMs rfl rfl rfl rfl rfl
      rfl ?_ ?_⟩
    · rw [if_neg (show ¬ (log.report {}).succeeded = [] from hnone)]
    · rw [if_neg (show ¬ (log.report {}).succeeded = [] from hnone)]

/-- a world where the two default lists are found at their addresses, or what stands for them -/
def serving (easyList easyPrivacy : Source) (e : MemoryEngine) : Memory where
  engine := e
  sources := (MemorySources.set {} "https://easylist.to/easylist/easylist.txt" easyList).set
    "https://easylist.to/easylist/easyprivacy.txt" easyPrivacy

/-- the default configuration after both lists were fetched -/
def bothFetched : (Coordinator × RuleStore) × Memory :=
  Operation.run (.new .default) ((new .default).registerWindows (.new {})) (.refresh true)
    (serving (.text "||ads.example^") (.text "||stats.example^") {})

theorem reachable_bothFetched : Reachable .default bothFetched.1.1 bothFetched.1.2 := by
  unfold bothFetched
  exact .step (.refresh true) _ (.new {})

/-- One list has grown, and the other one is gone: its rules are still there. -/
theorem refresh_isolates_failures_default :
    let w := serving (.text "||ads.example^\n||more.example^") (.status 410) bothFetched.2.engine
    ∃ r c' s' w', bothFetched.1.1.refresh (m := StateM Memory) bothFetched.1.2 true w =
        ((r, c', s'), w') ∧
      Isolates .default true bothFetched.1.1 bothFetched.1.2 w r c' s' w' ∧
      r.succeeded = ["easylist"] ∧ r.failed.map Prod.fst = ["easyprivacy"] ∧
      (s'.rules (.static "easylist")).map Rule.id = [1, 2] ∧
      (s'.rules (.static "easyprivacy")).map Rule.id = [50000] := by
  intro w
  obtain ⟨r, c', s', w', hrun, isolates⟩ :=
    refresh_isolates_failures (by decide) reachable_bothFetched true w
  have reported :
      let ended := (bothFetched.1.1.refresh (m := StateM Memory) bothFetched.1.2 true w).1
      ended.1.succeeded = ["easylist"] ∧ ended.1.failed.map Prod.fst = ["easyprivacy"] ∧
        (ended.2.2.rules (.static "easylist")).map Rule.id = [1, 2] ∧
        (ended.2.2.rules (.static "easyprivacy")).map Rule.id = [50000] := by
    intro ended
    decide +kernel
  rw [hrun] at reported
  exact ⟨r, c', s', w', hrun, isolates, reported⟩

end Blocklist.Coordinator
