import Blocklist.Proofs.EnabledFlags
import Blocklist.Proofs.Filings
import Blocklist.Proofs.ListStates

/-!
# Lists in files

Where the machine keeps the files of a blocker, no operation on its lists fails but for reasons of
its own: a list that is not configured, or texts that cannot be had. What each operation makes of
the files is stated here.

* `Filing.flag?`                     the flag of a ruleset;
* `Filing.turnAll`                   after all lists were turned on or off;
* `Coordinator.refreshLists_lists`   what a refresh leaves of the lists, whatever the services do;
* `Site.Says.loadState`, …           the operations of the coordinator.
-/

namespace Blocklist

/-! ## flags -/

namespace Filing

variable {f : Filing} {suspended : Bool} {ls : List StaticList}

/-- the flag of the ruleset with this name -/
def flag? (f : Filing) (id : String) : Option Bool := (f.flags.getD ∅)[id]?

/-- after these lists were turned on or off -/
def turnAll (f : Filing) (suspended : Bool) (ls : List StaticList) : Filing :=
  ls.foldl (fun f l => f.turn l.tier (l.enabled && !suspended)) f

theorem flag?_turn (f : Filing) (tier : Tier) (enabled : Bool) (id : String) :
    (f.turn tier enabled).flag? id = if tier.rulesetId = id then some enabled else f.flag? id := by
  show ((f.flags.getD ∅).insert tier.rulesetId enabled)[id]? = _
  rw [Std.ExtTreeMap.getElem?_insert]
  simp only [Std.compare_eq_iff_eq]
  rfl

theorem turnAll_same (f : Filing) (suspended : Bool) (ls : List StaticList) :
    (f.turnAll suspended ls).items = f.items ∧ (f.turnAll suspended ls).rules = f.rules := by
  induction ls generalizing f with
  | nil => exact ⟨rfl, rfl⟩
  | cons l ls ih => exact ih (f.turn l.tier (l.enabled && !suspended))

theorem flag?_turnAll_of_not_mem {id : String} (h : id ∉ ls.map StaticList.id) :
    (f.turnAll suspended ls).flag? id = f.flag? id := by
  induction ls generalizing f with
  | nil => rfl
  | cons l ls ih =>
    rw [List.map_cons, List.mem_cons, not_or] at h
    show ((f.turn l.tier (l.enabled && !suspended)).turnAll suspended ls).flag? id = _
    rw [ih h.2, flag?_turn]
    exact if_neg fun heq => h.1 heq.symm

theorem flag?_turnAll (hnd : (ls.map StaticList.id).Nodup) {l : StaticList} (hl : l ∈ ls) :
    (f.turnAll suspended ls).flag? l.id = some (l.enabled && !suspended) := by
  induction ls generalizing f with
  | nil => cases hl
  | cons l₁ ls ih =>
    rw [List.map_cons, List.nodup_cons] at hnd
    show ((f.turn l₁.tier (l₁.enabled && !suspended)).turnAll suspended ls).flag? l.id = _
    rcases List.mem_cons.mp hl with rfl | hl
    · rw [flag?_turnAll_of_not_mem hnd.1, flag?_turn]
      exact if_pos rfl
    · exact ih hnd.2 hl

end Filing

/-! ## what a refresh leaves of the lists -/

namespace Coordinator

variable {σ : Type} [Services (StateM σ)]

/-- Lists that were refreshed are those of before, with the same flags. Where none succeeded they
are the same altogether. -/
structure Refreshed (ls ls' : List StaticList) (r r' : RefreshReport) : Prop where
  origins : ls'.map StaticList.origin = ls.map StaticList.origin
  flags : (ls'.map fun l => (l.id, l.enabled)) = ls.map fun l => (l.id, l.enabled)
  same : r'.succeeded = [] → ls' = ls ∧ r.succeeded = []

theorem Refreshed.cons {l l' : StaticList} {ls ls' : List StaticList} {r r₁ r' : RefreshReport}
    (h : Refreshed ls ls' r₁ r') (origin : l'.origin = l.origin) (enabled : l'.enabled = l.enabled)
    (same : r₁.succeeded = [] → l' = l ∧ r.succeeded = []) :
    Refreshed (l :: ls) (l' :: ls') r r' where
  origins := by rw [List.map_cons, List.map_cons, h.origins, origin]
  flags := by
    have hid : l'.id = l.id := congrArg Prod.fst origin
    rw [List.map_cons, List.map_cons, h.flags, enabled, hid]
  same hnone := by
    obtain ⟨hls, hr₁⟩ := h.same hnone
    obtain ⟨hl, hr⟩ := same hr₁
    exact ⟨by rw [hls, hl], hr⟩

theorem refreshLists_refreshed (c : Coordinator) (force : Bool) (now : UInt64)
    (ls : List StaticList) (s : RuleStore) (r : RefreshReport) (w : σ) :
    Refreshed ls (c.refreshLists (m := StateM σ) force now ls s r w).1.1 r
      (c.refreshLists (m := StateM σ) force now ls s r w).1.2.2 := by
  induction ls generalizing s r w with
  | nil => exact ⟨rfl, rfl, fun h => ⟨rfl, h⟩⟩
  | cons l ls ih =>
    rw [refreshLists]
    cases hurl : l.url with
    | none => exact (ih s _ w).cons rfl rfl fun h => ⟨rfl, h⟩
    | some url =>
      dsimp only
      split
      · exact (ih s _ w).cons rfl rfl fun h => ⟨rfl, h⟩
      · rw [bind_apply]
        rcases c.refreshList (m := StateM σ) s l url w with ⟨⟨e | hash, s₁⟩, w₁⟩
        · exact (ih s₁ _ w₁).cons rfl rfl fun h => ⟨rfl, h⟩
        · refine (ih s₁ _ w₁).cons (by simp only [StaticList.origin, hurl]) rfl fun h => ?_
          exact absurd h (List.append_ne_nil_of_right_ne_nil _ (List.cons_ne_nil _ _))

end Coordinator

/-! ## operations of the coordinator -/

namespace Site.Says

open Coordinator

variable {config : SyncConfig} {d : Disk} {s : Site} {f : Filing} (c : Coordinator)

theorem loadState (h : s.Says config d f) :
    ∃ s', c.loadState (m := StateM Site) s =
        (.ok (c.withStates (Saved.listStates f.items)), s') ∧ s'.Says config d f := by
  obtain ⟨s', hload, h'⟩ := h.load [Saved.listStatesKey]
  refine ⟨s', ?_, h'⟩
  rw [loadState_of_load hload, Blocker.listStates_pick]

variable (apart : config.FilesApart d) (h : s.Says config d f)
include apart h

theorem persistState :
    ∃ s', c.persistState (m := StateM Site) s = (.ok (), s') ∧
      s'.Says config d (f.save c.items) := by
  obtain ⟨s', hsave, h'⟩ := h.save apart c.settled_items
  refine ⟨s', ?_, h'⟩
  rw [Coordinator.persistState, bind_apply,
    show (KeyValueStore.save c.items : StateM Site _) s = _ from hsave]
  rfl

theorem setTiers (retry : RetryPolicy) (suspended : Bool) (ls : List StaticList) :
    ∃ s', Coordinator.setTiers (m := StateM Site) retry suspended ls s = (.ok (), s') ∧
      s'.Says config d (f.turnAll suspended ls) := by
  induction ls generalizing s f with
  | nil => exact ⟨s, rfl, h⟩
  | cons l ls ih =>
    obtain ⟨s₁, hturn, h₁⟩ := h.turn apart l.tier (l.enabled && !suspended) retry
    obtain ⟨s', hrest, h'⟩ := ih h₁
    refine ⟨s', ?_, h'⟩
    rw [Coordinator.setTiers, bind_apply, hturn]
    exact hrest

theorem setSuspended (suspended : Bool) :
    ∃ s', c.setSuspended (m := StateM Site) suspended s =
        ((.ok (), { c with suspended := suspended }), s') ∧
      s'.Says config d (f.turnAll suspended c.lists) := by
  obtain ⟨s', hturn, h'⟩ := h.setTiers apart c.retry suspended c.lists
  refine ⟨s', ?_, h'⟩
  rw [Coordinator.setSuspended, bind_apply, hturn]
  rfl

/-- A list is turned on or off in the engine, unless all are suspended, and then saved. -/
theorem setListEnabled (id : String) (enabled : Bool) :
    (∃ e, c.setListEnabled (m := StateM Site) id enabled s = ((.error e, c), s)) ∨
    ∃ l f₁ s', c.list? id = some l ∧
      (c.suspended = true ∧ f₁ = f ∨ c.suspended = false ∧ f₁ = f.turn l.tier enabled) ∧
      c.setListEnabled (m := StateM Site) id enabled s =
        ((.ok (), c.withEnabled id enabled), s') ∧
      s'.Says config d (f₁.save (c.withEnabled id enabled).items) := by
  rw [Coordinator.setListEnabled]
  cases c.list? id with
  | none => exact .inl ⟨_, rfl⟩
  | some l =>
    right
    cases hsuspended : c.suspended with
    | true =>
      obtain ⟨s', hsave, h'⟩ := h.persistState (c.withEnabled id enabled) apart
      refine ⟨l, f, s', rfl, .inl ⟨rfl, rfl⟩, ?_, h'⟩
      dsimp only
      rw [if_pos rfl, pure_bind]
      dsimp only
      rw [bind_apply, hsave]
      rfl
    | false =>
      obtain ⟨s₁, hturn, h₁⟩ := h.turn apart l.tier enabled c.retry
      obtain ⟨s', hsave, h'⟩ := h₁.persistState (c.withEnabled id enabled) apart
      refine ⟨l, _, s', rfl, .inr ⟨rfl, rfl⟩, ?_, h'⟩
      dsimp only
      rw [if_neg Bool.false_ne_true, bind_apply, hturn]
      dsimp only
      rw [bind_apply, hsave]
      rfl

/-- A refresh touches no files but those of static lists, and saves the lists if one succeeded. -/
theorem refresh (ids : c.lists.map StaticList.id = config.lists.map ListConfig.id)
    (store : RuleStore) (force : Bool) :
    ∃ report ls store' s' f', c.refresh (m := StateM Site) store force s =
        ((report, { c with lists := ls }, store'), s') ∧ s'.Says config d f' ∧
      (∃ r, Refreshed c.lists ls {} r) ∧
      (ls = c.lists ∧ f' = f ∨ f' = f.save ({ c with lists := ls } : Coordinator).items) := by
  have hls : ∀ l ∈ c.lists, d.rulesetPath l.tier ∈ config.files d ∧
      ∃ l' ∈ config.lists, d.rulesetPath l.tier = d.rulesetPath l'.tier := by
    intro l hl
    have hid : l.id ∈ config.lists.map ListConfig.id := ids ▸ List.mem_map_of_mem hl
    obtain ⟨l', hl', hid⟩ := List.mem_map.mp hid
    have htier : l.tier = l'.tier := congrArg Tier.static hid.symm
    rw [htier]
    exact ⟨SyncConfig.mem_files_tier (SyncConfig.mem_tiers_of_list hl'), l', hl', rfl⟩
  have hquiet := h.leaves apart
    (Site.quiet_refreshLists c force s.machine.clock.nowMs hls store {} s h.keeps h.places)
  have hrefreshed := c.refreshLists_refreshed force s.machine.clock.nowMs c.lists store {} s
  have hnow : (Clock.nowMs : StateM Site UInt64) s = (s.machine.clock.nowMs, s) := rfl
  rw [Coordinator.refresh, bind_apply, hnow]
  dsimp only
  rw [bind_apply]
  rcases hpass : c.refreshLists (m := StateM Site) force s.machine.clock.nowMs c.lists store {} s
    with ⟨⟨ls, store', report⟩, s₁⟩
  rw [hpass] at hquiet hrefreshed
  dsimp only at hquiet hrefreshed ⊢
  by_cases hnone : report.succeeded = []
  · rw [if_pos hnone]
    exact ⟨report, ls, store', s₁, f, rfl, hquiet, ⟨report, hrefreshed⟩,
      .inl ⟨(hrefreshed.same hnone).1, rfl⟩⟩
  · obtain ⟨s', hsave, h'⟩ := hquiet.persistState { c with lists := ls } apart
    rw [if_neg hnone, bind_apply, hsave]
    exact ⟨report, ls, store', s', _, rfl, h', ⟨report, hrefreshed⟩, .inr rfl⟩

end Site.Says

end Blocklist
