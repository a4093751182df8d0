import Blocklist.Proofs.Restart

/-!
# Turning tiers on and off

What the toggles do to the flags of an engine in memory. A call that the engine refuses leaves every
flag alone. The toggle of one list is saved last: when that fails, the list and its tier are on or
off as asked, and the saved states are those of before.

* `MemoryEngine.TurnedAll`            the tiers of many lists turned on or off;
* `setTierEnabled_cases`              one tier;
* `Coordinator.ListToggle`, `Coordinator.setListEnabled_toggle`   one list, in one of four ways;
* `Coordinator.setSuspended_ends`     all lists, or none;
* `Blocker.HalfToggled`, `Blocker.failed_list_toggle`   what a toggle of a list that fails leaves.
-/

namespace Blocklist

/-! ## flags of an engine -/

namespace MemoryEngine

variable {e e' : MemoryEngine}

/-- The tier of each list is on if the list is and nothing is suspended; other tiers are as
before. -/
structure TurnedAll (suspended : Bool) (ls : List StaticList) (e e' : MemoryEngine) : Prop where
  tables : e'.tables = e.tables
  lists : ∀ l ∈ ls, e'.isEnabled l.tier = (l.enabled && !suspended)
  others : ∀ tier, (∀ l ∈ ls, l.tier ≠ tier) → e'.isEnabled tier = e.isEnabled tier

end MemoryEngine

/-- A tier is turned on or off if fewer failures are pending than attempts are allowed, and then no
failure is left. -/
theorem setTierEnabled_cases (retry : RetryPolicy) (tier : Tier) (enabled : Bool) (w : Memory) :
    (w.engine.failures < retry.attempts ∧
      ∃ w', (setTierEnabled (m := StateM Memory) tier enabled retry).run w = (.ok (), w') ∧
        w.EngineStep w' ∧ w.engine.Turned tier enabled w'.engine ∧ w'.engine.failures = 0) ∨
    (retry.attempts ≤ w.engine.failures ∧
      ∃ w', (setTierEnabled (m := StateM Memory) tier enabled retry).run w =
          (.error (exhausted retry tier), w') ∧
        w.EngineStep w' ∧ w.engine.Kept w'.engine) := by
  rcases Nat.lt_or_ge w.engine.failures retry.attempts with h | h
  · obtain ⟨w', hrun, he, hstep⟩ := setTierEnabled_ok tier enabled h
    refine .inl ⟨h, w', hrun, hstep, MemoryEngine.turned_of_disabled ?_ ?_, ?_⟩
    · rw [he]
      rfl
    · rw [he]
    · rw [he]
      rfl
  · obtain ⟨w', hrun, he, hstep⟩ := setTierEnabled_error tier enabled h
    have kept : w.engine.Kept w'.engine := by
      rw [he]
      exact ⟨rfl, rfl⟩
    exact .inr ⟨h, w', hrun, hstep, kept⟩

section
variable {retry : RetryPolicy} {tier : Tier} {enabled : Bool} {w w' : Memory}

theorem turned_of_setTierEnabled
    (hrun : (setTierEnabled (m := StateM Memory) tier enabled retry).run w = (.ok (), w')) :
    w.engine.Turned tier enabled w'.engine := by
  rcases setTierEnabled_cases retry tier enabled w with
    ⟨-, w₁, hrun₁, -, turned, -⟩ | ⟨-, w₁, hrun₁, -⟩
  · rw [hrun] at hrun₁
    cases hrun₁
    exact turned
  · rw [hrun] at hrun₁
    cases hrun₁

theorem kept_of_setTierEnabled {e : SyncError}
    (hrun : (setTierEnabled (m := StateM Memory) tier enabled retry).run w = (.error e, w')) :
    retry.attempts ≤ w.engine.failures ∧ w.engine.Kept w'.engine := by
  rcases setTierEnabled_cases retry tier enabled w with ⟨-, w₁, hrun₁, -⟩ | ⟨h, w₁, hrun₁, -, kept⟩
  · rw [hrun] at hrun₁
    cases hrun₁
  · rw [hrun] at hrun₁
    cases hrun₁
    exact ⟨h, kept⟩

end

namespace Coordinator

variable {c c' : Coordinator} {w w' : Memory}

/-! ## one list -/

theorem find?_modify_findIdx {α : Type} {p : α → Bool} {f : α → α} (h : ∀ a, p (f a) = p a)
    (as : List α) : (as.modify (as.findIdx p) f).find? p = (as.find? p).map f := by
  induction as with
  | nil => rfl
  | cons a as ih =>
    rw [List.findIdx_cons, List.find?_cons]
    cases hp : p a with
    | true =>
      show List.find? p (f a :: as) = some (f a)
      rw [List.find?_cons, h, hp]
    | false =>
      show List.find? p (a :: as.modify (as.findIdx p) f) = _
      rw [List.find?_cons, hp]
      exact ih

theorem list?_withEnabled {l : StaticList} {id : String} (h : c.list? id = some l)
    (enabled : Bool) :
    (c.withEnabled id enabled).list? id = some { l with enabled := enabled } := by
  have hfind := find?_modify_findIdx (p := fun l => decide (l.id = id))
    (f := fun l => { l with enabled := enabled }) (fun _ => rfl) c.lists
  unfold list? at h ⊢
  rw [h] at hfind
  exact hfind

theorem tier_of_list? {l : StaticList} {id : String} (h : c.list? id = some l) :
    l.tier = .static id := by
  have hid : l.id = id := by simpa using List.find?_some h
  rw [StaticList.tier, hid]

/-- the engine after a list was turned on or off in it, unless all lists are suspended -/
structure Reached (c : Coordinator) (id : String) (enabled : Bool) (e e' : MemoryEngine) :
    Prop where
  tables : e'.tables = e.tables
  self : e'.isEnabled (.static id) = if c.suspended then e.isEnabled (.static id) else enabled
  others : ∀ tier, tier ≠ .static id → e'.isEnabled tier = e.isEnabled tier

/-- how turning a list on or off ends -/
inductive ListToggle (c : Coordinator) (id : String) (enabled : Bool) (w : Memory) :
    Except SyncError Unit → Coordinator → Memory → Prop where
  | unknown (missing : c.list? id = none) : ListToggle c id enabled w (.error (.unknownList id)) c w
  | refused {l : StaticList} {w' : Memory} (found : c.list? id = some l)
      (active : c.suspended = false) (pending : c.retry.attempts ≤ w.engine.failures)
      (step : w.EngineStep w') (kept : w.engine.Kept w'.engine) :
      ListToggle c id enabled w (.error (exhausted c.retry l.tier)) c w'
  /-- too late: the list is on or off as asked, and so is its tier -/
  | unsaved {l : StaticList} {e : StorageError} {n : Nat} {w' : Memory}
      (found : c.list? id = some l) (reached : c.Reached id enabled w.engine w'.engine)
      (pending : w.store.failures = n + 1) (store : w'.store = { w.store with failures := n })
      (sources : w'.sources = w.sources) :
      ListToggle c id enabled w (.error (.storage e)) (c.withEnabled id enabled) w'
  | made {l : StaticList} {w' : Memory} (found : c.list? id = some l)
      (reached : c.Reached id enabled w.engine w'.engine)
      (store : w'.store =
        { w.store with items := w.store.items.update (c.withEnabled id enabled).items })
      (sources : w'.sources = w.sources) :
      ListToggle c id enabled w (.ok ()) (c.withEnabled id enabled) w'

/-- when the engine has followed, the save decides -/
theorem toggle_of_reached {l : StaticList} {id : String} {enabled : Bool} {w₁ : Memory}
    (found : c.list? id = some l) (reached : c.Reached id enabled w.engine w₁.engine)
    (step : w.EngineStep w₁) :
    ∃ answer w', (do return (← (c.withEnabled id enabled).persistState, c.withEnabled id enabled) :
        StateM Memory (Except SyncError Unit × Coordinator)) w₁ =
        ((answer, c.withEnabled id enabled), w') ∧
      ListToggle c id enabled w answer (c.withEnabled id enabled) w' := by
  rw [bind_apply, persistState_apply, step.store]
  rcases w.store.save_cases (c.withEnabled id enabled).items with ⟨-, hsave⟩ | ⟨e, n, hn, hsave⟩
  · rw [hsave]
    exact ⟨_, _, rfl, .made found reached rfl step.sources⟩
  · rw [hsave]
    exact ⟨_, _, rfl, .unsaved found reached hn rfl step.sources⟩

theorem setListEnabled_toggle (c : Coordinator) (id : String) (enabled : Bool) (w : Memory) :
    ∃ answer c' w', c.setListEnabled (m := StateM Memory) id enabled w = ((answer, c'), w') ∧
      ListToggle c id enabled w answer c' w' := by
  rw [setListEnabled]
  cases hl : c.list? id with
  | none => exact ⟨_, c, w, rfl, .unknown hl⟩
  | some l =>
    cases hsus : c.suspended with
    | true =>
      have reached : c.Reached id enabled w.engine w.engine :=
        ⟨rfl, by rw [hsus]; rfl, fun _ _ => rfl⟩
      obtain ⟨answer, w', hrun, toggle⟩ := toggle_of_reached hl reached (.refl w)
      exact ⟨answer, _, w', hrun, toggle⟩
    | false =>
      simp only [Bool.false_eq_true, if_false, bind_apply]
      rcases setTierEnabled_cases c.retry l.tier enabled w with
        ⟨-, w₁, hrun, hstep, turned, -⟩ | ⟨hpending, w₁, hrun, hstep, kept⟩
      · rw [tier_of_list? hl] at hrun turned
        have reached : c.Reached id enabled w.engine w₁.engine := by
          refine ⟨turned.tables, ?_, turned.others⟩
          rw [hsus]
          exact turned.self
        obtain ⟨answer, w', hsave, toggle⟩ := toggle_of_reached hl reached hstep
        rw [tier_of_list? hl, hrun]
        exact ⟨answer, _, w', hsave, toggle⟩
      · rw [hrun]
        exact ⟨_, c, w₁, rfl, .refused hl hsus hpending hstep kept⟩

/-! ## all lists -/

/-- Lists with distinct ids are all turned on or off when the engine takes the first call, since no
failure is left after it. -/
theorem setTiers_turns {retry : RetryPolicy} (suspended : Bool) {ls : List StaticList}
    (hnd : (ls.map StaticList.id).Nodup) (h : w.engine.failures < retry.attempts) :
    ∃ w', setTiers (m := StateM Memory) retry suspended ls w = (.ok (), w') ∧ w.EngineStep w' ∧
      w.engine.TurnedAll suspended ls w'.engine ∧ (ls ≠ [] → w'.engine.failures = 0) := by
  induction ls generalizing w with
  | nil => exact ⟨w, rfl, .refl w, ⟨rfl, nofun, fun _ _ => rfl⟩, nofun⟩
  | cons l ls ih =>
    rw [List.map_cons, List.nodup_cons] at hnd
    rcases setTierEnabled_cases retry l.tier (l.enabled && !suspended) w with
      ⟨-, w₁, hrun, hstep, turned, hzero⟩ | ⟨hle, -⟩
    · obtain ⟨w', hrest, hstep', all, hleft⟩ := ih hnd.2 (hzero ▸ retry.attempts_pos)
      have hne : ∀ l' ∈ ls, l'.tier ≠ l.tier := by
        intro l' hl' heq
        have hid : l'.id = l.id := by injection heq
        exact hnd.1 (hid ▸ List.mem_map_of_mem hl')
      have hrun' : setTiers (m := StateM Memory) retry suspended (l :: ls) w = (.ok (), w') := by
        rw [setTiers, bind_apply, hrun]
        exact hrest
      refine ⟨w', hrun', hstep.trans hstep', ⟨all.tables.trans turned.tables, ?_, ?_⟩, fun _ => ?_⟩
      · intro l' hl'
        rcases List.mem_cons.mp hl' with rfl | hl'
        · rw [all.others _ hne, turned.self]
        · exact all.lists l' hl'
      · intro tier htier
        rw [all.others tier fun l' hl' => htier l' (List.mem_cons_of_mem l hl')]
        exact turned.others tier (htier l List.mem_cons_self).symm
      · cases ls with
        | nil =>
          cases hrest
          exact hzero
        | cons l' ls => exact hleft (List.cons_ne_nil l' ls)
    · exact absurd h (Nat.not_lt.mpr hle)

/-- All lists are turned on or off, or, when the engine refuses the first call, none is. -/
theorem setSuspended_ends (c : Coordinator) (suspended : Bool) (w : Memory)
    (hnd : (c.lists.map StaticList.id).Nodup) :
    (∃ w', c.setSuspended (m := StateM Memory) suspended w =
        ((.ok (), { c with suspended := suspended }), w') ∧ w.EngineStep w' ∧
      w.engine.TurnedAll suspended c.lists w'.engine ∧
      (c.lists ≠ [] → w'.engine.failures = 0)) ∨
    (∃ e w', c.setSuspended (m := StateM Memory) suspended w = ((.error e, c), w') ∧
      w.EngineStep w' ∧ w.engine.Kept w'.engine) := by
  rw [setSuspended, bind_apply]
  rcases Nat.lt_or_ge w.engine.failures c.retry.attempts with h | h
  · obtain ⟨w', hrun, hstep, all, hleft⟩ := setTiers_turns suspended hnd h
    rw [hrun]
    exact .inl ⟨w', rfl, hstep, all, hleft⟩
  · cases hls : c.lists with
    | nil =>
      exact .inl ⟨w, rfl, .refl w, ⟨rfl, fun _ hl => absurd hl List.not_mem_nil, fun _ _ => rfl⟩,
        fun hne => absurd rfl hne⟩
    | cons l ls =>
      rcases setTierEnabled_cases c.retry l.tier (l.enabled && !suspended) w with
        ⟨hlt, -⟩ | ⟨-, w', hrun, hstep, kept⟩
      · exact absurd hlt (Nat.not_lt.mpr h)
      · refine .inr ⟨exhausted c.retry l.tier, w', ?_, hstep, kept⟩
        rw [setTiers, bind_apply, hrun]
        rfl

section
variable {suspended : Bool} (hnd : (c.lists.map StaticList.id).Nodup)
include hnd

theorem turned_of_setSuspended
    (hrun : c.setSuspended (m := StateM Memory) suspended w = ((.ok (), c'), w')) :
    c' = { c with suspended := suspended } ∧
      w.engine.TurnedAll suspended c.lists w'.engine ∧ (c.lists ≠ [] → w'.engine.failures = 0) := by
  rcases c.setSuspended_ends suspended w hnd with ⟨w₁, hrun₁, -, all⟩ | ⟨e, w₁, hrun₁, -⟩
  · rw [hrun] at hrun₁
    cases hrun₁
    exact ⟨rfl, all⟩
  · rw [hrun] at hrun₁
    cases hrun₁

theorem kept_of_setSuspended {e : SyncError}
    (hrun : c.setSuspended (m := StateM Memory) suspended w = ((.error e, c'), w')) :
    w.engine.Kept w'.engine := by
  rcases c.setSuspended_ends suspended w hnd with ⟨w₁, hrun₁, -⟩ | ⟨e₁, w₁, hrun₁, -, kept⟩
  · rw [hrun] at hrun₁
    cases hrun₁
  · rw [hrun] at hrun₁
    cases hrun₁
    exact kept

end

end Coordinator

namespace Blocker

variable {b b' : Blocker} {w w' : Memory} {list : String} {enabled : Bool} {e : SyncError}

/-! ## a toggle of a list that fails -/

/-- Toggled, but not saved: the list is on or off as asked, and so is its tier unless all lists are
suspended. Nothing else has changed. -/
structure HalfToggled (list : String) (enabled : Bool) (b : Blocker) (w : Memory) (b' : Blocker)
    (w' : Memory) : Prop where
  blocker : b' = { b with coordinator := b.coordinator.withEnabled list enabled }
  flag : (b'.coordinator.list? list).map StaticList.enabled = some enabled
  tier : w'.engine.isEnabled (.static list) =
    if b.coordinator.suspended then w.engine.isEnabled (.static list) else enabled
  others : ∀ tier, tier ≠ .static list → w'.engine.isEnabled tier = w.engine.isEnabled tier
  rules : w'.engine.tables = w.engine.tables

/-- A toggle of a list that fails leaves what is saved as it was. If it failed for another reason
than the save, everything else is as it was, too; but a save that fails comes too late. -/
theorem failed_list_toggle
    (hrun : (setListEnabled (m := StateM Memory) list enabled).on b w = ((.error e, b'), w')) :
    w'.store.items = w.store.items ∧
      ((∀ cause, e ≠ .storage cause) → b' = b ∧ w.engine.Kept w'.engine) ∧
      ∀ cause, e = .storage cause → HalfToggled list enabled b w b' w' := by
  obtain ⟨answer, c, w₁, htoggle, toggle⟩ := b.coordinator.setListEnabled_toggle list enabled w
  have hon := setListEnabled_on htoggle
  rw [hrun] at hon
  cases hon
  cases toggle with
  | unknown missing => exact ⟨rfl, fun _ => ⟨rfl, .refl w.engine⟩, nofun⟩
  | refused found active pending step kept =>
    exact ⟨by rw [step.store], fun _ => ⟨rfl, kept⟩, nofun⟩
  | @unsaved l cause n _ found reached pending store sources =>
    refine ⟨by rw [store], fun hne => absurd rfl (hne cause), fun _ _ => ?_⟩
    have hflag := Coordinator.list?_withEnabled found enabled
    exact ⟨rfl, by rw [hflag]; rfl, reached.self, reached.others, reached.tables⟩

/-- a world in which the next write fails -/
def unwritable : Memory := { store := { failures := 1 } }

theorem half_toggled_default :
    ∃ b' w', (setListEnabled (m := StateM Memory) "easylist" false).on (ofConfig .default)
        unwritable = ((.error (.storage (.backend "injected write failure")), b'), w') ∧
      HalfToggled "easylist" false (ofConfig .default) unwritable b' w' := by
  have hanswer : ((setListEnabled (m := StateM Memory) "easylist" false).on (ofConfig .default)
      unwritable).1.1 = .error (.storage (.backend "injected write failure")) := by
    decide +kernel
  rcases hrun : (setListEnabled (m := StateM Memory) "easylist" false).on (ofConfig .default)
    unwritable with ⟨⟨answer, b'⟩, w'⟩
  rw [hrun] at hanswer
  cases hanswer
  exact ⟨b', w', rfl, (failed_list_toggle hrun).2.2 _ rfl⟩

/-- After a restore, a toggle whose save fails turns a list off that is saved as it was. -/
theorem unsaved_toggle_turns_off_default :
    let start := (restore (m := StateM Memory)).on (ofConfig .default) {}
    let world : Memory := { start.2 with store := { start.2.store with failures := 1 } }
    let toggle := (setListEnabled (m := StateM Memory) "easylist" false).on start.1.2 world
    start.1.1 = .ok () ∧
      toggle.1.1 = .error (.storage (.backend "injected write failure")) ∧
      (start.1.2.coordinator.list? "easylist").map StaticList.enabled = some true ∧
      (toggle.1.2.coordinator.list? "easylist").map StaticList.enabled = some false ∧
      world.engine.isEnabled (.static "easylist") = true ∧
      toggle.2.engine.isEnabled (.static "easylist") = false ∧
      world.store.items[Saved.listStatesKey]?.isNone = true ∧
      toggle.2.store.items[Saved.listStatesKey]?.isNone = true := by
  decide +kernel

end Blocker

end Blocklist
