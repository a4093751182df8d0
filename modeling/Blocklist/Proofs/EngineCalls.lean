import Blocklist.Memory
import Blocklist.Proofs.Runs
import Blocklist.Proofs.Store

/-!
# Calls of an engine in memory

An engine in memory fails as often as it was told to, and each call is retried. A call succeeds if
fewer failures are pending than attempts are allowed; otherwise it uses up its attempts and changes
nothing but the number of pending failures.

* `Memory.EngineStep`              a step that concerns nothing but the engine;
* `RetryPolicy.run_call_ok`, `RetryPolicy.run_call_error`   one call with its retries;
* `setTierEnabled_ok`, `setTierEnabled_error`   turning a tier on or off;
* `syncTier_ok`, `syncTier_error`  bringing a tier to the engine;
* `MemoryEngine.Synced`, `MemoryEngine.Kept`   what that does to the engine (`syncTier_cases`);
* `MemoryEngine.Turned`            the engine after a tier was turned on or off;
* `RuleStore.Sound.table_of_synced`   after a sync the engine has the rules of the store.
-/

namespace Blocklist

/-! ## retries -/

namespace RetryPolicy

section
variable {σ ε α : Type} [Sleep (StateM σ)] (p : RetryPolicy) (call : StateM σ (Except ε α))

theorem runFrom_zero (n : Nat) (w : σ) :
    p.runFrom call n 0 w =
      match call w with
      | (.ok a, w) => (.ok a, w)
      | (.error e, w) => (.error ⟨n, e⟩, w) := by
  rw [runFrom, bind_apply]
  rcases call w with ⟨e | a, w'⟩ <;> rfl

theorem runFrom_succ (n left : Nat) (w : σ) :
    p.runFrom call n (left + 1) w =
      match call w with
      | (.ok a, w) => (.ok a, w)
      | (.error _, w) =>
        p.runFrom call (n + 1) left ((Sleep.sleepMs (p.delay n) : StateM σ Unit) w).2 := by
  rw [runFrom, bind_apply]
  rcases call w with ⟨e | a, w'⟩ <;> rfl

end

theorem attempts_pos (p : RetryPolicy) : 0 < p.attempts := by
  rw [attempts]
  omega

end RetryPolicy

/-! ## calls that fail while failures are pending -/

/-- a step that concerns nothing but the engine, and waits perhaps -/
structure Memory.EngineStep (w w' : Memory) : Prop where
  store : w'.store = w.store
  sources : w'.sources = w.sources
  nowMs : w'.clock.nowMs = w.clock.nowMs

theorem Memory.EngineStep.refl (w : Memory) : EngineStep w w := ⟨rfl, rfl, rfl⟩

theorem Memory.EngineStep.trans {w₁ w₂ w₃ : Memory} (h : EngineStep w₁ w₂) (h' : EngineStep w₂ w₃) :
    EngineStep w₁ w₃ :=
  ⟨h'.store.trans h.store, h'.sources.trans h.sources, h'.nowMs.trans h.nowMs⟩

namespace MemoryEngine

/-- the engine with this number of pending failures -/
def failing (e : MemoryEngine) (n : Nat) : MemoryEngine := { e with failures := n }

theorem failing_self {e : MemoryEngine} {n : Nat} (h : e.failures = n) : e.failing n = e := by
  rw [← h]
  rfl

end MemoryEngine

namespace Memory

variable {α : Type} (f : MemoryEngine → Except EngineError α × MemoryEngine)

/-- a call of the engine as a step of the world -/
def faultyCall : StateM Memory (Except EngineError α) := onEngine fun e => e.call f

theorem faultyCall_zero {w : Memory} (h : w.engine.failures = 0) :
    faultyCall f w = ((f w.engine).1, { w with engine := (f w.engine).2 }) := by
  show ((w.engine.call f).1, { w with engine := (w.engine.call f).2 }) = _
  rw [MemoryEngine.call, h]

theorem faultyCall_succ {w : Memory} {n : Nat} (h : w.engine.failures = n + 1) :
    faultyCall f w =
      (.error (.unavailable "injected failure"), { w with engine := w.engine.failing n }) := by
  show ((w.engine.call f).1, { w with engine := (w.engine.call f).2 }) = _
  rw [MemoryEngine.call, h]
  rfl

end Memory

namespace RetryPolicy

variable {α : Type} {f : MemoryEngine → Except EngineError α × MemoryEngine} (p : RetryPolicy)

theorem runFrom_call_ok {left : Nat} {w : Memory} {a : α} {e : MemoryEngine}
    (h : w.engine.failures ≤ left) (hf : f (w.engine.failing 0) = (.ok a, e)) (n : Nat) :
    ∃ w', p.runFrom (Memory.faultyCall f) n left w = (.ok a, w') ∧ w'.engine = e ∧
      w.EngineStep w' := by
  induction left generalizing n w with
  | zero =>
    have h0 : w.engine.failures = 0 := Nat.le_zero.mp h
    rw [MemoryEngine.failing_self h0] at hf
    refine ⟨{ w with engine := e }, ?_, rfl, ⟨rfl, rfl, rfl⟩⟩
    rw [runFrom_zero, Memory.faultyCall_zero f h0, hf]
  | succ left ih =>
    rw [runFrom_succ]
    cases hn : w.engine.failures with
    | zero =>
      rw [MemoryEngine.failing_self hn] at hf
      refine ⟨{ w with engine := e }, ?_, rfl, ⟨rfl, rfl, rfl⟩⟩
      rw [Memory.faultyCall_zero f hn, hf]
    | succ k =>
      rw [Memory.faultyCall_succ f hn]
      -- the next attempt starts after a wait, with one pending failure less
      obtain ⟨w', hrun, he, hstep⟩ := ih
        (w := { w with engine := w.engine.failing k, clock := w.clock.wait (p.delay n) })
        (by show k ≤ left; omega) hf (n + 1)
      exact ⟨w', hrun, he, ⟨hstep.store, hstep.sources, hstep.nowMs⟩⟩

theorem runFrom_call_error {left : Nat} {w : Memory} (h : left < w.engine.failures) (n : Nat) :
    ∃ w', p.runFrom (Memory.faultyCall f) n left w =
        (.error ⟨n + left, .unavailable "injected failure"⟩, w') ∧
      w'.engine = w.engine.failing (w.engine.failures - (left + 1)) ∧ w.EngineStep w' := by
  induction left generalizing n w with
  | zero =>
    obtain ⟨k, hk⟩ : ∃ k, w.engine.failures = k + 1 := ⟨w.engine.failures - 1, by omega⟩
    refine ⟨{ w with engine := w.engine.failing k }, ?_, ?_, ⟨rfl, rfl, rfl⟩⟩
    · rw [runFrom_zero, Memory.faultyCall_succ f hk]
      rfl
    · rw [hk]
      rfl
  | succ left ih =>
    obtain ⟨k, hk⟩ : ∃ k, w.engine.failures = k + 1 := ⟨w.engine.failures - 1, by omega⟩
    rw [runFrom_succ, Memory.faultyCall_succ f hk]
    obtain ⟨w', hrun, he, hstep⟩ := ih
      (w := { w with engine := w.engine.failing k, clock := w.clock.wait (p.delay n) })
      (by show left < k; omega) (n + 1)
    refine ⟨w', ?_, ?_, ⟨hstep.store, hstep.sources, hstep.nowMs⟩⟩
    · rw [← Nat.add_assoc, Nat.add_right_comm]
      exact hrun
    · rw [he, hk]
      show w.engine.failing (k - (left + 1)) = _
      rw [Nat.add_sub_add_right]

end RetryPolicy

/-! ## one call with its retries -/

section
variable {α : Type} {f : MemoryEngine → Except EngineError α × MemoryEngine} {w : Memory}
  (retry : RetryPolicy) (tier : Tier)

theorem engineCall_ok {a : α} {e : MemoryEngine} (h : w.engine.failures < retry.attempts)
    (hf : f (w.engine.failing 0) = (.ok a, e)) :
    ∃ w', (engineCall retry tier (Memory.faultyCall f)).run w = (.ok a, w') ∧ w'.engine = e ∧
      w.EngineStep w' := by
  obtain ⟨w', hrun, he, hstep⟩ := retry.runFrom_call_ok
    (show w.engine.failures ≤ retry.attempts - 1 by omega) hf 1
  refine ⟨w', ?_, he, hstep⟩
  show (retry.run (Memory.faultyCall f) >>= _) w = _
  rw [bind_apply, RetryPolicy.run, hrun]
  rfl

/-- what a call whose attempts are used up fails with -/
def exhausted (retry : RetryPolicy) (tier : Tier) : SyncError :=
  .engineApplyFailed tier retry.attempts (.unavailable "injected failure")

theorem engineCall_error (f : MemoryEngine → Except EngineError α × MemoryEngine)
    (h : retry.attempts ≤ w.engine.failures) :
    ∃ w', (engineCall retry tier (Memory.faultyCall f)).run w =
        (.error (exhausted retry tier), w') ∧
      w'.engine = w.engine.failing (w.engine.failures - retry.attempts) ∧ w.EngineStep w' := by
  have hpos := retry.attempts_pos
  obtain ⟨w', hrun, he, hstep⟩ := retry.runFrom_call_error (f := f)
    (show retry.attempts - 1 < w.engine.failures by omega) 1
  have hone : retry.attempts - 1 + 1 = retry.attempts := by omega
  rw [hone] at he
  rw [Nat.add_comm, hone] at hrun
  refine ⟨w', ?_, he, hstep⟩
  show (retry.run (Memory.faultyCall f) >>= _) w = _
  rw [bind_apply, RetryPolicy.run, hrun]
  rfl

end

/-! ## turning a tier on or off -/

section
variable {retry : RetryPolicy} {w : Memory} (tier : Tier) (enabled : Bool)

theorem setTierEnabled_ok (h : w.engine.failures < retry.attempts) :
    ∃ w', (setTierEnabled (m := StateM Memory) tier enabled retry).run w = (.ok (), w') ∧
      w'.engine = { w.engine.failing 0 with
        disabled := if enabled then w.engine.disabled.erase tier
          else w.engine.disabled.insert tier } ∧
      w.EngineStep w' :=
  engineCall_ok retry tier (f := fun e => (.ok (),
    { e with disabled := if enabled then e.disabled.erase tier else e.disabled.insert tier })) h rfl

theorem setTierEnabled_error (h : retry.attempts ≤ w.engine.failures) :
    ∃ w', (setTierEnabled (m := StateM Memory) tier enabled retry).run w =
        (.error (exhausted retry tier), w') ∧
      w'.engine = w.engine.failing (w.engine.failures - retry.attempts) ∧ w.EngineStep w' :=
  engineCall_error retry tier _ h

end

/-! ## bringing a tier to the engine -/

/-- rules that an engine takes: their ids are distinct and in scope -/
structure Tier.Takes (tier : Tier) (desired : List Rule) : Prop where
  nodup : (desired.map Rule.id).Nodup
  scope : ∀ r ∈ desired, tier.inScope r.id = true

section
variable {retry : RetryPolicy} {w : Memory} {tier : Tier} {desired : List Rule}

variable (tier) in
theorem activeIds_ok (h : w.engine.failures < retry.attempts) :
    ∃ w', (engineCall retry tier (RuleEngine.activeIds tier : StateM Memory _)).run w =
        (.ok (w.engine.table tier).ids, w') ∧
      w'.engine = w.engine.failing 0 ∧ w.EngineStep w' :=
  engineCall_ok retry tier (f := fun e => (.ok (e.table tier).ids, e)) h rfl

theorem applyDiff_ok {d : RuleDiff} {t : RuleTable} (h : w.engine.failures < retry.attempts)
    (hd : (w.engine.table tier).applyDiff tier d = .ok t) :
    ∃ w', (engineCall retry tier (RuleEngine.applyDiff tier d : StateM Memory _)).run w =
        (.ok (), w') ∧
      w'.engine = { w.engine.failing 0 with
        tables := w.engine.tables.insert tier t, applied := w.engine.applied + 1 } ∧
      w.EngineStep w' := by
  have hd' : ((w.engine.failing 0).table tier).applyDiff tier d = .ok t := hd
  refine engineCall_ok retry tier h ?_
  dsimp only
  rw [hd']
  rfl

theorem syncTier_ok (h : w.engine.failures < retry.attempts) (takes : tier.Takes desired) :
    ∃ w', (syncTier (m := StateM Memory) tier desired retry).run w =
        (.ok (reconcile tier desired (w.engine.table tier).ids), w') ∧
      w'.engine = { w.engine.failing 0 with
        tables := w.engine.tables.insert tier ((w.engine.table tier).reconciled tier desired)
        applied := w.engine.applied + 1 } ∧
      w.EngineStep w' := by
  obtain ⟨w₁, hread, he₁, hstep₁⟩ := activeIds_ok tier h
  have hdiff : (w₁.engine.table tier).applyDiff tier
      (reconcile tier desired (w.engine.table tier).ids) =
        .ok ((w.engine.table tier).reconciled tier desired) := by
    rw [he₁]
    exact (RuleTable.applyDiff_reconcile takes.scope).mpr ⟨takes.nodup, rfl⟩
  have h₁ : w₁.engine.failures < retry.attempts := by
    rw [he₁]
    exact retry.attempts_pos
  obtain ⟨w₂, happly, he₂, hstep₂⟩ := applyDiff_ok h₁ hdiff
  refine ⟨w₂, ?_, ?_, hstep₁.trans hstep₂⟩
  · rw [syncTier]
    exact (run_bind_ok hread).trans ((run_bind_ok happly).trans rfl)
  · rw [he₂, he₁]
    rfl

theorem syncTier_error (desired : List Rule) (h : retry.attempts ≤ w.engine.failures) :
    ∃ w', (syncTier (m := StateM Memory) tier desired retry).run w =
        (.error (exhausted retry tier), w') ∧
      w'.engine = w.engine.failing (w.engine.failures - retry.attempts) ∧ w.EngineStep w' := by
  obtain ⟨w', hread, he, hstep⟩ := engineCall_error retry tier
    (fun e => (.ok (e.table tier).ids, e)) h
  refine ⟨w', ?_, he, hstep⟩
  rw [syncTier]
  exact run_bind_error hread

end

namespace MemoryEngine

theorem table_congr {e e' : MemoryEngine} (h : e'.tables = e.tables) (tier : Tier) :
    e'.table tier = e.table tier := by
  rw [table, h]
  rfl

/-- the engine follows: our rules of the tier are the desired ones -/
structure Synced (tier : Tier) (desired : List Rule) (e e' : MemoryEngine) : Prop where
  tables : e'.tables = e.tables.insert tier ((e.table tier).reconciled tier desired)
  disabled : e'.disabled = e.disabled

/-- the engine has the rules and the flags of before -/
structure Kept (e e' : MemoryEngine) : Prop where
  tables : e'.tables = e.tables
  disabled : e'.disabled = e.disabled

theorem Kept.refl (e : MemoryEngine) : e.Kept e := ⟨rfl, rfl⟩

theorem Kept.table {e e' : MemoryEngine} (h : e.Kept e') (tier : Tier) :
    e'.table tier = e.table tier := table_congr h.tables tier

section
variable {e e' : MemoryEngine} {tier : Tier} {enabled : Bool}

theorem isEnabled_congr (h : e'.disabled = e.disabled) (tier : Tier) :
    e'.isEnabled tier = e.isEnabled tier := by
  unfold isEnabled
  rw [h]

theorem Kept.isEnabled (h : e.Kept e') (tier : Tier) : e'.isEnabled tier = e.isEnabled tier :=
  isEnabled_congr h.disabled tier

/-- the tier is on or off as `enabled` says, and every other one as before -/
structure Turned (tier : Tier) (enabled : Bool) (e e' : MemoryEngine) : Prop where
  tables : e'.tables = e.tables
  self : e'.isEnabled tier = enabled
  others : ∀ tier', tier' ≠ tier → e'.isEnabled tier' = e.isEnabled tier'

theorem turned_of_disabled (tables : e'.tables = e.tables)
    (disabled : e'.disabled = if enabled then e.disabled.erase tier else e.disabled.insert tier) :
    e.Turned tier enabled e' := by
  have hflag : ∀ tier', e'.isEnabled tier' =
      if tier' = tier then enabled else e.isEnabled tier' := by
    intro tier'
    unfold isEnabled
    rw [disabled]
    cases enabled with
    | true =>
      rw [if_pos rfl, Std.ExtTreeSet.contains_erase]
      by_cases h : tier' = tier
      · simp [h]
      · have hne : compare tier tier' ≠ .eq := fun heq => h (Std.compare_eq_iff_eq.mp heq).symm
        simp [h, hne]
    | false =>
      rw [if_neg Bool.false_ne_true, Std.ExtTreeSet.contains_insert]
      by_cases h : tier' = tier
      · simp [h]
      · have hne : compare tier tier' ≠ .eq := fun heq => h (Std.compare_eq_iff_eq.mp heq).symm
        simp [h, hne]
  refine ⟨tables, ?_, ?_⟩
  · rw [hflag, if_pos rfl]
  · intro tier' hne
    rw [hflag, if_neg hne]

end

end MemoryEngine

theorem syncTier_cases (retry : RetryPolicy) {tier : Tier} {desired : List Rule}
    (takes : tier.Takes desired) (w : Memory) :
    (∃ d w', (syncTier (m := StateM Memory) tier desired retry).run w = (.ok d, w') ∧
      w.EngineStep w' ∧ w.engine.Synced tier desired w'.engine) ∨
    (∃ w', (syncTier (m := StateM Memory) tier desired retry).run w =
      (.error (exhausted retry tier), w') ∧ w.EngineStep w' ∧ w.engine.Kept w'.engine) := by
  rcases Nat.lt_or_ge w.engine.failures retry.attempts with h | h
  · obtain ⟨w', hrun, he, hstep⟩ := syncTier_ok h takes
    exact .inl ⟨_, w', hrun, hstep, ⟨by rw [he], by rw [he]; rfl⟩⟩
  · obtain ⟨w', hrun, he, hstep⟩ := syncTier_error desired h
    exact .inr ⟨w', hrun, hstep, ⟨by rw [he]; rfl, by rw [he]; rfl⟩⟩

namespace MemoryEngine.Synced

variable {tier : Tier} {desired : List Rule} {e e' : MemoryEngine} (h : e.Synced tier desired e')
include h

theorem table (tier' : Tier) :
    e'.table tier' =
      if tier = tier' then (e.table tier).reconciled tier desired else e.table tier' := by
  rw [MemoryEngine.table, h.tables, Std.ExtTreeMap.getD_insert]
  simp only [Std.compare_eq_iff_eq]
  rfl

theorem table_of_ne {tier' : Tier} (hne : tier ≠ tier') : e'.table tier' = e.table tier' := by
  rw [h.table, if_neg hne]

theorem own_table (takes : tier.Takes desired) :
    (e'.table tier).own tier = RuleTable.insertAll ∅ desired := by
  rw [h.table, if_pos rfl]
  exact RuleTable.own_reconciled takes.scope takes.nodup

theorem foreign_table (takes : tier.Takes desired) :
    (e'.table tier).foreign tier = (e.table tier).foreign tier := by
  rw [h.table, if_pos rfl]
  exact RuleTable.foreign_reconciled takes.scope takes.nodup

end MemoryEngine.Synced

/-! ### the rules of a store -/

namespace RuleStore.Sound

variable {s : RuleStore} (hs : s.Sound) (tier : Tier)
include hs

theorem takes : tier.Takes (s.rules tier) where
  nodup := (hs tier).keyed.nodup_rules
  scope r hr := by
    cases tier with
    | static _ => rfl
    | dynamic => rfl
    | session =>
      apply (hs .session).inRange
      rw [Std.ExtTreeMap.mem_iff_isSome_getElem?, (hs .session).keyed.mem_rules_iff.mp hr]
      rfl

variable {tier} {e e' : MemoryEngine} (h : e.Synced tier (s.rules tier) e')
include h

/-- after a sync the engine has the rules of the store -/
theorem own_table_of_synced : (e'.table tier).own tier = s.table tier := by
  rw [h.own_table (hs.takes tier)]
  exact (hs tier).keyed.insertAll_rules

theorem table_of_synced (htier : tier ≠ .session) : e'.table tier = s.table tier := by
  rw [← hs.own_table_of_synced h, RuleTable.own_eq_self htier]

end RuleStore.Sound

end Blocklist
