import Blocklist.Proofs.EngineCalls

/-!
# Reconciling converges

Differences say what to do to an engine, and sets of ids what it then enforces. Both agree: an engine
that takes a difference has the ids that the difference leads to. Reconciling leads to the desired
rules and those of others, done again it changes no id, and it is all or nothing whatever fails.

* `RuleDiff.mem_applyTo`              the ids that a difference leads to;
* `Tier.idsAfter`, `Tier.Converges`   reconciling a set of ids, once and once more;
* `RuleTable.ids_applyDiff`           the ids of a table under a difference;
* `Tier.reconciling_converges`        both together;
* `MemoryEngine.BroughtInLine`, `MemoryEngine.LeftAlone`, `MemoryEngine.SameBeside`
                                      the engine after a tier was brought to it, or not;
* `syncTier_all_or_nothing`           which of the two it is.
-/

namespace Blocklist

/-! ## ids under differences -/

namespace RuleDiff

variable {d : RuleDiff} {active : IdSet} {id : RuleId}

theorem mem_addedIds : id ∈ d.addedIds ↔ id ∈ d.add.map Rule.id := by
  rw [addedIds, Std.ExtTreeSet.mem_ofList, List.contains_iff_mem]

theorem mem_applyTo :
    id ∈ d.applyTo active ↔ id ∈ d.add.map Rule.id ∨ id ∉ d.remove ∧ id ∈ active := by
  rw [applyTo, Std.ExtTreeSet.mem_union_iff, mem_addedIds, Std.ExtTreeSet.mem_filter, or_comm]
  simp [and_comm]

end RuleDiff

namespace Tier

variable {tier : Tier} {desired : List Rule} {active : IdSet} {id : RuleId}

/-- the active ids of the tier after it was reconciled -/
def idsAfter (tier : Tier) (desired : List Rule) (active : IdSet) : IdSet :=
  (reconcile tier desired active).applyTo active

theorem mem_idsAfter :
    id ∈ tier.idsAfter desired active ↔
      id ∈ desired.map Rule.id ∨ id ∈ active ∧ tier.inScope id = false := by
  rw [idsAfter, RuleDiff.mem_applyTo, RuleTable.mem_reconcile_remove_iff, and_comm]
  refine or_congr_right (and_congr_right fun hid => ?_)
  rw [and_iff_right hid, Bool.not_eq_true]

/-- what is in scope after rules of the tier were brought in -/
theorem filter_idsAfter (scope : ∀ r ∈ desired, tier.inScope r.id = true) :
    (tier.idsAfter desired active).filter tier.inScope =
      (reconcile tier desired active).addedIds := by
  apply Std.ExtTreeSet.ext_mem
  intro id
  have hdesired : id ∈ desired.map Rule.id → tier.inScope id = true := by
    intro hid
    obtain ⟨r, hr, rfl⟩ := List.mem_map.mp hid
    exact scope r hr
  have hfilter : id ∈ (tier.idsAfter desired active).filter tier.inScope ↔
      id ∈ tier.idsAfter desired active ∧ tier.inScope id = true := by
    rw [Std.ExtTreeSet.mem_filter]
    simp
  rw [hfilter, mem_idsAfter, RuleDiff.mem_addedIds]
  constructor
  · rintro ⟨hid | ⟨-, hout⟩, hin⟩
    · exact hid
    · rw [hout] at hin
      cases hin
  · exact fun hid => ⟨.inl hid, hdesired hid⟩

/-- what reconciling leads to, and what it does when it is done again -/
structure Converges (tier : Tier) (desired : List Rule) (active : IdSet) : Prop where
  reached : ∀ id, id ∈ tier.idsAfter desired active ↔
    id ∈ desired.map Rule.id ∨ id ∈ active ∧ tier.inScope id = false
  add_again : (reconcile tier desired (tier.idsAfter desired active)).add =
    (reconcile tier desired active).add
  ids_again : tier.idsAfter desired (tier.idsAfter desired active) = tier.idsAfter desired active
  /-- what was added the first time is removed, to be added again -/
  remove_again : (∀ r ∈ desired, tier.inScope r.id = true) →
    (reconcile tier desired (tier.idsAfter desired active)).remove =
      (reconcile tier desired active).addedIds.toList

theorem converges (tier : Tier) (desired : List Rule) (active : IdSet) :
    tier.Converges desired active where
  reached _ := mem_idsAfter
  add_again := rfl
  ids_again := by
    apply Std.ExtTreeSet.ext_mem
    intro id
    rw [mem_idsAfter, mem_idsAfter, or_and_right, and_assoc, and_self, ← or_assoc,
      or_iff_left_of_imp And.left]
  remove_again scope := by
    show (tier.idsAfter desired active).toList.filter tier.inScope = _
    rw [← Std.ExtTreeSet.toList_filter, filter_idsAfter scope]

end Tier

/-! ## engines under differences -/

/-- A table has the ids that an accepted difference leads to. -/
theorem RuleTable.ids_applyDiff {tier : Tier} {t t' : RuleTable} {d : RuleDiff}
    (h : t.applyDiff tier d = .ok t') : t'.ids = d.applyTo t.ids := by
  obtain ⟨hfresh, rfl⟩ := addAll_eq_ok_iff.mp h
  apply Std.ExtTreeSet.ext_mem
  intro id
  rw [mem_ids_iff, mem_insertAll hfresh, mem_removeAll, RuleDiff.mem_applyTo, mem_ids_iff]

namespace MemoryEngine

variable {tier : Tier} {d : RuleDiff} {e e' : MemoryEngine}

theorem activeIds_of_failures (h : e.failures = 0) :
    e.activeIds tier = (.ok (e.table tier).ids, e) := by
  rw [activeIds, call, h]

theorem applyDiff_eq_ok (h : e.applyDiff tier d = (.ok (), e')) :
    e.failures = 0 ∧ ∃ t, (e.table tier).applyDiff tier d = .ok t ∧
      e' = { e with tables := e.tables.insert tier t, applied := e.applied + 1 } := by
  rw [applyDiff, call] at h
  split at h
  · next hfailures =>
    split at h
    · cases h
    · next t ht =>
      cases h
      exact ⟨hfailures, t, ht, rfl⟩
  · cases h

/-- An engine that took a difference has the ids that the difference leads to. -/
theorem activeIds_of_applyDiff (h : e.applyDiff tier d = (.ok (), e')) :
    ∃ before, e.activeIds tier = (.ok before, e) ∧
      e'.activeIds tier = (.ok (d.applyTo before), e') := by
  obtain ⟨hfailures, t, ht, he'⟩ := applyDiff_eq_ok h
  have hfailures' : e'.failures = 0 := by rw [he', hfailures]
  have htable : e'.table tier = t := by
    rw [he']
    exact Std.ExtTreeMap.getD_insert_self
  refine ⟨_, activeIds_of_failures hfailures, ?_⟩
  rw [activeIds_of_failures hfailures', htable, RuleTable.ids_applyDiff ht]

end MemoryEngine

/-- Reconciling leads to the desired ids and to those of others, again and again, and the ids of an
engine are those that differences lead to. -/
theorem Tier.reconciling_converges (tier : Tier) :
    (∀ desired active, tier.Converges desired active) ∧
      ∀ (d : RuleDiff) (e e' : MemoryEngine), e.applyDiff tier d = (.ok (), e') →
        ∃ before, e.activeIds tier = (.ok before, e) ∧
          e'.activeIds tier = (.ok (d.applyTo before), e') :=
  ⟨tier.converges, fun _ _ _ => MemoryEngine.activeIds_of_applyDiff⟩

/-- a rule is replaced, another one goes, and an id is removed that is not active -/
theorem reconciling_converges_easylist :
    let r (id : RuleId) : Rule := ⟨id, 1, .block, {}, none⟩
    let tier : Tier := .static "easylist"
    let d : RuleDiff := ⟨[3, 4, 9], [r 4]⟩
    let e : MemoryEngine := { tables := .ofList [(tier, RuleTable.ofRules [r 2, r 3, r 4])] }
    ∃ e' before, e.applyDiff tier d = (.ok (), e') ∧ e.activeIds tier = (.ok before, e) ∧
      e'.activeIds tier = (.ok (d.applyTo before), e') := by
  intro r tier d e
  have htaken : (e.applyDiff tier d).1 = .ok () := by
    dsimp only [r, tier, d, e]
    rfl
  have hrun : e.applyDiff tier d = (.ok (), (e.applyDiff tier d).2) := Prod.ext htaken rfl
  obtain ⟨before, hbefore, hafter⟩ := (Tier.reconciling_converges tier).2 d e _ hrun
  exact ⟨_, before, hrun, hbefore, hafter⟩

/-! ## bringing a tier to an engine -/

namespace MemoryEngine

/-- The engine has the desired rules in the tier. In the session tier there are also the old ones
that are not ours. -/
structure BroughtInLine (tier : Tier) (desired : List Rule) (e e' : MemoryEngine) : Prop where
  rules : ∀ id r, (e'.table tier)[id]? = some r ↔
    r ∈ desired ∧ r.id = id ∨
      tier = .session ∧ IdRange.sessionIds.contains id = false ∧ (e.table tier)[id]? = some r
  applied : e'.applied = e.applied + 1
  failures : e'.failures = 0

/-- the engine has the rules of before, and `attempts` failures less to come -/
structure LeftAlone (attempts : Nat) (e e' : MemoryEngine) : Prop where
  rules : ∀ tier, e'.table tier = e.table tier
  applied : e'.applied = e.applied
  failures : e'.failures = e.failures - attempts

/-- what is not about the rules of the tier is as before -/
structure SameBeside (tier : Tier) (e e' : MemoryEngine) : Prop where
  rules : ∀ tier', tier' ≠ tier → e'.table tier' = e.table tier'
  enabled : ∀ tier', e'.isEnabled tier' = e.isEnabled tier'

end MemoryEngine

theorem MemoryEngine.Synced.sameBeside {tier : Tier} {desired : List Rule} {e e' : MemoryEngine}
    (h : e.Synced tier desired e') : e.SameBeside tier e' where
  rules _ hne := h.table_of_ne hne.symm
  enabled := isEnabled_congr h.disabled

theorem MemoryEngine.Kept.sameBeside {e e' : MemoryEngine} (h : e.Kept e') (tier : Tier) :
    e.SameBeside tier e' where
  rules tier' _ := h.table tier'
  enabled := h.isEnabled

theorem Tier.inScope_eq_false_iff {tier : Tier} {id : RuleId} :
    tier.inScope id = false ↔ tier = .session ∧ IdRange.sessionIds.contains id = false := by
  cases tier with
  | static list => exact ⟨nofun, nofun⟩
  | dynamic => exact ⟨nofun, nofun⟩
  | session => exact ⟨fun h => ⟨rfl, h⟩, fun h => h.2⟩

theorem RuleTable.getElem?_reconciled_eq_some_iff {tier : Tier} {t : RuleTable}
    {desired : List Rule} (takes : tier.Takes desired) {id : RuleId} {r : Rule} :
    (t.reconciled tier desired)[id]? = some r ↔
      r ∈ desired ∧ r.id = id ∨
        tier = .session ∧ IdRange.sessionIds.contains id = false ∧ t[id]? = some r := by
  rw [reconciled, getElem?_insertAll ((fresh_foreign_iff takes.scope).mpr takes.nodup),
    getElem?_foreign, ← and_assoc, ← Tier.inScope_eq_false_iff, ← find?_key_eq_some_iff takes.nodup]
  cases hin : tier.inScope id with
  | true => simp
  | false =>
    rw [find?_out_of_scope takes.scope (by rw [hin]; exact Bool.false_ne_true)]
    simp

section
variable {tier : Tier} {desired : List Rule}

theorem Tier.Takes.of_session (distinct : (desired.map Rule.id).Nodup)
    (ours : tier = .session → ∀ r ∈ desired, IdRange.sessionIds.contains r.id = true) :
    tier.Takes desired where
  nodup := distinct
  scope r hr := by
    cases tier with
    | static list => rfl
    | dynamic => rfl
    | session => exact ours rfl r hr

/-- Bringing a tier to an engine succeeds as a whole, or leaves the rules as they are. Which of the
two it is depends on whether there are more attempts than failures to come. -/
theorem syncTier_all_or_nothing (retry : RetryPolicy) (w : Memory)
    (distinct : (desired.map Rule.id).Nodup)
    (ours : tier = .session → ∀ r ∈ desired, IdRange.sessionIds.contains r.id = true) :
    let attempts := max 1 retry.maxAttempts.toNat
    ∃ answer w', (syncTier (m := StateM Memory) tier desired retry).run w = (answer, w') ∧
      w.EngineStep w' ∧ w.engine.SameBeside tier w'.engine ∧
      (w.engine.failures < attempts →
        answer = .ok (reconcile tier desired (w.engine.table tier).ids) ∧
          w.engine.BroughtInLine tier desired w'.engine) ∧
      (attempts ≤ w.engine.failures →
        answer = .error (.engineApplyFailed tier attempts (.unavailable "injected failure")) ∧
          w.engine.LeftAlone attempts w'.engine) := by
  have takes : tier.Takes desired := .of_session distinct ours
  rw [Nat.max_comm, ← RetryPolicy.attempts]
  intro attempts
  rcases Nat.lt_or_ge w.engine.failures attempts with h | h
  · obtain ⟨w', hrun, he, hstep⟩ := syncTier_ok h takes
    have synced : w.engine.Synced tier desired w'.engine := ⟨by rw [he], by rw [he]; rfl⟩
    have inLine : w.engine.BroughtInLine tier desired w'.engine := by
      refine ⟨fun id r => ?_, by rw [he], by rw [he]; rfl⟩
      rw [synced.table, if_pos rfl, RuleTable.getElem?_reconciled_eq_some_iff takes]
    exact ⟨_, w', hrun, hstep, synced.sameBeside, fun _ => ⟨rfl, inLine⟩,
      fun hge => absurd h (Nat.not_lt.mpr hge)⟩
  · obtain ⟨w', hrun, he, hstep⟩ := syncTier_error desired h
    have kept : w.engine.Kept w'.engine := ⟨by rw [he]; rfl, by rw [he]; rfl⟩
    have alone : w.engine.LeftAlone attempts w'.engine :=
      ⟨kept.table, by rw [he]; rfl, by rw [he]; rfl⟩
    exact ⟨_, w', hrun, hstep, kept.sameBeside tier, fun hlt => absurd h (Nat.not_le.mpr hlt),
      fun _ => ⟨rfl, alone⟩⟩

end

/-- Two calls fail, and the third attempt comes through. The session rule of others stays. -/
theorem all_or_nothing_session :
    let r (id : RuleId) : Rule := ⟨id, 10000, .allow, {}, none⟩
    let desired := [r 900003, r 900002]
    let old := RuleTable.ofRules [r 5, r 900001]
    let w : Memory := { engine := { tables := .ofList [(Tier.session, old)], failures := 2 } }
    (desired.map Rule.id).Nodup ∧ (∀ r ∈ desired, IdRange.sessionIds.contains r.id = true) ∧
      ∃ w', (syncTier (m := StateM Memory) .session desired {}).run w =
          (.ok ⟨[900001], desired⟩, w') ∧
        w.engine.BroughtInLine .session desired w'.engine := by
  intro r desired old w
  have distinct : (desired.map Rule.id).Nodup := by decide
  have ours : ∀ r ∈ desired, IdRange.sessionIds.contains r.id = true := by decide
  obtain ⟨answer, w', hrun, -, -, hok, -⟩ :=
    @syncTier_all_or_nothing .session desired {} w distinct fun _ => ours
  obtain ⟨rfl, hline⟩ := hok (by decide)
  exact ⟨distinct, ours, w', hrun, hline⟩

end Blocklist
