import Blocklist.Coordinator
import Blocklist.Proofs.RuleTables

/-!
# What the operations of a rule store do

* `table_setTable`, `table_remove`, …   each operation as a change of one table;
* `RuleStore.add_eq_ok_iff`, `RuleStore.replaceAll_eq_ok_iff`   what is accepted, and what follows;
* `RuleStore.Fits`          rules that a tier takes instead of those it holds;
* `RuleStore.Admits`        a table that a tier may have: ids in range, no more than the capacity;
* `RuleStore.Sound`         a store whose tiers all have such tables;
* `rollBack_replaceAll`     taking back new rules leads to exactly the store of before;
* `RuleStore.Puts`          an operation that concerns one tier, and the table it leads to.
-/

namespace Blocklist.RuleStore

variable {s s' : RuleStore} {tier tier' : Tier} {t : RuleTable}

/-! ## one table at a time -/

theorem table_setTable (s : RuleStore) (tier tier' : Tier) (t : RuleTable) :
    (s.setTable tier t).table tier' = if tier = tier' then t else s.table tier' := by
  rw [table, setTable, Std.ExtTreeMap.getD_insert, table]
  simp only [Std.compare_eq_iff_eq]

theorem hasTier_setTable (s : RuleStore) (tier tier' : Tier) (t : RuleTable) :
    (s.setTable tier t).hasTier tier' = (decide (tier = tier') || s.hasTier tier') := by
  rw [hasTier, setTable, Std.ExtTreeMap.contains_insert, hasTier]
  congr 1
  by_cases h : tier = tier' <;> simp [h]

theorem setTable_setTable (s : RuleStore) (tier : Tier) (t t' : RuleTable) :
    (s.setTable tier t).setTable tier t' = s.setTable tier t' := by
  show { s with tiers := (s.tiers.insert tier t).insert tier t' } =
    { s with tiers := s.tiers.insert tier t' }
  congr 1
  apply Std.ExtTreeMap.ext_getElem?
  intro tier'
  rw [Std.ExtTreeMap.getElem?_insert, Std.ExtTreeMap.getElem?_insert,
    Std.ExtTreeMap.getElem?_insert]
  split <;> rfl

/-- a tier set to what it holds -/
theorem setTable_table (h : s.hasTier tier = true) : s.setTable tier (s.table tier) = s := by
  show { s with tiers := s.tiers.insert tier (s.table tier) } = s
  have htiers : s.tiers.insert tier (s.table tier) = s.tiers := by
    apply Std.ExtTreeMap.ext_getElem?
    intro tier'
    rw [Std.ExtTreeMap.getElem?_insert]
    split
    · rename_i heq
      rw [← Std.compare_eq_iff_eq.mp heq]
      exact (Std.ExtTreeMap.getElem?_eq_some_getD_of_contains h).symm
    · rfl
  rw [htiers]

/-- forgetting a tier that was set undoes that, if it was not there before -/
theorem erase_setTable (h : s.hasTier tier = false) :
    { s.setTable tier t with tiers := (s.setTable tier t).tiers.erase tier } = s := by
  show { s with tiers := (s.tiers.insert tier t).erase tier } = s
  have htiers : (s.tiers.insert tier t).erase tier = s.tiers := by
    apply Std.ExtTreeMap.ext_getElem?
    intro tier'
    rw [Std.ExtTreeMap.getElem?_erase, Std.ExtTreeMap.getElem?_insert]
    by_cases heq : compare tier tier' = .eq
    · rw [if_pos heq, ← Std.compare_eq_iff_eq.mp heq]
      exact (Std.ExtTreeMap.getElem?_eq_none (by
        rw [Std.ExtTreeMap.mem_iff_contains]
        exact fun hc => Bool.false_ne_true (h.symm.trans hc))).symm
    · rw [if_neg heq, if_neg heq]
  rw [htiers]

theorem table_of_hasTier_eq_false (h : s.hasTier tier = false) : s.table tier = ∅ :=
  Std.ExtTreeMap.getD_eq_fallback_of_contains_eq_false h

theorem hasTier_of_table_ne_empty (h : s.table tier ≠ ∅) : s.hasTier tier = true := by
  by_contra hnot
  exact h (table_of_hasTier_eq_false (Bool.eq_false_iff.mpr hnot))

theorem hasTier_of_count_pos (h : 0 < s.count tier) : s.hasTier tier = true := by
  refine hasTier_of_table_ne_empty fun hempty => ?_
  rw [count, hempty] at h
  exact absurd h (Nat.lt_irrefl 0)

theorem hasTier_of_rules_ne_nil (h : s.rules tier ≠ []) : s.hasTier tier = true := by
  refine hasTier_of_table_ne_empty fun hempty => h ?_
  rw [rules, hempty]
  rfl

/-! ## the allocator of dynamic ids is apart from the tables -/

section
variable (s : RuleStore) (tier tier' : Tier) (id : RuleId) (ids : List RuleId)

theorem table_reserveId : (s.reserveId tier id).table tier' = s.table tier' := by
  cases tier <;> rfl
theorem table_releaseId : (s.releaseId tier id).table tier' = s.table tier' := by
  cases tier <;> rfl
theorem table_resetIds : (s.resetIds tier ids).table tier' = s.table tier' := by
  cases tier <;> rfl
theorem hasTier_reserveId : (s.reserveId tier id).hasTier tier' = s.hasTier tier' := by
  cases tier <;> rfl
theorem hasTier_releaseId : (s.releaseId tier id).hasTier tier' = s.hasTier tier' := by
  cases tier <;> rfl
theorem hasTier_resetIds : (s.resetIds tier ids).hasTier tier' = s.hasTier tier' := by
  cases tier <;> rfl

theorem table_releaseDynamicId : (s.releaseDynamicId id).table tier' = s.table tier' := by
  rw [releaseDynamicId]
  split
  · rfl
  · exact table_releaseId s .dynamic tier' id

theorem hasTier_releaseDynamicId : (s.releaseDynamicId id).hasTier tier' = s.hasTier tier' := by
  rw [releaseDynamicId]
  split
  · rfl
  · exact hasTier_releaseId s .dynamic tier' id

end

/-! ## what is accepted -/

/-- the store after `tier` became populated, be it with no rule -/
def touch (s : RuleStore) (tier : Tier) : RuleStore := s.setTable tier (s.table tier)

theorem table_touch (s : RuleStore) (tier tier' : Tier) :
    (s.touch tier).table tier' = s.table tier' := by
  rw [touch, table_setTable]
  split
  · rename_i h
    rw [h]
  · rfl

theorem add_of_outside {rule : Rule} (h : (s.idRange tier).contains rule.id = false) :
    s.add tier rule = (.error (.idOutOfRange tier rule.id (s.idRange tier)), s) := by
  simp [add, h]

theorem add_of_inside {rule : Rule} (h : (s.idRange tier).contains rule.id = true) :
    s.add tier rule =
      if rule.id ∈ s.table tier then (.error (.duplicateId tier rule.id), s.touch tier)
      else if (s.table tier).size < s.capacity tier then
        (.ok (), ((s.touch tier).reserveId tier rule.id).setTable tier
          ((s.table tier).insert rule.id rule))
      else (.error (.capacityExceeded tier (s.capacity tier)), s.touch tier) := by
  rw [add, if_pos h]
  rfl

theorem add_eq_ok_iff {rule : Rule} :
    s.add tier rule = (.ok (), s') ↔
      (s.idRange tier).contains rule.id = true ∧ rule.id ∉ s.table tier ∧
        (s.table tier).size < s.capacity tier ∧
        s' = ((s.touch tier).reserveId tier rule.id).setTable tier
          ((s.table tier).insert rule.id rule) := by
  cases hc : (s.idRange tier).contains rule.id with
  | false =>
    rw [add_of_outside hc]
    simp
  | true =>
    rw [add_of_inside hc]
    by_cases hm : rule.id ∈ s.table tier
    · simp [hm]
    · rw [if_neg hm]
      by_cases hsize : (s.table tier).size < s.capacity tier
      · rw [if_pos hsize]
        simp [hm, hsize, eq_comm]
      · rw [if_neg hsize]
        simp [hsize]

/-- a rule that is refused leaves all tables as they are -/
theorem eq_or_eq_touch_of_add_eq_error {rule : Rule} {e : StoreError}
    (h : s.add tier rule = (.error e, s')) : s' = s ∨ s' = s.touch tier := by
  cases hc : (s.idRange tier).contains rule.id with
  | false =>
    rw [add_of_outside hc] at h
    exact .inl (Prod.mk.inj h).2.symm
  | true =>
    rw [add_of_inside hc] at h
    right
    split at h
    · exact (Prod.mk.inj h).2.symm
    · split at h
      · cases (Prod.mk.inj h).1
      · exact (Prod.mk.inj h).2.symm

theorem remove_eq (s : RuleStore) (tier : Tier) (id : RuleId) :
    (s.remove tier id).2 =
      if id ∈ s.table tier then (s.setTable tier ((s.table tier).erase id)).releaseId tier id
      else s := by
  rw [remove, get?]
  by_cases h : id ∈ s.table tier
  · rw [if_pos h, Std.ExtTreeMap.getElem?_eq_some_getElem h]
  · rw [if_neg h, Std.ExtTreeMap.getElem?_eq_none h]

theorem table_remove (s : RuleStore) (tier tier' : Tier) (id : RuleId) :
    (s.remove tier id).2.table tier' =
      if tier = tier' then (s.table tier).erase id else s.table tier' := by
  rw [remove_eq]
  by_cases h : id ∈ s.table tier
  · rw [if_pos h, table_releaseId, table_setTable]
  · rw [if_neg h]
    split
    · rename_i heq
      rw [← heq]
      exact (RuleTable.erase_of_not_mem h).symm
    · rfl

theorem replaceAll_eq_ok_iff {rs prev : List Rule} :
    s.replaceAll tier rs = .ok (prev, s') ↔
      rs.length ≤ s.capacity tier ∧ (∀ r ∈ rs, (s.idRange tier).contains r.id = true) ∧
        (rs.map Rule.id).Nodup ∧ prev = s.rules tier ∧
        s' = (s.resetIds tier (RuleTable.insertAll ∅ rs).keys).setTable tier
          (RuleTable.insertAll ∅ rs) := by
  rw [replaceAll]
  by_cases hcap : s.capacity tier < rs.length
  · rw [if_pos hcap]
    simp only [reduceCtorEq, false_iff]
    exact fun h => absurd h.1 (Nat.not_le.mpr hcap)
  · rw [if_neg hcap]
    cases ht : tableOf tier (s.idRange tier) ∅ rs with
    | error e =>
      simp only [reduceCtorEq, false_iff]
      rintro ⟨-, hrange, hnd, -, -⟩
      have hok : tableOf tier (s.idRange tier) ∅ rs = .ok (RuleTable.insertAll ∅ rs) :=
        tableOf_eq_ok_iff.mpr ⟨hrange, RuleTable.fresh_empty_iff.mpr hnd, rfl⟩
      rw [ht] at hok
      cases hok
    | ok t =>
      obtain ⟨hrange, hfresh, rfl⟩ := tableOf_eq_ok_iff.mp ht
      simp only [Except.ok.injEq, Prod.mk.injEq]
      constructor
      · rintro ⟨rfl, rfl⟩
        exact ⟨Nat.not_lt.mp hcap, hrange, hfresh.nodup, rfl, rfl⟩
      · rintro ⟨-, -, -, rfl, rfl⟩
        exact ⟨rfl, rfl⟩

/-- rules that a tier takes instead of those it holds -/
structure Fits (s : RuleStore) (tier : Tier) (rs : List Rule) : Prop where
  length_le : rs.length ≤ s.capacity tier
  inRange : ∀ r ∈ rs, (s.idRange tier).contains r.id = true
  nodup : (rs.map Rule.id).Nodup

theorem Fits.replaceAll_eq {rs : List Rule} (h : s.Fits tier rs) :
    s.replaceAll tier rs = .ok (s.rules tier,
      (s.resetIds tier (RuleTable.insertAll ∅ rs).keys).setTable tier (RuleTable.insertAll ∅ rs)) :=
  replaceAll_eq_ok_iff.mpr ⟨h.length_le, h.inRange, h.nodup, rfl, rfl⟩

theorem exists_replaceAll_eq_ok_iff {rs : List Rule} :
    (∃ answer, s.replaceAll tier rs = .ok answer) ↔ s.Fits tier rs := by
  constructor
  · rintro ⟨⟨prev, s'⟩, h⟩
    obtain ⟨hlen, hrange, hnd, -, -⟩ := replaceAll_eq_ok_iff.mp h
    exact ⟨hlen, hrange, hnd⟩
  · exact fun h => ⟨_, h.replaceAll_eq⟩

/-! ## stores whose tables fit -/

/-- a table that `tier` may have -/
structure Admits (s : RuleStore) (tier : Tier) (t : RuleTable) : Prop where
  keyed : t.Keyed
  inRange : ∀ id, id ∈ t → (s.idRange tier).contains id = true
  size_le : t.size ≤ s.capacity tier

def Sound (s : RuleStore) : Prop := ∀ tier, s.Admits tier (s.table tier)

/-- two stores with the same windows and limits -/
structure SameBounds (s s' : RuleStore) : Prop where
  windows : s'.windows = s.windows
  limits : s'.limits = s.limits

namespace SameBounds

theorem refl (s : RuleStore) : SameBounds s s := ⟨rfl, rfl⟩

theorem trans {s₁ s₂ s₃ : RuleStore} (h : SameBounds s₁ s₂) (h' : SameBounds s₂ s₃) :
    SameBounds s₁ s₃ := ⟨h'.windows.trans h.windows, h'.limits.trans h.limits⟩

theorem symm (h : SameBounds s s') : SameBounds s' s := ⟨h.windows.symm, h.limits.symm⟩

theorem idRange_eq (h : SameBounds s s') (tier : Tier) : s'.idRange tier = s.idRange tier := by
  cases tier with
  | static l => rw [idRange, idRange, h.windows]
  | dynamic => rfl
  | session => rfl

theorem capacity_eq (h : SameBounds s s') (tier : Tier) : s'.capacity tier = s.capacity tier := by
  simp only [capacity, h.idRange_eq, h.limits]

theorem admits (h : SameBounds s s') (ha : s.Admits tier t) : s'.Admits tier t where
  keyed := ha.keyed
  inRange id hid := by rw [h.idRange_eq]; exact ha.inRange id hid
  size_le := by rw [h.capacity_eq]; exact ha.size_le

/-- one table at a time changes, to one that its tier may have -/
theorem sound (h : SameBounds s s') (hs : s.Sound)
    (ht : ∀ tier, s'.table tier = s.table tier ∨ s.Admits tier (s'.table tier)) : s'.Sound := by
  intro tier
  rcases ht tier with heq | ha
  · rw [heq]
    exact h.admits (hs tier)
  · exact h.admits ha

theorem setTable (s : RuleStore) (tier : Tier) (t : RuleTable) : SameBounds s (s.setTable tier t) :=
  ⟨rfl, rfl⟩
theorem reserveId (s : RuleStore) (tier : Tier) (id : RuleId) :
    SameBounds s (s.reserveId tier id) := by
  cases tier <;> exact ⟨rfl, rfl⟩
theorem releaseId (s : RuleStore) (tier : Tier) (id : RuleId) :
    SameBounds s (s.releaseId tier id) := by
  cases tier <;> exact ⟨rfl, rfl⟩
theorem resetIds (s : RuleStore) (tier : Tier) (ids : List RuleId) :
    SameBounds s (s.resetIds tier ids) := by
  cases tier <;> exact ⟨rfl, rfl⟩

theorem releaseDynamicId (s : RuleStore) (id : RuleId) : SameBounds s (s.releaseDynamicId id) := by
  rw [RuleStore.releaseDynamicId]
  split
  · exact refl s
  · exact releaseId s .dynamic id

theorem remove (s : RuleStore) (tier : Tier) (id : RuleId) : SameBounds s (s.remove tier id).2 := by
  rw [remove_eq]
  split
  · exact (setTable s tier _).trans (releaseId _ tier id)
  · exact refl s

end SameBounds

/-! ### each operation keeps stores sound -/

theorem admits_empty (s : RuleStore) (tier : Tier) : s.Admits tier ∅ where
  keyed := RuleTable.keyed_empty
  inRange _ h := absurd h Std.ExtTreeMap.not_mem_empty
  size_le := by simp

theorem Admits.insert {rule : Rule} (h : s.Admits tier t)
    (hr : (s.idRange tier).contains rule.id = true) (hm : rule.id ∉ t)
    (hsize : t.size < s.capacity tier) : s.Admits tier (t.insert rule.id rule) where
  keyed := h.keyed.insert rule
  inRange id hid := by
    rcases Std.ExtTreeMap.mem_insert.mp hid with heq | hid
    · rw [← Std.compare_eq_iff_eq.mp heq]
      exact hr
    · exact h.inRange id hid
  size_le := by
    rw [Std.ExtTreeMap.size_insert]
    simp only [Std.ExtTreeMap.contains_iff_mem, hm, if_false]
    exact hsize

theorem Admits.erase (h : s.Admits tier t) (id : RuleId) : s.Admits tier (t.erase id) where
  keyed := h.keyed.erase id
  inRange id' hid := h.inRange id' (Std.ExtTreeMap.mem_of_mem_erase hid)
  size_le := Nat.le_trans Std.ExtTreeMap.size_erase_le h.size_le

theorem admits_insertAll {rs : List Rule} (hlen : rs.length ≤ s.capacity tier)
    (hrange : ∀ r ∈ rs, (s.idRange tier).contains r.id = true) (hnd : (rs.map Rule.id).Nodup) :
    s.Admits tier (RuleTable.insertAll ∅ rs) where
  keyed := RuleTable.keyed_empty.insertAll rs
  inRange id hid := by
    obtain ⟨r, hr, rfl⟩ := List.mem_map.mp ((RuleTable.mem_insertAll_empty hnd).mp hid)
    exact hrange r hr
  size_le := by
    rw [RuleTable.size_insertAll (RuleTable.fresh_empty_iff.mpr hnd), Std.ExtTreeMap.size_empty]
    omega

theorem Sound.setTable (hs : s.Sound) (ha : s.Admits tier t) : (s.setTable tier t).Sound := by
  refine (SameBounds.setTable s tier t).sound hs fun tier' => ?_
  rw [table_setTable]
  split
  · rename_i heq
    exact .inr (heq ▸ ha)
  · exact .inl rfl

theorem Sound.touch (hs : s.Sound) (tier : Tier) : (s.touch tier).Sound := hs.setTable (hs tier)

theorem Sound.reserveId (hs : s.Sound) (tier : Tier) (id : RuleId) : (s.reserveId tier id).Sound :=
  (SameBounds.reserveId s tier id).sound hs fun tier' => .inl (table_reserveId s tier tier' id)

theorem SameBounds.add (s : RuleStore) (tier : Tier) (rule : Rule) :
    SameBounds s (s.add tier rule).2 := by
  rcases h : s.add tier rule with ⟨e | u, s'⟩
  · rcases eq_or_eq_touch_of_add_eq_error h with rfl | rfl
    · exact refl s'
    · exact setTable s tier _
  · obtain ⟨-, -, -, rfl⟩ := add_eq_ok_iff.mp h
    exact ((setTable s tier _).trans (reserveId _ tier rule.id)).trans (setTable _ tier _)

theorem Sound.add (hs : s.Sound) (tier : Tier) (rule : Rule) : (s.add tier rule).2.Sound := by
  rcases h : s.add tier rule with ⟨e | u, s'⟩
  · rcases eq_or_eq_touch_of_add_eq_error h with rfl | rfl
    · exact hs
    · exact hs.touch tier
  · obtain ⟨hr, hm, hsize, rfl⟩ := add_eq_ok_iff.mp h
    have bounds := (SameBounds.setTable s tier (s.table tier)).trans
      (SameBounds.reserveId (s.touch tier) tier rule.id)
    exact ((hs.touch tier).reserveId tier rule.id).setTable
      (bounds.admits ((hs tier).insert hr hm hsize))

theorem Sound.remove (hs : s.Sound) (tier : Tier) (id : RuleId) : (s.remove tier id).2.Sound := by
  refine (SameBounds.remove s tier id).sound hs fun tier' => ?_
  rw [table_remove]
  split
  · rename_i heq
    exact .inr (heq ▸ (hs tier).erase id)
  · exact .inl rfl

section
variable {rs prev : List Rule} (h : s.replaceAll tier rs = .ok (prev, s'))
include h

theorem SameBounds.replaceAll : SameBounds s s' := by
  obtain ⟨-, -, -, -, rfl⟩ := replaceAll_eq_ok_iff.mp h
  exact (resetIds s tier _).trans (setTable _ tier _)

theorem table_replaceAll (tier' : Tier) :
    s'.table tier' = if tier = tier' then RuleTable.insertAll ∅ rs else s.table tier' := by
  obtain ⟨-, -, -, -, rfl⟩ := replaceAll_eq_ok_iff.mp h
  rw [table_setTable, table_resetIds]

theorem hasTier_replaceAll (tier' : Tier) :
    s'.hasTier tier' = (decide (tier = tier') || s.hasTier tier') := by
  obtain ⟨-, -, -, -, rfl⟩ := replaceAll_eq_ok_iff.mp h
  rw [hasTier_setTable, hasTier_resetIds]

theorem Sound.replaceAll (hs : s.Sound) : s'.Sound := by
  obtain ⟨hlen, hrange, hnd, -, -⟩ := replaceAll_eq_ok_iff.mp h
  refine (SameBounds.replaceAll h).sound hs fun tier' => ?_
  rw [table_replaceAll h]
  split
  · rename_i heq
    exact .inr (heq ▸ admits_insertAll hlen hrange hnd)
  · exact .inl rfl

end

/-! ## taking new rules back -/

/-- what a tier may have, it takes -/
theorem Admits.fits (h : s.Admits tier t) : s.Fits tier t.rules where
  length_le := by
    rw [RuleTable.length_rules]
    exact h.size_le
  inRange r hr := by
    apply h.inRange
    rw [Std.ExtTreeMap.mem_iff_isSome_getElem?, h.keyed.mem_rules_iff.mp hr]
    rfl
  nodup := h.keyed.nodup_rules

/-- and then it holds just that -/
theorem Admits.replaceAll_rules (h : s.Admits tier t) :
    s.replaceAll tier t.rules =
      .ok (s.rules tier, (s.resetIds tier t.keys).setTable tier t) := by
  rw [h.fits.replaceAll_eq, h.keyed.insertAll_rules]

theorem rollBack_replaceAll {rs prev : List Rule} (hs : s.Sound) (list : String)
    (h : s.replaceAll (.static list) rs = .ok (prev, s')) :
    Coordinator.rollBack s' (.static list) (s.hasTier (.static list)) prev = s := by
  have bounds := SameBounds.replaceAll h
  obtain ⟨-, -, -, rfl, hnext⟩ := replaceAll_eq_ok_iff.mp h
  have hnext : s' = s.setTable (.static list) (RuleTable.insertAll ∅ rs) := hnext
  rw [Coordinator.rollBack]
  cases hl : s.hasTier (.static list) with
  | true =>
    have hback : s'.replaceAll (.static list) (s.rules (.static list)) =
        .ok (s'.rules (.static list), s'.setTable (.static list) (s.table (.static list))) :=
      (bounds.admits (hs (.static list))).replaceAll_rules
    rw [if_pos rfl, hback]
    show s'.setTable (.static list) (s.table (.static list)) = s
    rw [hnext, setTable_setTable, setTable_table hl]
  | false =>
    rw [if_neg Bool.false_ne_true, hnext]
    exact erase_setTable hl

/-! ## one tier at a time -/

/-- `s'` is `s` with the table `t` for `tier`; other tables and all bounds are those of before -/
structure Puts (s : RuleStore) (tier : Tier) (t : RuleTable) (s' : RuleStore) : Prop where
  table : s'.table tier = t
  table_of_ne : ∀ tier', tier ≠ tier' → s'.table tier' = s.table tier'
  hasTier_of_ne : ∀ tier', tier ≠ tier' → s'.hasTier tier' = s.hasTier tier'
  bounds : SameBounds s s'

namespace Puts

theorem refl (s : RuleStore) (tier : Tier) : s.Puts tier (s.table tier) s :=
  ⟨rfl, fun _ _ => rfl, fun _ _ => rfl, .refl s⟩

theorem trans {t t' : RuleTable} {s₁ s₂ s₃ : RuleStore} (h : s₁.Puts tier t s₂)
    (h' : s₂.Puts tier t' s₃) : s₁.Puts tier t' s₃ where
  table := h'.table
  table_of_ne tier' hne := (h'.table_of_ne tier' hne).trans (h.table_of_ne tier' hne)
  hasTier_of_ne tier' hne := (h'.hasTier_of_ne tier' hne).trans (h.hasTier_of_ne tier' hne)
  bounds := h.bounds.trans h'.bounds

/-- the store is sound again if the new table fits -/
theorem sound (h : s.Puts tier t s') (hs : s.Sound) (ha : s.Admits tier t) : s'.Sound := by
  refine h.bounds.sound hs fun tier' => ?_
  by_cases hne : tier = tier'
  · subst hne
    exact .inr (h.table ▸ ha)
  · exact .inl (h.table_of_ne tier' hne)

end Puts

theorem puts_add_ok {rule : Rule} (h : s.add tier rule = (.ok (), s')) :
    s.Puts tier ((s.table tier).insert rule.id rule) s' := by
  have bounds : SameBounds s s' := by
    have h' := SameBounds.add s tier rule
    rwa [h] at h'
  obtain ⟨-, -, -, rfl⟩ := add_eq_ok_iff.mp h
  refine ⟨?_, fun tier' hne => ?_, fun tier' hne => ?_, bounds⟩
  · rw [table_setTable, if_pos rfl]
  · rw [table_setTable, if_neg hne, table_reserveId, table_touch]
  · rw [hasTier_setTable, hasTier_reserveId, touch, hasTier_setTable, decide_eq_false hne,
      Bool.false_or, Bool.false_or]

theorem puts_add_error {rule : Rule} {e : StoreError} (h : s.add tier rule = (.error e, s')) :
    s.Puts tier (s.table tier) s' := by
  rcases eq_or_eq_touch_of_add_eq_error h with rfl | rfl
  · exact .refl s' tier
  · refine ⟨table_touch s tier tier, fun tier' _ => table_touch s tier tier', fun tier' hne => ?_,
      SameBounds.setTable s tier _⟩
    rw [touch, hasTier_setTable, decide_eq_false hne, Bool.false_or]

theorem puts_remove (s : RuleStore) (tier : Tier) (id : RuleId) :
    s.Puts tier ((s.table tier).erase id) (s.remove tier id).2 := by
  refine ⟨?_, fun tier' hne => ?_, fun tier' hne => ?_, SameBounds.remove s tier id⟩
  · rw [table_remove, if_pos rfl]
  · rw [table_remove, if_neg hne]
  · rw [remove_eq]
    split
    · rw [hasTier_releaseId, hasTier_setTable, decide_eq_false hne, Bool.false_or]
    · rfl

theorem puts_replaceAll {rs prev : List Rule} (h : s.replaceAll tier rs = .ok (prev, s')) :
    s.Puts tier (RuleTable.insertAll ∅ rs) s' := by
  refine ⟨?_, fun tier' hne => ?_, fun tier' hne => ?_, SameBounds.replaceAll h⟩
  · rw [table_replaceAll h, if_pos rfl]
  · rw [table_replaceAll h, if_neg hne]
  · rw [hasTier_replaceAll h, decide_eq_false hne, Bool.false_or]

theorem puts_dropTier (s : RuleStore) (tier : Tier) : s.Puts tier ∅ (s.dropTier tier).2 := by
  have table : ∀ tier', (s.dropTier tier).2.table tier' =
      if tier = tier' then ∅ else s.table tier' := by
    intro tier'
    rw [dropTier, table_resetIds]
    show (s.tiers.erase tier).getD tier' ∅ = _
    rw [Std.ExtTreeMap.getD_erase]
    simp only [Std.compare_eq_iff_eq]
    rfl
  refine ⟨?_, fun tier' hne => ?_, fun tier' hne => ?_, ?_⟩
  · rw [table, if_pos rfl]
  · rw [table, if_neg hne]
  · rw [dropTier, hasTier_resetIds]
    show (s.tiers.erase tier).contains tier' = _
    rw [Std.ExtTreeMap.contains_erase, hasTier]
    simp [hne]
  · have hbounds := SameBounds.resetIds { s with tiers := s.tiers.erase tier } tier []
    exact ⟨hbounds.windows, hbounds.limits⟩

theorem puts_releaseDynamicId (s : RuleStore) (tier : Tier) (id : RuleId) :
    s.Puts tier (s.table tier) (s.releaseDynamicId id) :=
  ⟨table_releaseDynamicId s tier id, fun tier' _ => table_releaseDynamicId s tier' id,
    fun tier' _ => hasTier_releaseDynamicId s tier' id, SameBounds.releaseDynamicId s id⟩

theorem puts_allocateDynamicId {id : RuleId} (tier : Tier)
    (h : s.allocateDynamicId = .ok (id, s')) : s.Puts tier (s.table tier) s' := by
  rw [allocateDynamicId] at h
  split at h
  · injection h with h
    injection h with _ h
    subst h
    exact ⟨rfl, fun _ _ => rfl, fun _ _ => rfl, ⟨rfl, rfl⟩⟩
  · cases h

/-! ## new stores -/

theorem tiers_registerWindows (c : Coordinator) (s : RuleStore) :
    (c.registerWindows s).tiers = s.tiers := by
  show (c.lists.foldl (fun store l => store.register l.id l.window) s).tiers = s.tiers
  induction c.lists generalizing s with
  | nil => rfl
  | cons l ls ih => exact ih (s.register l.id l.window)

section
variable (c : Coordinator) (limits : CapacityLimits)

theorem hasTier_registerWindows_new (tier : Tier) :
    (c.registerWindows (.new limits)).hasTier tier = false := by
  rw [hasTier, tiers_registerWindows]
  rfl

theorem table_registerWindows_new (tier : Tier) :
    (c.registerWindows (.new limits)).table tier = ∅ :=
  table_of_hasTier_eq_false (hasTier_registerWindows_new c limits tier)

theorem sound_registerWindows_new : (c.registerWindows (.new limits)).Sound := by
  intro tier
  rw [table_registerWindows_new]
  exact admits_empty _ tier

end

end Blocklist.RuleStore
