import Blocklist.Proofs.IdNamespaces

/-!
# Replacing the rules of a tier

All rules of a tier are replaced at once. A tier takes the new ones if there are not too many, their
ids are in its range and no id comes twice; otherwise the answer is the first thing that is wrong.
The answer to a tier that takes them is what it held, and that it takes again at any later time.

* `RuleStore.Confined`             stores in which the window of a tier came before its rules;
* `RuleStore.Confined.admits`      what such a tier holds is within its bounds;
* `RuleStore.FirstFault`           the first rule that is out of range or repeats an id;
* `RuleStore.replaceAll_eq_error`  what is wrong with rules that are refused;
* `RuleStore.Swapped`              what is there after rules were replaced;
* `RuleStore.Confined.exact_swap`  when a tier takes rules, and what follows either way.
-/

namespace Blocklist.RuleStore

variable {s s' : RuleStore} {tier : Tier} {rs : List Rule} {e : StoreError}

/-! ## tiers whose window came first -/

/-- A store that any operations lead to, where the window of `tier` does not change while it has
rules. -/
inductive Confined (tier : Tier) : RuleStore → Prop where
  | new (limits : CapacityLimits) : Confined tier (.new limits)
  | register {s : RuleStore} (h : Confined tier s) (list : String) (window : IdRange)
      (hwindow : tier = .static list → s.rules tier = [] ∨ s.idRange tier = window) :
      Confined tier (s.register list window)
  | step {s : RuleStore} (h : Confined tier s) (op : Operation) : Confined tier (op.run s)

theorem table_eq_empty_of_rules (h : s.rules tier = []) : s.table tier = ∅ := by
  rw [Std.ExtTreeMap.eq_empty_iff_size_eq_zero, ← RuleTable.length_rules]
  exact List.length_eq_zero_iff.mpr h

theorem idRange_register (s : RuleStore) (list : String) (window : IdRange) (tier : Tier) :
    (s.register list window).idRange tier =
      if tier = .static list then window else s.idRange tier := by
  cases tier with
  | static list' =>
    show (s.windows.insert list window).getD list' .staticIds = _
    rw [Std.ExtTreeMap.getD_insert]
    simp only [Std.compare_eq_iff_eq, Tier.static.injEq, eq_comm (a := list')]
    rfl
  | dynamic => rfl
  | session => rfl

/-- Rules that were stored after the window of their tier was registered are within its bounds. -/
theorem Confined.admits (h : Confined tier s) : s.Admits tier (s.table tier) := by
  induction h with
  | new limits => exact admits_empty _ tier
  | @register s h list window hwindow ih =>
    by_cases hempty : s.rules tier = []
    · have htable : (s.register list window).table tier = ∅ := table_eq_empty_of_rules hempty
      rw [htable]
      exact admits_empty _ tier
    · have hrange : (s.register list window).idRange tier = s.idRange tier := by
        rw [idRange_register]
        split
        · next hlist => exact ((hwindow hlist).resolve_left hempty).symm
        · rfl
      have hcapacity : (s.register list window).capacity tier = s.capacity tier := by
        simp only [capacity, hrange]
        rfl
      refine ⟨ih.keyed, fun id hid => ?_, ?_⟩
      · rw [hrange]
        exact ih.inRange id hid
      · rw [hcapacity]
        exact ih.size_le
  | @step s h op ih =>
    obtain ⟨t, puts, admits⟩ := op.leads s
    by_cases htier : op.tier = tier
    · subst htier
      rw [puts.table]
      exact puts.bounds.admits (admits ih)
    · rw [puts.table_of_ne tier htier]
      exact puts.bounds.admits ih

/-! ## rules that are refused -/

/-- ids that are in the range and distinct -/
structure WellNumbered (range : IdRange) (rs : List Rule) : Prop where
  inRange : ∀ r ∈ rs, range.contains r.id = true
  nodup : (rs.map Rule.id).Nodup

theorem wellNumbered_nil (range : IdRange) : WellNumbered range [] := ⟨nofun, List.nodup_nil⟩

theorem WellNumbered.concat {range : IdRange} {r : Rule} (h : WellNumbered range rs)
    (hrange : range.contains r.id = true) (hnew : r.id ∉ rs.map Rule.id) :
    WellNumbered range (rs ++ [r]) where
  inRange r' hr' := by
    rcases List.mem_append.mp hr' with hr' | hr'
    · exact h.inRange r' hr'
    · rw [List.mem_singleton.mp hr']
      exact hrange
  nodup := by
    rw [List.map_append, List.map_singleton, List.nodup_append_comm, List.singleton_append,
      List.nodup_cons]
    exact ⟨hnew, h.nodup⟩

/-- The first rule that is out of range or repeats the id of an earlier one, as an error. -/
inductive FirstFault (tier : Tier) (range : IdRange) : List Rule → StoreError → Prop where
  | outOfRange {before : List Rule} {r : Rule} (after : List Rule)
      (hbefore : WellNumbered range before) (hrange : range.contains r.id = false) :
      FirstFault tier range (before ++ r :: after) (.idOutOfRange tier r.id range)
  | repeated {before : List Rule} {r : Rule} (after : List Rule)
      (hbefore : WellNumbered range before) (hrange : range.contains r.id = true)
      (hold : r.id ∈ before.map Rule.id) :
      FirstFault tier range (before ++ r :: after) (.duplicateId tier r.id)

/-- `before` are the rules that are in the table already -/
theorem firstFault_of_tableOf {range : IdRange} {before : List Rule}
    (hbefore : WellNumbered range before)
    (h : tableOf tier range (RuleTable.insertAll ∅ before) rs = .error e) :
    FirstFault tier range (before ++ rs) e := by
  induction rs generalizing before with
  | nil => cases h
  | cons r rs ih =>
    rw [tableOf] at h
    cases hrange : range.contains r.id with
    | false =>
      rw [hrange, if_neg Bool.false_ne_true] at h
      cases h
      exact .outOfRange rs hbefore hrange
    | true =>
      rw [if_pos hrange] at h
      by_cases hold : r.id ∈ before.map Rule.id
      · rw [if_pos ((RuleTable.mem_insertAll_empty hbefore.nodup).mpr hold)] at h
        cases h
        exact .repeated rs hbefore hrange hold
      · rw [if_neg fun hmem => hold ((RuleTable.mem_insertAll_empty hbefore.nodup).mp hmem)] at h
        have htable : RuleTable.insertAll ∅ (before ++ [r]) =
            (RuleTable.insertAll ∅ before).insert r.id r := List.foldl_concat _ _ _ _
        rw [← htable] at h
        have hfault := ih (hbefore.concat hrange hold) h
        rwa [List.append_assoc] at hfault

theorem replaceAll_eq_error (h : s.replaceAll tier rs = .error e) :
    if s.capacity tier < rs.length then e = .capacityExceeded tier (s.capacity tier)
    else FirstFault tier (s.idRange tier) rs e := by
  rw [replaceAll] at h
  split
  · next hlong =>
    rw [if_pos hlong] at h
    exact (Except.error.inj h).symm
  · next hlong =>
    rw [if_neg hlong] at h
    split at h
    · next htable =>
      cases h
      exact firstFault_of_tableOf (wellNumbered_nil _) htable
    · cases h

/-! ## before and after -/

/-- the store `s'` has the rules `rs` in the tier, where `s` had the rules `prev` -/
structure Swapped (s : RuleStore) (tier : Tier) (rs prev : List Rule) (s' : RuleStore) : Prop where
  previous : prev = s.rules tier
  previous_ascending : prev.Pairwise fun a b => a.id < b.id
  rules : (s'.rules tier).Perm rs
  ascending : (s'.rules tier).Pairwise fun a b => a.id < b.id
  loaded : s'.hasTier tier = true
  others : ∀ tier', tier ≠ tier' →
    s'.table tier' = s.table tier' ∧ s'.hasTier tier' = s.hasTier tier'
  /-- The rules of before are taken again, at once or in any later store with the same bounds. -/
  back : ∀ s₁, SameBounds s' s₁ → ∃ s₂, s₁.replaceAll tier prev = .ok (s₁.rules tier, s₂) ∧
    s₂.rules tier = prev ∧ s₂.table tier = s.table tier

/-- when a tier takes rules, and what comes of it -/
structure Swaps (s : RuleStore) (tier : Tier) (rs : List Rule) : Prop where
  takes_iff : (∃ answer, s.replaceAll tier rs = .ok answer) ↔ s.Fits tier rs
  taken : ∀ prev s', s.replaceAll tier rs = .ok (prev, s') → s.Swapped tier rs prev s'
  refused : ∀ e, s.replaceAll tier rs = .error e →
    if s.capacity tier < rs.length then e = .capacityExceeded tier (s.capacity tier)
    else FirstFault tier (s.idRange tier) rs e

theorem Admits.swapped {prev : List Rule} (admits : s.Admits tier (s.table tier))
    (h : s.replaceAll tier rs = .ok (prev, s')) : s.Swapped tier rs prev s' := by
  have puts := puts_replaceAll h
  obtain ⟨-, -, hnd, rfl, -⟩ := replaceAll_eq_ok_iff.mp h
  have hrules : s'.rules tier = (RuleTable.insertAll ∅ rs).rules := by
    rw [RuleStore.rules, puts.table]
  constructor
  case previous => rfl
  case previous_ascending => exact admits.keyed.sorted_rules
  case rules =>
    rw [hrules]
    exact RuleTable.rules_insertAll_perm hnd
  case ascending =>
    rw [hrules]
    exact (RuleTable.keyed_empty.insertAll rs).sorted_rules
  case loaded => rw [hasTier_replaceAll h, decide_eq_true rfl, Bool.true_or]
  case others =>
    exact fun tier' hne => ⟨puts.table_of_ne tier' hne, puts.hasTier_of_ne tier' hne⟩
  case back =>
    intro s₁ bounds
    have hback := ((puts.bounds.trans bounds).admits admits).replaceAll_rules
    have htable := (puts_replaceAll hback).table
    rw [admits.keyed.insertAll_rules] at htable
    refine ⟨_, hback, ?_, htable⟩
    rw [RuleStore.rules, htable]
    rfl

/-- Replacing the rules of a tier is exact, and it can be taken back. -/
theorem Confined.exact_swap (h : Confined tier s) (rs : List Rule) : s.Swaps tier rs where
  takes_iff := exists_replaceAll_eq_ok_iff
  taken _ _ := h.admits.swapped
  refused _ := replaceAll_eq_error

/-- A list is confined to its window and has a rule; two others take its place, in the wrong order. -/
theorem exact_swap_default :
    let r (id : RuleId) : Rule := ⟨id, 1, .block, {}, none⟩
    let s := Operation.run ((RuleStore.new {}).register "easylist" ⟨1, 50000⟩)
      (.add (.static "easylist") (r 7))
    Confined (.static "easylist") s ∧ s.Swaps (.static "easylist") [r 9, r 3] ∧
      ∃ s', s.replaceAll (.static "easylist") [r 9, r 3] = .ok ([r 7], s') ∧
        s'.rules (.static "easylist") = [r 3, r 9] := by
  intro r s
  have confined : Confined (.static "easylist") s :=
    .step (.register (.new {}) "easylist" ⟨1, 50000⟩ fun _ => .inl rfl) _
  exact ⟨confined, confined.exact_swap [r 9, r 3], _, rfl, rfl⟩

end Blocklist.RuleStore
