import Blocklist.Proofs.FreeIds
import Blocklist.Proofs.IdNamespaces
import Blocklist.Proofs.IssuedIds

/-!
# Dynamic ids are handed out once

The tables of a store and its allocator are changed apart from each other. Still the ids of dynamic
rules are issued at any time, so that an id is handed out again only after it was taken back.

* `Operation.TakesBack`, `Operation.Gives`   the ids that an operation takes back, and that it issues;
* `RuleStore.Changed`              what an operation does to the issued ids and to the dynamic rules;
* `RuleStore.Issuing`              the ids of dynamic rules are issued, and only dynamic ids are;
* `RuleStore.Evolved`, `RuleStore.HandedOut`
                                   runs, and ids handed out on them and not taken back;
* `RuleStore.Evolved.ids_distinct` what is handed out is not in use, and when there is nothing left.
-/

namespace Blocklist.RuleStore

variable {s s' : RuleStore} {id : RuleId}

/-! ## what operations do to the issued ids -/

namespace Operation

/-- the operation takes the id back: it is released, or its rule goes -/
def TakesBack (s : RuleStore) (id : RuleId) : Operation → Prop
  | remove tier id' => tier = .dynamic ∧ id' = id ∧ id ∈ s.table .dynamic
  | releaseDynamicId id' => id' = id ∧ id ∉ s.table .dynamic
  | replaceAll tier rules => tier = .dynamic ∧ ∃ answer, s.replaceAll tier rules = .ok answer
  | dropTier tier => tier = .dynamic
  | add .. | allocateDynamicId => False

/-- the operation issues the id: it is handed out, or a rule comes with it -/
def Gives (s : RuleStore) (id : RuleId) : Operation → Prop
  | add tier rule => tier = .dynamic ∧ rule.id = id ∧ (s.add tier rule).1 = .ok ()
  | replaceAll tier rules =>
    tier = .dynamic ∧ id ∈ rules.map Rule.id ∧ ∃ answer, s.replaceAll tier rules = .ok answer
  | allocateDynamicId => ∃ s', s.allocateDynamicId = .ok (id, s')
  | remove .. | dropTier _ | releaseDynamicId _ => False

theorem not_takesBack_of_ne {op : Operation} (h : op.tier ≠ .dynamic) : ¬ op.TakesBack s id := by
  cases op with
  | add tier rule => exact not_false
  | remove tier id' => exact fun hop => h hop.1
  | replaceAll tier rules => exact fun hop => h hop.1
  | dropTier tier => exact h
  | allocateDynamicId => exact not_false
  | releaseDynamicId id' => exact absurd rfl h

theorem not_gives_of_ne {op : Operation} (h : op.tier ≠ .dynamic) : ¬ op.Gives s id := by
  cases op with
  | add tier rule => exact fun hop => h hop.1
  | remove tier id' => exact not_false
  | replaceAll tier rules => exact fun hop => h hop.1
  | dropTier tier => exact not_false
  | allocateDynamicId => exact absurd rfl h
  | releaseDynamicId id' => exact not_false

end Operation

/-- what an operation does to the issued ids and to the dynamic rules -/
structure Changed (s : RuleStore) (op : Operation) (s' : RuleStore) : Prop where
  range : s'.dynamicIds.range = s.dynamicIds.range
  issued : ∀ id, id ∈ s'.dynamicIds.issued ↔
    id ∈ s.dynamicIds.issued ∧ ¬ op.TakesBack s id ∨ op.Gives s id
  stored : ∀ id, id ∈ s'.table .dynamic →
    id ∈ s.table .dynamic ∧ ¬ op.TakesBack s id ∨ op.Gives s id

/-- the ids of dynamic rules are issued, and only dynamic ids are -/
structure Issuing (s : RuleStore) : Prop where
  range : s.dynamicIds.range = .dynamicIds
  within : s.dynamicIds.Within
  stored : ∀ id, id ∈ s.table .dynamic → id ∈ s.dynamicIds.issued

namespace Changed

variable {op : Operation}

/-- neither the allocator nor the dynamic rules change -/
theorem of_same (ids : s'.dynamicIds = s.dynamicIds)
    (table : s'.table .dynamic = s.table .dynamic) (hback : ∀ id, ¬ op.TakesBack s id)
    (hgives : ∀ id, ¬ op.Gives s id) : s.Changed op s' where
  range := by rw [ids]
  issued id := by
    rw [ids, or_iff_left (hgives id)]
    exact ⟨fun h => ⟨h, hback id⟩, fun h => h.1⟩
  stored id hid := by
    rw [table] at hid
    exact .inl ⟨hid, hback id⟩

/-- an id is issued, and none is taken back -/
theorem issued_insert (ids : s'.dynamicIds.issued = s.dynamicIds.issued.insert id)
    (hback : ∀ id', ¬ op.TakesBack s id') (hgives : ∀ id', op.Gives s id' ↔ id = id')
    (id' : RuleId) : id' ∈ s'.dynamicIds.issued ↔
      id' ∈ s.dynamicIds.issued ∧ ¬ op.TakesBack s id' ∨ op.Gives s id' := by
  rw [ids, Std.ExtTreeSet.mem_insert, Std.compare_eq_iff_eq, hgives, or_comm,
    and_iff_left (hback id')]

/-- an id is taken back, and none is issued -/
theorem issued_erase (ids : s'.dynamicIds.issued = s.dynamicIds.issued.erase id)
    (hback : ∀ id', op.TakesBack s id' ↔ id = id') (hgives : ∀ id', ¬ op.Gives s id')
    (id' : RuleId) : id' ∈ s'.dynamicIds.issued ↔
      id' ∈ s.dynamicIds.issued ∧ ¬ op.TakesBack s id' ∨ op.Gives s id' := by
  rw [ids, Std.ExtTreeSet.mem_erase, Ne, Std.compare_eq_iff_eq, hback, or_iff_left (hgives id'),
    and_comm]

end Changed

/-! ### operations on other tiers -/

theorem dynamicIds_reserveId_of_ne {tier : Tier} (h : tier ≠ .dynamic) (s : RuleStore)
    (id : RuleId) : (s.reserveId tier id).dynamicIds = s.dynamicIds := by
  cases tier with
  | static list => rfl
  | dynamic => exact absurd rfl h
  | session => rfl

theorem dynamicIds_add_error {tier : Tier} {rule : Rule} {e : StoreError}
    (h : s.add tier rule = (.error e, s')) : s'.dynamicIds = s.dynamicIds := by
  rcases eq_or_eq_touch_of_add_eq_error h with rfl | rfl
  · rfl
  · rfl

theorem dynamicIds_run_of_ne (s : RuleStore) {op : Operation} (h : op.tier ≠ .dynamic) :
    (op.run s).dynamicIds = s.dynamicIds := by
  cases op with
  | add tier rule =>
    show (s.add tier rule).2.dynamicIds = _
    rcases hadd : s.add tier rule with ⟨e | u, s'⟩
    · exact dynamicIds_add_error hadd
    · obtain ⟨-, -, -, rfl⟩ := add_eq_ok_iff.mp hadd
      exact dynamicIds_reserveId_of_ne h _ rule.id
  | remove tier id =>
    show (s.remove tier id).2.dynamicIds = _
    rw [remove_eq]
    split
    · cases tier with
      | static list => rfl
      | dynamic => exact absurd rfl h
      | session => rfl
    · rfl
  | replaceAll tier rules =>
    rw [Operation.run]
    split
    · next hreplace => exact dynamicIds_replaceAll hreplace h
    · rfl
  | dropTier tier =>
    cases tier with
    | static list => rfl
    | dynamic => exact absurd rfl h
    | session => rfl
  | allocateDynamicId => exact absurd rfl h
  | releaseDynamicId id => exact absurd rfl h

theorem table_run_of_ne (s : RuleStore) {op : Operation} {tier : Tier} (h : op.tier ≠ tier) :
    (op.run s).table tier = s.table tier := by
  obtain ⟨t, puts, -⟩ := op.leads s
  exact puts.table_of_ne tier h

/-! ### operations on the dynamic tier -/

theorem changed_add (h : s.Issuing) (rule : Rule) :
    s.Changed (.add .dynamic rule) (s.add .dynamic rule).2 := by
  rcases hadd : s.add .dynamic rule with ⟨e | u, s'⟩
  · refine .of_same (dynamicIds_add_error hadd) ?_ (fun _ => not_false) fun id hgives => ?_
    · exact (puts_add_error hadd).table
    · have hok := hgives.2.2
      rw [hadd] at hok
      cases hok
  · have hgives : ∀ id, Operation.Gives s id (.add .dynamic rule) ↔ rule.id = id := by
      intro id
      refine ⟨fun hgives => hgives.2.1, fun heq => ⟨rfl, heq, ?_⟩⟩
      rw [hadd]
    have htable := (puts_add_ok hadd).table
    obtain ⟨hrange, -, -, rfl⟩ := add_eq_ok_iff.mp hadd
    have hinside : s.dynamicIds.range.contains rule.id = true := by
      rw [h.range]
      exact hrange
    have hids := s.dynamicIds.reserve_of_inside hinside
    refine ⟨?_, Changed.issued_insert ?_ (fun _ => not_false) hgives, fun id hid => ?_⟩
    · show (s.dynamicIds.reserve rule.id).2.range = _
      rw [hids]
    · show (s.dynamicIds.reserve rule.id).2.issued = _
      rw [hids]
    · rw [htable, Std.ExtTreeMap.mem_insert, Std.compare_eq_iff_eq] at hid
      rw [hgives]
      exact hid.elim .inr fun hid => .inl ⟨hid, not_false⟩

theorem changed_remove (s : RuleStore) (id : RuleId) :
    s.Changed (.remove .dynamic id) (s.remove .dynamic id).2 := by
  have htable := (puts_remove s .dynamic id).table
  rw [remove_eq] at htable ⊢
  split
  · next hmem =>
    rw [if_pos hmem] at htable
    have hback : ∀ id', Operation.TakesBack s id' (.remove .dynamic id) ↔ id = id' :=
      fun id' => ⟨fun hback => hback.2.1, fun heq => ⟨rfl, heq, heq ▸ hmem⟩⟩
    refine ⟨rfl, Changed.issued_erase rfl hback fun _ => not_false, fun id' hid' => ?_⟩
    rw [htable, Std.ExtTreeMap.mem_erase, Ne, Std.compare_eq_iff_eq] at hid'
    rw [hback]
    exact .inl ⟨hid'.2, hid'.1⟩
  · next hmem =>
    exact .of_same rfl rfl (fun id' hback => hmem (hback.2.1 ▸ hback.2.2)) fun _ => not_false

theorem changed_replaceAll (h : s.Issuing) (rules : List Rule) :
    s.Changed (.replaceAll .dynamic rules) (Operation.run s (.replaceAll .dynamic rules)) := by
  rw [Operation.run]
  split
  · next hreplace =>
    have hback : ∀ id, Operation.TakesBack s id (.replaceAll .dynamic rules) :=
      fun id => ⟨rfl, _, hreplace⟩
    have hgives : ∀ id, Operation.Gives s id (.replaceAll .dynamic rules) ↔
        id ∈ rules.map Rule.id :=
      fun id => ⟨fun hgives => hgives.2.1, fun hid => ⟨rfl, hid, _, hreplace⟩⟩
    have htable := (puts_replaceAll hreplace).table
    obtain ⟨-, hrange, hnd, -, rfl⟩ := replaceAll_eq_ok_iff.mp hreplace
    refine ⟨rfl, fun id => ?_, fun id hid => ?_⟩
    · show id ∈ (s.dynamicIds.reset (RuleTable.insertAll ∅ rules).keys).issued ↔ _
      rw [IdAllocator.reset, Std.ExtTreeSet.mem_ofList, List.contains_iff_mem, List.mem_filter,
        Std.ExtTreeMap.mem_keys, RuleTable.mem_insertAll_empty hnd, h.range, hgives,
        or_iff_right fun hid => hid.2 (hback id)]
      refine and_iff_left_of_imp fun hid => ?_
      obtain ⟨r, hr, rfl⟩ := List.mem_map.mp hid
      exact hrange r hr
    · rw [htable, RuleTable.mem_insertAll_empty hnd] at hid
      exact .inr ((hgives id).mpr hid)
  · next hreplace =>
    have hfail : ∀ answer, s.replaceAll .dynamic rules ≠ .ok answer := by
      intro answer hok
      rw [hreplace] at hok
      cases hok
    exact .of_same rfl rfl (fun _ hback => hback.2.elim hfail) fun _ hgives =>
      hgives.2.2.elim hfail

theorem changed_dropTier (s : RuleStore) :
    s.Changed (.dropTier .dynamic) (s.dropTier .dynamic).2 := by
  refine ⟨rfl, fun id => ?_, fun id hid => ?_⟩
  · show id ∈ (s.dynamicIds.reset []).issued ↔ _
    rw [IdAllocator.reset, Std.ExtTreeSet.mem_ofList]
    exact ⟨nofun, fun hid => hid.elim (fun hid => absurd rfl hid.2) False.elim⟩
  · rw [(puts_dropTier s .dynamic).table] at hid
    exact absurd hid Std.ExtTreeMap.not_mem_empty

/-- An id that is handed out is free, and from then on it is issued. -/
theorem allocateDynamicId_eq_ok (h : s.allocateDynamicId = .ok (id, s')) :
    s.dynamicIds.range.contains id = true ∧ id ∉ s.dynamicIds.issued ∧
      s' = { s with dynamicIds :=
        { s.dynamicIds with issued := s.dynamicIds.issued.insert id, cursor := id + 1 } } := by
  rw [allocateDynamicId] at h
  split at h
  · next hids =>
    cases h
    obtain ⟨hinside, hfree, rfl⟩ := IdAllocator.allocate_eq_some hids
    exact ⟨hinside, hfree, rfl⟩
  · cases h

theorem changed_allocateDynamicId (s : RuleStore) :
    s.Changed .allocateDynamicId (Operation.run s .allocateDynamicId) := by
  rw [Operation.run]
  split
  · next id s' halloc =>
    have hgives : ∀ id', Operation.Gives s id' .allocateDynamicId ↔ id = id' := by
      intro id'
      constructor
      · rintro ⟨s'', hid'⟩
        exact (Prod.mk.inj (Except.ok.inj (halloc.symm.trans hid'))).1
      · rintro rfl
        exact ⟨s', halloc⟩
    obtain ⟨-, -, rfl⟩ := allocateDynamicId_eq_ok halloc
    exact ⟨rfl, Changed.issued_insert rfl (fun _ => not_false) hgives,
      fun id' hid' => .inl ⟨hid', not_false⟩⟩
  · next halloc =>
    refine .of_same rfl rfl (fun _ => not_false) fun id' hgives => ?_
    obtain ⟨s', hok⟩ := hgives
    rw [halloc] at hok
    cases hok

theorem changed_releaseDynamicId (s : RuleStore) (id : RuleId) :
    s.Changed (.releaseDynamicId id) (s.releaseDynamicId id) := by
  rw [releaseDynamicId]
  split
  · next hsome =>
    have hmem : id ∈ s.table .dynamic := Std.ExtTreeMap.mem_iff_isSome_getElem?.mpr hsome
    exact .of_same rfl rfl (fun id' hback => hback.2 (hback.1 ▸ hmem)) fun _ => not_false
  · next hnone =>
    have hfree : id ∉ s.table .dynamic :=
      fun hmem => hnone (Std.ExtTreeMap.mem_iff_isSome_getElem?.mp hmem)
    have hback : ∀ id', Operation.TakesBack s id' (.releaseDynamicId id) ↔ id = id' :=
      fun id' => ⟨fun hback => hback.1, fun heq => ⟨heq, heq ▸ hfree⟩⟩
    exact ⟨rfl, Changed.issued_erase rfl hback fun _ => not_false,
      fun id' hid' => .inl ⟨hid', fun hback => hback.2 hid'⟩⟩

theorem Issuing.changed (h : s.Issuing) (op : Operation) : s.Changed op (op.run s) := by
  by_cases htier : op.tier = .dynamic
  · cases op with
    | add tier rule =>
      obtain rfl : tier = .dynamic := htier
      exact changed_add h rule
    | remove tier id =>
      obtain rfl : tier = .dynamic := htier
      exact changed_remove s id
    | replaceAll tier rules =>
      obtain rfl : tier = .dynamic := htier
      exact changed_replaceAll h rules
    | dropTier tier =>
      obtain rfl : tier = .dynamic := htier
      exact changed_dropTier s
    | allocateDynamicId => exact changed_allocateDynamicId s
    | releaseDynamicId id => exact changed_releaseDynamicId s id
  · exact .of_same (dynamicIds_run_of_ne s htier) (table_run_of_ne s htier)
      (fun _ => Operation.not_takesBack_of_ne htier) fun _ => Operation.not_gives_of_ne htier

/-! ## ids in the states of a run -/

theorem Operation.Gives.contains {op : Operation} (hgives : op.Gives s id) (h : s.Issuing) :
    IdRange.dynamicIds.contains id = true := by
  cases op with
  | add tier rule =>
    obtain ⟨rfl, rfl, hok⟩ := hgives
    rcases hadd : s.add .dynamic rule with ⟨e | u, s'⟩
    · rw [hadd] at hok
      cases hok
    · exact (add_eq_ok_iff.mp hadd).1
  | replaceAll tier rules =>
    obtain ⟨rfl, hid, ⟨prev, s'⟩, hreplace⟩ := hgives
    obtain ⟨-, hrange, -, -, -⟩ := replaceAll_eq_ok_iff.mp hreplace
    obtain ⟨r, hr, rfl⟩ := List.mem_map.mp hid
    exact hrange r hr
  | allocateDynamicId =>
    obtain ⟨s', halloc⟩ := hgives
    rw [← h.range]
    exact (allocateDynamicId_eq_ok halloc).1
  | remove tier id' => cases hgives
  | dropTier tier => cases hgives
  | releaseDynamicId id' => cases hgives

namespace Issuing

theorem new (limits : CapacityLimits) : (RuleStore.new limits).Issuing where
  range := rfl
  within _ hid := absurd hid Std.ExtTreeSet.not_mem_empty
  stored _ hid := absurd hid Std.ExtTreeMap.not_mem_empty

/-- the windows of static lists do not matter -/
theorem register (h : s.Issuing) (list : String) (window : IdRange) :
    (s.register list window).Issuing := ⟨h.range, h.within, h.stored⟩

theorem run (h : s.Issuing) (op : Operation) : (op.run s).Issuing := by
  have changed := h.changed op
  refine ⟨changed.range.trans h.range, fun id hid => ?_, fun id hid => ?_⟩
  · rw [changed.range]
    rcases (changed.issued id).mp hid with ⟨hid, -⟩ | hgives
    · exact h.within id hid
    · rw [h.range]
      exact hgives.contains h
  · rw [changed.issued]
    exact (changed.stored id hid).imp_left fun hid => ⟨h.stored id hid.1, hid.2⟩

end Issuing

/-- a store that any operations lead to, whatever windows lists are confined to meanwhile -/
inductive Evolved : RuleStore → Prop where
  | new (limits : CapacityLimits) : Evolved (.new limits)
  | register {s : RuleStore} (h : Evolved s) (list : String) (window : IdRange) :
      Evolved (s.register list window)
  | step {s : RuleStore} (h : Evolved s) (op : Operation) : Evolved (op.run s)

theorem Evolved.issuing (h : s.Evolved) : s.Issuing := by
  induction h with
  | new limits => exact .new limits
  | register h list window ih => exact ih.register list window
  | step h op ih => exact ih.run op

/-- a run to the store on which the id was handed out, and was not taken back afterwards -/
inductive HandedOut (id : RuleId) : RuleStore → Prop where
  | now {s s' : RuleStore} (h : s.Evolved) (halloc : s.allocateDynamicId = .ok (id, s')) :
      HandedOut id s'
  | register {s : RuleStore} (h : HandedOut id s) (list : String) (window : IdRange) :
      HandedOut id (s.register list window)
  | later {s : RuleStore} (h : HandedOut id s) (op : Operation) (hop : ¬ op.TakesBack s id) :
      HandedOut id (op.run s)

namespace HandedOut

theorem evolved (h : HandedOut id s) : s.Evolved := by
  induction h with
  | now h halloc =>
    have hstep := h.step .allocateDynamicId
    rwa [Operation.run, halloc] at hstep
  | register h list window ih => exact ih.register list window
  | later h op hop ih => exact ih.step op

/-- an id is issued until it is taken back -/
theorem issued (h : HandedOut id s) : id ∈ s.dynamicIds.issued := by
  induction h with
  | now h halloc =>
    obtain ⟨-, -, rfl⟩ := allocateDynamicId_eq_ok halloc
    exact Std.ExtTreeSet.mem_insert.mpr (.inl Std.ReflCmp.compare_self)
  | register h list window ih => exact ih
  | later h op hop ih => exact ((h.evolved.issuing.changed op).issued id).mpr (.inl ⟨ih, hop⟩)

end HandedOut

/-- a store whose dynamic ids are never handed out twice -/
structure Distinct (s : RuleStore) : Prop where
  stored : ∀ id r, s.get? .dynamic id = some r → id ∈ s.dynamicIds.issued
  inside : ∀ id, id ∈ s.dynamicIds.issued → IdRange.dynamicIds.contains id = true
  fresh : ∀ id s', s.allocateDynamicId = .ok (id, s') →
    IdRange.dynamicIds.contains id = true ∧ s.get? .dynamic id = none ∧ ¬ HandedOut id s
  exhausted : ∀ e, s.allocateDynamicId = .error e ↔
    e = .idSpaceExhausted .dynamicIds ∧ s.dynamicIds.issued.size = 800000
  full : s.dynamicIds.issued.size = 800000 ↔
    ∀ id, IdRange.dynamicIds.contains id = true → id ∈ s.dynamicIds.issued

theorem allocateDynamicId_eq_error_iff {e : StoreError} :
    s.allocateDynamicId = .error e ↔
      e = .idSpaceExhausted .dynamicIds ∧ s.dynamicIds.allocate = none := by
  rw [allocateDynamicId]
  split
  · next halloc => simp [halloc]
  · next halloc => simp [halloc, eq_comm]

/-- Whatever happens to a store, an id goes out again only after it was taken back. -/
theorem Evolved.ids_distinct (h : s.Evolved) : s.Distinct := by
  have issuing := h.issuing
  have hsize : s.dynamicIds.range.size = 800000 := by
    rw [issuing.range]
    rfl
  constructor
  case stored =>
    intro id r hget
    apply issuing.stored
    rw [Std.ExtTreeMap.mem_iff_isSome_getElem?, show (s.table .dynamic)[id]? = some r from hget]
    rfl
  case inside =>
    intro id hid
    rw [← issuing.range]
    exact issuing.within id hid
  case fresh =>
    intro id s' halloc
    obtain ⟨hinside, hfree, -⟩ := allocateDynamicId_eq_ok halloc
    rw [issuing.range] at hinside
    refine ⟨hinside, ?_, fun hout => hfree hout.issued⟩
    exact Std.ExtTreeMap.getElem?_eq_none fun hmem => hfree (issuing.stored id hmem)
  case exhausted =>
    intro e
    rw [allocateDynamicId_eq_error_iff, issuing.within.allocate_eq_none_iff, hsize]
  case full => rw [← hsize, issuing.within.size_eq_iff, issuing.range]

/-- The first id has a rule, so that the second goes out; it is not the one that goes out next. -/
theorem ids_distinct_default :
    HandedOut 100001
        (Operation.run (Operation.run (.new {}) (.add .dynamic ⟨100000, 1, .block, {}, none⟩))
          .allocateDynamicId) ∧
      (Operation.run (Operation.run (.new {}) (.add .dynamic ⟨100000, 1, .block, {}, none⟩))
        .allocateDynamicId).Distinct := by
  have evolved := Evolved.step (.new {}) (.add .dynamic ⟨100000, 1, .block, {}, none⟩)
  exact ⟨.now evolved rfl, Evolved.ids_distinct (evolved.step .allocateDynamicId)⟩

end Blocklist.RuleStore
