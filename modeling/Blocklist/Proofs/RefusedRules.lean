import Blocklist.Proofs.IdNamespaces

/-!
# Operations that a store refuses

A rule is refused since its id is out of range or in use, or since the tier is full; new rules are
refused as a whole, and ids may run out. The rules and the next id are then what they were. A tier
that may hold no rule at all counts as populated once it refused one.

* `RuleStore.add_eq_error`           a refused rule leaves the store as it is, but for that one case;
* `Operation.RefusedWith`            the error that an operation answers with;
* `RuleStore.SameAnswers`            two stores with the same rules and the same next id;
* `RuleStore.Unheeded`               what looking at a store tells after a refusal;
* `Operation.RefusedWith.unheeded`   it holds of every store and every refusal.
-/

namespace Blocklist.RuleStore

variable {s s' : RuleStore} {tier tier' : Tier} {e : StoreError}

/-! ## a refused rule -/

theorem hasTier_touch :
    (s.touch tier).hasTier tier' = true ↔ s.hasTier tier' = true ∨ tier = tier' := by
  rw [touch, hasTier_setTable, Bool.or_eq_true, decide_eq_true_eq, or_comm]

theorem touch_of_hasTier (h : s.hasTier tier = true) : s.touch tier = s := setTable_table h

/-- A rule that is refused may populate its tier, but only a tier of no capacity was not before. -/
theorem add_eq_error {rule : Rule} (h : s.add tier rule = (.error e, s')) :
    s' = if e = .capacityExceeded tier 0 then s.touch tier else s := by
  cases hrange : (s.idRange tier).contains rule.id with
  | false =>
    rw [add_of_outside hrange] at h
    cases h
    exact (if_neg nofun).symm
  | true =>
    rw [add_of_inside hrange] at h
    cases htier : s.hasTier tier with
    | true =>
      have hsame : s' = s := by
        rw [touch_of_hasTier htier] at h
        split at h
        · exact (Prod.mk.inj h).2.symm
        · split at h
          · cases (Prod.mk.inj h).1
          · exact (Prod.mk.inj h).2.symm
      rw [touch_of_hasTier htier, ite_self, hsame]
    | false =>
      rw [table_of_hasTier_eq_false htier, if_neg Std.ExtTreeMap.not_mem_empty,
        Std.ExtTreeMap.size_empty] at h
      split at h
      · cases (Prod.mk.inj h).1
      · next hfull =>
        rw [Nat.eq_zero_of_not_pos hfull] at h
        cases h
        exact (if_pos rfl).symm

/-! ## looking at the store -/

/-- the same rules, however they are looked for, and the same next id -/
structure SameAnswers (s s' : RuleStore) : Prop where
  rules : ∀ tier, s'.rules tier = s.rules tier
  count : ∀ tier, s'.count tier = s.count tier
  get? : ∀ tier id, s'.get? tier id = s.get? tier id
  nextId : s'.allocateDynamicId.map Prod.fst = s.allocateDynamicId.map Prod.fst

namespace SameAnswers

/-- the tables and the allocator are all that answers depend on -/
theorem of_same (table : ∀ tier, s'.table tier = s.table tier)
    (ids : s'.dynamicIds = s.dynamicIds) : s.SameAnswers s' where
  rules tier := by rw [RuleStore.rules, table, RuleStore.rules]
  count tier := by rw [RuleStore.count, table, RuleStore.count]
  get? tier id := by rw [RuleStore.get?, table, RuleStore.get?]
  nextId := by
    rw [allocateDynamicId, allocateDynamicId, ids]
    split
    · rfl
    · rfl

theorem refl (s : RuleStore) : s.SameAnswers s := of_same (fun _ => rfl) rfl

theorem touch (s : RuleStore) (tier : Tier) : s.SameAnswers (s.touch tier) :=
  of_same (table_touch s tier) rfl

end SameAnswers

/-- the operation answers with an error -/
def Operation.RefusedWith (s : RuleStore) (e : StoreError) : Operation → Prop
  | add tier rule => (s.add tier rule).1 = .error e
  | replaceAll tier rules => s.replaceAll tier rules = .error e
  | allocateDynamicId => s.allocateDynamicId = .error e
  | remove .. | dropTier _ | releaseDynamicId _ => False

/-- what looking at the store tells after an operation was refused -/
structure Unheeded (s : RuleStore) (op : Operation) (e : StoreError) : Prop where
  answers : s.SameAnswers (op.run s)
  /-- tiers stay as they are, but for one of no capacity that a rule is offered to -/
  hasTier : ∀ tier, (op.run s).hasTier tier = true ↔
    s.hasTier tier = true ∨ ∃ rule, op = .add tier rule ∧ e = .capacityExceeded tier 0

namespace Unheeded

variable {op : Operation}

theorem of_same (h : op.run s = s) (hop : ∀ tier rule, op ≠ .add tier rule) :
    s.Unheeded op e := by
  constructor
  · rw [h]
    exact .refl s
  · intro tier
    rw [h]
    exact (or_iff_left fun ⟨rule, hadd, _⟩ => hop tier rule hadd).symm

theorem of_add {rule : Rule} (h : (s.add tier rule).1 = .error e) :
    s.Unheeded (.add tier rule) e := by
  have hrun : Operation.run s (.add tier rule) =
      if e = .capacityExceeded tier 0 then s.touch tier else s := add_eq_error (Prod.ext h rfl)
  have hop : ∀ tier', (∃ rule', Operation.add tier rule = .add tier' rule' ∧
      e = .capacityExceeded tier' 0) ↔ tier = tier' ∧ e = .capacityExceeded tier 0 := by
    intro tier'
    constructor
    · rintro ⟨rule', hadd, he⟩
      cases hadd
      exact ⟨rfl, he⟩
    · rintro ⟨rfl, he⟩
      exact ⟨rule, rfl, he⟩
  constructor
  · rw [hrun]
    split
    · exact .touch s tier
    · exact .refl s
  · intro tier'
    rw [hrun, hop]
    split
    · next he => rw [hasTier_touch, and_iff_left he]
    · next he => exact (or_iff_left fun hadd => he hadd.2).symm

end Unheeded

/-- A refusal leaves the rules and ids of any store as they are, and nearly always its tiers. -/
theorem Operation.RefusedWith.unheeded {op : Operation} (h : op.RefusedWith s e) :
    s.Unheeded op e := by
  cases op with
  | add tier rule => exact .of_add h
  | replaceAll tier rules =>
    refine .of_same ?_ fun _ _ hadd => ?_
    · rw [run, show s.replaceAll tier rules = .error e from h]
    · cases hadd
  | allocateDynamicId =>
    refine .of_same ?_ fun _ _ hadd => ?_
    · rw [run, show s.allocateDynamicId = .error e from h]
    · cases hadd
  | remove tier id => cases h
  | dropTier tier => cases h
  | releaseDynamicId id => cases h

/-- a store for one dynamic rule, which it holds beside a handed-out id and another rule -/
def oneDynamicRule : RuleStore :=
  [Operation.add .dynamic ⟨100000, 1, .block, {}, none⟩, .allocateDynamicId,
    .add .session ⟨900000, 1, .allow, {}, none⟩].foldl Operation.run (.new ⟨1, 5000⟩)

/-- It refuses another dynamic rule, and a rule of the id that is there. -/
theorem unheeded_add_full :
    (oneDynamicRule.rules .dynamic).map Rule.id = [100000] ∧
    (oneDynamicRule.rules .session).map Rule.id = [900000] ∧
    oneDynamicRule.dynamicIds.issued.toList = [100000, 100001] ∧
    oneDynamicRule.Unheeded (.add .dynamic ⟨100002, 1, .block, {}, none⟩)
      (.capacityExceeded .dynamic 1) ∧
    oneDynamicRule.Unheeded (.add .session ⟨900000, 1, .allow, {}, none⟩)
      (.duplicateId .session 900000) := by
  refine ⟨by decide +kernel, by decide +kernel, by decide +kernel,
    Operation.RefusedWith.unheeded ?_, Operation.RefusedWith.unheeded ?_⟩
  · show (oneDynamicRule.add .dynamic ⟨100002, 1, .block, {}, none⟩).1 = _
    decide +kernel
  · show (oneDynamicRule.add .session ⟨900000, 1, .allow, {}, none⟩).1 = _
    decide +kernel

/-- Where dynamic rules are not allowed, the one that is refused still populates their tier. -/
theorem refused_rule_populates :
    (Operation.add .dynamic ⟨100000, 1, .block, {}, none⟩).RefusedWith
        (RuleStore.new ⟨0, 5000⟩) (.capacityExceeded .dynamic 0) ∧
      (RuleStore.new ⟨0, 5000⟩).hasTier .dynamic = false ∧
      ((Operation.add .dynamic ⟨100000, 1, .block, {}, none⟩).run
        (RuleStore.new ⟨0, 5000⟩)).hasTier .dynamic = true :=
  ⟨rfl, rfl, rfl⟩

end Blocklist.RuleStore
