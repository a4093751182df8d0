import Blocklist.Proofs.Store

/-!
# Issued ids

The allocator of dynamic ids is kept apart from the tables of the store. What it has issued are
still the ids of the dynamic rules; while a filter is compiled there is one more, which either goes
to its rule or is given back.

* `RuleStore.Accounted`              issued ids are those of dynamic rules, and some that are held;
* `Accounted.allocate`, `Accounted.add`, `Accounted.settle`, `Accounted.release`
                                     an id is taken, and goes to a rule or is given back;
* `Accounted.issued_eq`              the dynamic rules determine what is issued.
-/

namespace Blocklist

theorem IdAllocator.reserve_of_inside {id : RuleId} (a : IdAllocator)
    (h : a.range.contains id = true) :
    (a.reserve id).2 = { a with issued := a.issued.insert id } := by
  rw [reserve, if_pos h]

namespace RuleStore

/-- The issued ids are those of the dynamic rules and the ones in `held`. -/
structure Accounted (s : RuleStore) (held : List RuleId) : Prop where
  range : s.dynamicIds.range = .dynamicIds
  issued : ∀ id, id ∈ s.dynamicIds.issued ↔ id ∈ s.table .dynamic ∨ id ∈ held

theorem dynamicIds_registerWindows (c : Coordinator) (s : RuleStore) :
    (c.registerWindows s).dynamicIds = s.dynamicIds := by
  show (c.lists.foldl (fun store l => store.register l.id l.window) s).dynamicIds = s.dynamicIds
  induction c.lists generalizing s with
  | nil => rfl
  | cons l ls ih => exact ih (s.register l.id l.window)

theorem accounted_registerWindows_new (c : Coordinator) (limits : CapacityLimits) :
    (c.registerWindows (.new limits)).Accounted [] := by
  constructor
  · rw [dynamicIds_registerWindows]
    rfl
  · intro id
    rw [dynamicIds_registerWindows, table_registerWindows_new]
    simp [new, IdAllocator.new]

/-- only replacing the dynamic rules concerns the allocator -/
theorem dynamicIds_replaceAll {s s' : RuleStore} {tier : Tier} {rs prev : List Rule}
    (h : s.replaceAll tier rs = .ok (prev, s')) (htier : tier ≠ .dynamic) :
    s'.dynamicIds = s.dynamicIds := by
  obtain ⟨-, -, -, -, rfl⟩ := replaceAll_eq_ok_iff.mp h
  cases tier with
  | static list => rfl
  | dynamic => exact absurd rfl htier
  | session => rfl

namespace Accounted

variable {s s' : RuleStore} {held : List RuleId} {id : RuleId} {rule : Rule}

section
variable (h : s.Accounted held)
include h

/-- allocator and dynamic rules are those of before -/
theorem of_same (ids : s'.dynamicIds = s.dynamicIds)
    (table : s'.table .dynamic = s.table .dynamic) : s'.Accounted held := by
  constructor
  · rw [ids]
    exact h.range
  · intro id
    rw [ids, table]
    exact h.issued id

theorem touch : (s.touch .dynamic).Accounted held := h.of_same rfl (table_touch s .dynamic .dynamic)

/-- an id is taken -/
theorem allocate (halloc : s.allocateDynamicId = .ok (id, s')) : s'.Accounted (id :: held) := by
  rw [allocateDynamicId] at halloc
  split at halloc
  · rename_i id' ids hids
    cases halloc
    rw [IdAllocator.allocate] at hids
    split at hids
    · cases hids
      refine ⟨h.range, fun i => ?_⟩
      show i ∈ s.dynamicIds.issued.insert _ ↔ i ∈ s.table .dynamic ∨ i ∈ _ :: held
      rw [Std.ExtTreeSet.mem_insert, Std.compare_eq_iff_eq, h.issued, List.mem_cons, or_left_comm,
        eq_comm]
    · cases hids
  · cases halloc

/-- The id of a rule that is put into the tier is issued, whether it was held or not. -/
theorem add_ok (hadd : s.add .dynamic rule = (.ok (), s')) : s'.Accounted held := by
  obtain ⟨hrange, -, -, rfl⟩ := add_eq_ok_iff.mp hadd
  have hinside : s.dynamicIds.range.contains rule.id = true := by
    rw [h.range]
    exact hrange
  have hids := s.dynamicIds.reserve_of_inside hinside
  constructor
  · show (s.dynamicIds.reserve rule.id).2.range = _
    rw [hids]
    exact h.range
  · intro i
    rw [table_setTable, if_pos rfl]
    show i ∈ (s.dynamicIds.reserve rule.id).2.issued ↔ _
    rw [hids, Std.ExtTreeSet.mem_insert, Std.ExtTreeMap.mem_insert, h.issued, or_assoc]

theorem add_error {e : StoreError} (hadd : s.add .dynamic rule = (.error e, s')) :
    s'.Accounted held := by
  rcases eq_or_eq_touch_of_add_eq_error hadd with rfl | rfl
  · exact h
  · exact h.touch

end

/-- the id of a rule need not be held any longer -/
theorem settle (h : s.Accounted (id :: held)) (hid : id ∈ s.table .dynamic) :
    s.Accounted held where
  range := h.range
  issued i := by
    rw [h.issued, List.mem_cons]
    constructor
    · rintro (hi | rfl | hi)
      · exact .inl hi
      · exact .inl hid
      · exact .inr hi
    · rintro (hi | hi)
      · exact .inl hi
      · exact .inr (.inr hi)

/-- an id that was held is given back, unless a rule has it -/
theorem release (h : s.Accounted [id]) : (s.releaseDynamicId id).Accounted [] := by
  rw [releaseDynamicId]
  split
  · rename_i hsome
    exact h.settle (Std.ExtTreeMap.mem_iff_isSome_getElem?.mpr hsome)
  · rename_i hnone
    have hfree : id ∉ s.table .dynamic :=
      fun hmem => hnone (Std.ExtTreeMap.mem_iff_isSome_getElem?.mp hmem)
    refine ⟨h.range, fun i => ?_⟩
    show i ∈ s.dynamicIds.issued.erase id ↔ i ∈ s.table .dynamic ∨ i ∈ []
    rw [Std.ExtTreeSet.mem_erase, Ne, Std.compare_eq_iff_eq, h.issued, List.mem_singleton]
    constructor
    · rintro ⟨hne, hi | hi⟩
      · exact .inl hi
      · exact absurd hi.symm hne
    · rintro (hi | hi)
      · exact ⟨fun heq => hfree (heq ▸ hi), .inl hi⟩
      · cases hi

theorem remove (h : s.Accounted []) (id : RuleId) : (s.remove .dynamic id).2.Accounted [] := by
  rw [remove_eq]
  split
  · refine ⟨h.range, fun i => ?_⟩
    rw [table_releaseId, table_setTable, if_pos rfl]
    show i ∈ s.dynamicIds.issued.erase id ↔ _
    rw [Std.ExtTreeSet.mem_erase, Std.ExtTreeMap.mem_erase, h.issued]
    simp only [List.not_mem_nil, or_false]
  · exact h

/-- the dynamic rules determine what is issued -/
theorem issued_eq (h : s.Accounted []) (h' : s'.Accounted [])
    (table : s'.table .dynamic = s.table .dynamic) :
    s'.dynamicIds.issued = s.dynamicIds.issued := by
  apply Std.ExtTreeSet.ext_mem
  intro i
  rw [h.issued, h'.issued, table]

end Accounted

end RuleStore

end Blocklist
