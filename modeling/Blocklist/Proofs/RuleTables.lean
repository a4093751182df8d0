import Mathlib.Data.List.Nodup
import Blocklist.Services

/-!
# Tables of rules

Stores and engines keep the rules of a tier in tables by id. Both put rules into a table one after
another and refuse a rule whose id is taken, so that what they accept is the same:

* `find?_key_eq_some_iff`            looking for the one entry of a list that has a key;
* `RuleTable.Keyed`                 each rule is kept under its own id;
* `RuleTable.Fresh`                 rules that a table can take: their ids are distinct and free;
* `RuleTable.insertAll`             the table that such rules lead to;
* `RuleStore.tableOf_eq_ok_iff`, `RuleTable.addAll_eq_ok_iff`   what a store and an engine accept;
* `RuleTable.own`, `RuleTable.foreign`   the part of an engine's table that is ours to change, and
                                    the rest of it;
* `RuleTable.reconciled`            an engine's table after our part was replaced;
* `RuleTable.applyDiff_reconcile`   reconciling replaces our part and keeps the rest.
-/

namespace Blocklist

/-! ## lists whose entries have keys -/

section
variable {α κ : Type} [DecidableEq κ] {key : α → κ} {l : List α}

theorem find?_key_eq_some_iff (hnd : (l.map key).Nodup) {k : κ} {a : α} :
    (l.find? fun x => key x = k) = some a ↔ a ∈ l ∧ key a = k := by
  constructor
  · intro h
    exact ⟨List.mem_of_find?_eq_some h, by simpa using List.find?_some h⟩
  · rintro ⟨ha, rfl⟩
    cases h : l.find? fun x => key x = key a with
    | none => simpa using List.find?_eq_none.mp h a ha
    | some b =>
      have hb : key b = key a := by simpa using List.find?_some h
      rw [List.inj_on_of_nodup_map hnd (List.mem_of_find?_eq_some h) ha hb]

end

namespace RuleTable

/-! ## rules under their own ids -/

def Keyed (t : RuleTable) : Prop := ∀ (id : RuleId) (r : Rule), t[id]? = some r → r.id = id

theorem keyed_empty : Keyed ∅ := by
  intro id r h
  simp at h

theorem Keyed.insert {t : RuleTable} (h : t.Keyed) (r : Rule) : Keyed (t.insert r.id r) := by
  intro id r' hr'
  rw [Std.ExtTreeMap.getElem?_insert] at hr'
  split at hr'
  · rename_i heq
    cases hr'
    exact Std.compare_eq_iff_eq.mp heq
  · exact h id r' hr'

theorem Keyed.erase {t : RuleTable} (h : t.Keyed) (id : RuleId) : Keyed (t.erase id) := by
  intro id' r hr
  rw [Std.ExtTreeMap.getElem?_erase] at hr
  split at hr
  · cases hr
  · exact h id' r hr

theorem erase_of_not_mem {t : RuleTable} {id : RuleId} (h : id ∉ t) : t.erase id = t := by
  apply Std.ExtTreeMap.ext_getElem?
  intro id'
  rw [Std.ExtTreeMap.getElem?_erase]
  split
  · rename_i heq
    rw [← Std.compare_eq_iff_eq.mp heq, Std.ExtTreeMap.getElem?_eq_none h]
  · rfl

theorem erase_insert_of_not_mem {t : RuleTable} {id : RuleId} {r : Rule} (h : id ∉ t) :
    (t.insert id r).erase id = t := by
  apply Std.ExtTreeMap.ext_getElem?
  intro id'
  rw [Std.ExtTreeMap.getElem?_erase, Std.ExtTreeMap.getElem?_insert]
  by_cases heq : compare id id' = .eq
  · rw [if_pos heq, ← Std.compare_eq_iff_eq.mp heq, Std.ExtTreeMap.getElem?_eq_none h]
  · rw [if_neg heq, if_neg heq]

theorem mem_rules_iff {t : RuleTable} {r : Rule} :
    r ∈ t.rules ↔ ∃ id : RuleId, t[id]? = some r := by
  rw [rules, List.mem_map]
  constructor
  · rintro ⟨⟨id, r'⟩, hmem, rfl⟩
    exact ⟨id, Std.ExtTreeMap.mem_toList_iff_getElem?_eq_some.mp hmem⟩
  · rintro ⟨id, h⟩
    exact ⟨(id, r), Std.ExtTreeMap.mem_toList_iff_getElem?_eq_some.mpr h, rfl⟩

theorem length_rules (t : RuleTable) : t.rules.length = t.size := by
  rw [rules, List.length_map, Std.ExtTreeMap.length_toList]

section
variable {t : RuleTable} (keyed : t.Keyed)
include keyed

theorem Keyed.mem_rules_iff {r : Rule} : r ∈ t.rules ↔ t[r.id]? = some r := by
  rw [RuleTable.mem_rules_iff]
  constructor
  · rintro ⟨id, h⟩
    rw [keyed id r h]
    exact h
  · exact fun h => ⟨r.id, h⟩

theorem Keyed.map_id_rules : t.rules.map Rule.id = t.keys := by
  rw [rules, List.map_map, ← Std.ExtTreeMap.map_fst_toList_eq_keys]
  apply List.map_congr_left
  rintro ⟨id, r⟩ hmem
  exact keyed id r (Std.ExtTreeMap.mem_toList_iff_getElem?_eq_some.mp hmem)

theorem Keyed.nodup_rules : (t.rules.map Rule.id).Nodup := by
  rw [keyed.map_id_rules]
  exact Std.ExtTreeMap.nodup_keys

/-- the rules of a table are listed by ascending id -/
theorem Keyed.sorted_rules : t.rules.Pairwise fun a b => a.id < b.id := by
  have h : (t.rules.map Rule.id).Pairwise fun a b => compare a b = .lt := by
    rw [keyed.map_id_rules]
    exact Std.ExtTreeMap.ordered_keys
  rw [List.pairwise_map] at h
  exact h.imp Std.compare_eq_lt.mp

theorem Keyed.find?_rules (id : RuleId) : (t.rules.find? fun r => r.id = id) = t[id]? := by
  apply Option.ext
  intro r
  rw [find?_key_eq_some_iff keyed.nodup_rules, keyed.mem_rules_iff]
  constructor
  · rintro ⟨h, rfl⟩
    exact h
  · intro h
    have hid := keyed id r h
    exact ⟨hid ▸ h, hid⟩

end

/-! ## rules put in one after another -/

/-- the ids of the rules are distinct and not in the table -/
structure Fresh (t : RuleTable) (rs : List Rule) : Prop where
  nodup : (rs.map Rule.id).Nodup
  not_mem : ∀ r ∈ rs, r.id ∉ t

def insertAll (t : RuleTable) (rs : List Rule) : RuleTable :=
  rs.foldl (fun t r => t.insert r.id r) t

theorem insertAll_nil (t : RuleTable) : t.insertAll [] = t := rfl
theorem insertAll_cons (t : RuleTable) (r : Rule) (rs : List Rule) :
    t.insertAll (r :: rs) = insertAll (t.insert r.id r) rs := rfl

theorem fresh_nil (t : RuleTable) : Fresh t [] := ⟨List.nodup_nil, by simp⟩

theorem fresh_cons_iff {t : RuleTable} {r : Rule} {rs : List Rule} :
    Fresh t (r :: rs) ↔ r.id ∉ t ∧ Fresh (t.insert r.id r) rs := by
  have step : ∀ r' : Rule, r'.id ∉ t.insert r.id r ↔ r.id ≠ r'.id ∧ r'.id ∉ t := by
    intro r'
    rw [Std.ExtTreeMap.mem_insert, Std.compare_eq_iff_eq, not_or]
  constructor
  · rintro ⟨hnd, hfree⟩
    rw [List.map_cons, List.nodup_cons] at hnd
    refine ⟨hfree r List.mem_cons_self, hnd.2, fun r' hr' => ?_⟩
    rw [step]
    exact ⟨fun h => hnd.1 (h ▸ List.mem_map_of_mem hr'), hfree r' (List.mem_cons_of_mem r hr')⟩
  · rintro ⟨hr, hnd, hfree⟩
    refine ⟨?_, ?_⟩
    · rw [List.map_cons, List.nodup_cons]
      refine ⟨fun hmem => ?_, hnd⟩
      obtain ⟨r', hr', hid⟩ := List.mem_map.mp hmem
      exact ((step r').mp (hfree r' hr')).1 hid.symm
    · intro r' hr'
      rcases List.mem_cons.mp hr' with rfl | hr'
      · exact hr
      · exact ((step r').mp (hfree r' hr')).2

theorem fresh_empty_iff {rs : List Rule} : Fresh ∅ rs ↔ (rs.map Rule.id).Nodup :=
  ⟨Fresh.nodup, fun h => ⟨h, fun _ _ => Std.ExtTreeMap.not_mem_empty⟩⟩

theorem getElem?_insertAll {t : RuleTable} {rs : List Rule} (h : Fresh t rs) (id : RuleId) :
    (t.insertAll rs)[id]? = (rs.find? fun r => r.id = id).or t[id]? := by
  induction rs generalizing t with
  | nil => rfl
  | cons r rs ih =>
    obtain ⟨hr, hrs⟩ := fresh_cons_iff.mp h
    rw [insertAll_cons, ih hrs, Std.ExtTreeMap.getElem?_insert, List.find?_cons]
    by_cases hid : r.id = id
    · -- the id of `r` is in the table from here on, so that no later rule has it
      have hnone : (rs.find? fun r => r.id = id) = none := by
        rw [List.find?_eq_none]
        intro r' hr' hid'
        apply hrs.not_mem r' hr'
        rw [Std.ExtTreeMap.mem_insert, Std.compare_eq_iff_eq, of_decide_eq_true hid', hid]
        exact .inl rfl
      rw [hnone, if_pos (Std.compare_eq_iff_eq.mpr hid)]
      simp [hid]
    · rw [if_neg (fun h => hid (Std.compare_eq_iff_eq.mp h))]
      simp [hid]

theorem Keyed.insertAll {t : RuleTable} (h : t.Keyed) (rs : List Rule) :
    Keyed (t.insertAll rs) := by
  induction rs generalizing t with
  | nil => exact h
  | cons r rs ih => exact ih (h.insert r)

theorem size_insertAll {t : RuleTable} {rs : List Rule} (h : Fresh t rs) :
    (t.insertAll rs).size = t.size + rs.length := by
  induction rs generalizing t with
  | nil => rfl
  | cons r rs ih =>
    obtain ⟨hr, hrs⟩ := fresh_cons_iff.mp h
    rw [insertAll_cons, ih hrs, Std.ExtTreeMap.size_insert, List.length_cons]
    simp only [Std.ExtTreeMap.contains_iff_mem, hr, if_false]
    omega

theorem mem_insertAll {t : RuleTable} {rs : List Rule} (h : Fresh t rs) {id : RuleId} :
    id ∈ t.insertAll rs ↔ id ∈ rs.map Rule.id ∨ id ∈ t := by
  rw [Std.ExtTreeMap.mem_iff_isSome_getElem?, getElem?_insertAll h, Option.isSome_or,
    Bool.or_eq_true, List.find?_isSome, ← Std.ExtTreeMap.mem_iff_isSome_getElem?, List.mem_map]
  simp only [decide_eq_true_eq]

theorem mem_insertAll_empty {rs : List Rule} (hnd : (rs.map Rule.id).Nodup) {id : RuleId} :
    id ∈ insertAll ∅ rs ↔ id ∈ rs.map Rule.id := by
  rw [mem_insertAll (fresh_empty_iff.mpr hnd), or_iff_left Std.ExtTreeMap.not_mem_empty]

/-- a table is what its own rules lead to -/
theorem Keyed.insertAll_rules {t : RuleTable} (h : t.Keyed) :
    RuleTable.insertAll ∅ t.rules = t := by
  apply Std.ExtTreeMap.ext_getElem?
  intro id
  rw [getElem?_insertAll (fresh_empty_iff.mpr h.nodup_rules), h.find?_rules]
  simp

/-- rules with distinct ids are, in some order, the rules of the table they lead to -/
theorem rules_insertAll_perm {rs : List Rule} (hnd : (rs.map Rule.id).Nodup) :
    (insertAll ∅ rs).rules.Perm rs := by
  have keyed : (insertAll ∅ rs).Keyed := keyed_empty.insertAll rs
  apply (List.perm_ext_iff_of_nodup (.of_map _ keyed.nodup_rules) (.of_map _ hnd)).mpr
  intro r
  rw [keyed.mem_rules_iff, getElem?_insertAll (fresh_empty_iff.mpr hnd)]
  simp [find?_key_eq_some_iff hnd]

/-- rules by ascending id are the rules of the table they lead to -/
theorem rules_insertAll_of_sorted {rs : List Rule} (h : rs.Pairwise fun a b => a.id < b.id) :
    (insertAll ∅ rs).rules = rs := by
  have hnd : (rs.map Rule.id).Nodup := by
    rw [List.Nodup, List.pairwise_map]
    exact h.imp fun hlt => UInt32.ne_of_lt hlt
  have keyed : (insertAll ∅ rs).Keyed := keyed_empty.insertAll rs
  exact (rules_insertAll_perm hnd).eq_of_pairwise
    (fun a b _ _ hab hba => absurd hba (UInt32.lt_asymm hab)) keyed.sorted_rules h

/-! ## what an engine accepts -/

theorem addAll_eq_ok_iff {tier : Tier} {t t' : RuleTable} {rs : List Rule} :
    addAll tier t rs = .ok t' ↔ Fresh t rs ∧ t' = t.insertAll rs := by
  induction rs generalizing t with
  | nil =>
    rw [addAll, Except.ok.injEq, insertAll_nil]
    exact ⟨fun h => ⟨fresh_nil t, h.symm⟩, fun h => h.2.symm⟩
  | cons r rs ih =>
    rw [addAll, fresh_cons_iff, insertAll_cons]
    by_cases hr : r.id ∈ t
    · simp [hr]
    · rw [if_neg hr, ih]
      simp [hr]

theorem getElem?_removeAll (t : RuleTable) (ids : List RuleId) (id : RuleId) :
    (t.removeAll ids)[id]? = if id ∈ ids then none else t[id]? := by
  induction ids generalizing t with
  | nil => rfl
  | cons i ids ih =>
    show (removeAll (t.erase i) ids)[id]? = _
    rw [ih, Std.ExtTreeMap.getElem?_erase]
    by_cases hi : i = id
    · simp [hi]
    · simp [hi, Ne.symm hi]

theorem mem_removeAll {t : RuleTable} {ids : List RuleId} {id : RuleId} :
    id ∈ t.removeAll ids ↔ id ∉ ids ∧ id ∈ t := by
  rw [Std.ExtTreeMap.mem_iff_isSome_getElem?, getElem?_removeAll,
    Std.ExtTreeMap.mem_iff_isSome_getElem?]
  split
  · next hmem => exact ⟨nofun, fun h => absurd hmem h.1⟩
  · next hmem => exact ⟨fun h => ⟨hmem, h⟩, fun h => h.2⟩

theorem mem_ids_iff {t : RuleTable} {id : RuleId} : id ∈ t.ids ↔ id ∈ t := by
  rw [ids, Std.ExtTreeSet.mem_ofList, List.contains_iff_mem, Std.ExtTreeMap.mem_keys]

/-! ## reconciling -/

/-- the rules of an engine's tier that are ours to remove -/
def own (tier : Tier) (t : RuleTable) : RuleTable := t.filter fun id _ => tier.inScope id

/-- the rules of others in an engine's tier -/
def foreign (tier : Tier) (t : RuleTable) : RuleTable := t.filter fun id _ => !tier.inScope id

theorem getElem?_own (tier : Tier) (t : RuleTable) (id : RuleId) :
    (t.own tier)[id]? = if tier.inScope id then t[id]? else none := by
  rw [own, Std.ExtTreeMap.getElem?_filter']
  cases t[id]? <;> simp [Option.filter]

theorem getElem?_foreign (tier : Tier) (t : RuleTable) (id : RuleId) :
    (t.foreign tier)[id]? = if tier.inScope id then none else t[id]? := by
  rw [foreign, Std.ExtTreeMap.getElem?_filter']
  cases t[id]? <;> cases tier.inScope id <;> simp [Option.filter]

/-- a table consists of what is ours and of what is not -/
theorem eq_of_own_of_foreign {tier : Tier} {t t' : RuleTable} (hown : t.own tier = t'.own tier)
    (hforeign : t.foreign tier = t'.foreign tier) : t = t' := by
  apply Std.ExtTreeMap.ext_getElem?
  intro id
  have hown := congrArg (fun t : RuleTable => t[id]?) hown
  have hforeign := congrArg (fun t : RuleTable => t[id]?) hforeign
  simp only [getElem?_own, getElem?_foreign] at hown hforeign
  by_cases hs : tier.inScope id = true
  · rwa [if_pos hs, if_pos hs] at hown
  · rwa [if_neg hs, if_neg hs] at hforeign

/-- the table of an engine after our rules of a tier were replaced -/
def reconciled (tier : Tier) (desired : List Rule) (t : RuleTable) : RuleTable :=
  (t.foreign tier).insertAll desired

theorem mem_reconcile_remove_iff {tier : Tier} {desired : List Rule} {active : IdSet}
    {id : RuleId} :
    id ∈ (reconcile tier desired active).remove ↔ id ∈ active ∧ tier.inScope id = true := by
  rw [reconcile, List.mem_filter, Std.ExtTreeSet.mem_toList]

theorem removeAll_reconcile (tier : Tier) (desired : List Rule) (t : RuleTable) :
    t.removeAll (reconcile tier desired t.ids).remove = t.foreign tier := by
  apply Std.ExtTreeMap.ext_getElem?
  intro id
  rw [getElem?_removeAll, getElem?_foreign]
  by_cases hs : tier.inScope id = true
  · by_cases ht : id ∈ t
    · rw [if_pos (mem_reconcile_remove_iff.mpr ⟨mem_ids_iff.mpr ht, hs⟩), if_pos hs]
    · rw [if_neg fun h => ht (mem_ids_iff.mp (mem_reconcile_remove_iff.mp h).1), if_pos hs]
      exact Std.ExtTreeMap.getElem?_eq_none ht
  · rw [if_neg fun h => hs (mem_reconcile_remove_iff.mp h).2, if_neg hs]

theorem fresh_foreign_iff {tier : Tier} {t : RuleTable} {desired : List Rule}
    (scope : ∀ r ∈ desired, tier.inScope r.id = true) :
    Fresh (t.foreign tier) desired ↔ (desired.map Rule.id).Nodup := by
  refine ⟨Fresh.nodup, fun hnd => ⟨hnd, fun r hr hmem => ?_⟩⟩
  rw [Std.ExtTreeMap.mem_iff_isSome_getElem?, getElem?_foreign, if_pos (scope r hr)] at hmem
  cases hmem

/-- An engine takes a reconciling difference if the desired rules have distinct ids. They replace
the rules in scope; the others stay. -/
theorem applyDiff_reconcile {tier : Tier} {t t' : RuleTable} {desired : List Rule}
    (scope : ∀ r ∈ desired, tier.inScope r.id = true) :
    t.applyDiff tier (reconcile tier desired t.ids) = .ok t' ↔
      (desired.map Rule.id).Nodup ∧ t' = t.reconciled tier desired := by
  rw [applyDiff, removeAll_reconcile, addAll_eq_ok_iff, ← fresh_foreign_iff (t := t) scope]
  rfl

section
variable {tier : Tier} {t : RuleTable} {desired : List Rule}
  (scope : ∀ r ∈ desired, tier.inScope r.id = true)
include scope

theorem find?_out_of_scope {id : RuleId} (h : ¬ tier.inScope id = true) :
    (desired.find? fun r => r.id = id) = none := by
  rw [List.find?_eq_none]
  intro r hr hid
  exact h (of_decide_eq_true hid ▸ scope r hr)

variable (hnd : (desired.map Rule.id).Nodup)
include hnd

theorem own_reconciled : (t.reconciled tier desired).own tier = insertAll ∅ desired := by
  apply Std.ExtTreeMap.ext_getElem?
  intro id
  rw [getElem?_own, reconciled, getElem?_insertAll ((fresh_foreign_iff scope).mpr hnd),
    getElem?_insertAll (fresh_empty_iff.mpr hnd), getElem?_foreign]
  by_cases hs : tier.inScope id = true
  · simp [hs]
  · simp [hs, find?_out_of_scope scope hs]

theorem foreign_reconciled : (t.reconciled tier desired).foreign tier = t.foreign tier := by
  apply Std.ExtTreeMap.ext_getElem?
  intro id
  rw [getElem?_foreign, reconciled, getElem?_insertAll ((fresh_foreign_iff scope).mpr hnd),
    getElem?_foreign]
  by_cases hs : tier.inScope id = true
  · simp [hs]
  · simp [hs, find?_out_of_scope scope hs]

end

/-- every id of a tier that is not shared is in scope -/
theorem own_eq_self {tier : Tier} (h : tier ≠ .session) (t : RuleTable) : t.own tier = t := by
  apply Std.ExtTreeMap.ext_getElem?
  intro id
  rw [getElem?_own, if_pos]
  cases tier with
  | session => exact absurd rfl h
  | static _ => rfl
  | dynamic => rfl

end RuleTable

/-! ## what a store accepts -/

theorem RuleStore.tableOf_eq_ok_iff {tier : Tier} {range : IdRange} {t t' : RuleTable}
    {rs : List Rule} :
    tableOf tier range t rs = .ok t' ↔
      (∀ r ∈ rs, range.contains r.id = true) ∧ t.Fresh rs ∧ t' = t.insertAll rs := by
  induction rs generalizing t with
  | nil =>
    rw [tableOf, Except.ok.injEq, RuleTable.insertAll_nil]
    exact ⟨fun h => ⟨by simp, RuleTable.fresh_nil t, h.symm⟩, fun h => h.2.2.symm⟩
  | cons r rs ih =>
    rw [tableOf, RuleTable.fresh_cons_iff, RuleTable.insertAll_cons]
    by_cases hc : range.contains r.id = true
    · by_cases hr : r.id ∈ t
      · simp [hc, hr]
      · rw [if_pos hc, if_neg hr, ih]
        simp [hc, hr]
    · simp [hc]

end Blocklist
