import Blocklist.Disk
import Blocklist.Proofs.RuleTables
import Blocklist.Proofs.RuleText

/-!
# Tables on the wire

A file of rules brings a table back without the filter lines of its rules. Differences do not look
at those lines: a table and what its file brings back take the same differences and stay alike.

* `RuleTable.wire`                  a table as its file brings it back;
* `RuleTable.ofRules_wire_rules`    it is the table of the rules on the wire;
* `RuleTable.map_wire_applyDiff`    tables that are alike take a difference alike;
* `RuleDiff.Fits`, `RuleTable.applyDiff_ok_iff`   the differences that are taken;
* `Disk.Flags.ofJson?_toJson`       flags are read as they are written.
-/

namespace Blocklist

/-- a table is what the list of its entries makes -/
theorem ofList_toList {α β : Type} [BEq α] [LawfulBEq α] [Ord α] [Std.TransOrd α]
    [Std.LawfulEqOrd α] (t : Std.ExtTreeMap α β) : Std.ExtTreeMap.ofList t.toList = t := by
  apply Std.ExtTreeMap.ext_getElem?
  intro k
  cases hk : t[k]? with
  | some v =>
    exact Std.ExtTreeMap.getElem?_ofList_of_mem Std.ReflCmp.compare_self
      Std.ExtTreeMap.distinct_keys_toList (Std.ExtTreeMap.mem_toList_iff_getElem?_eq_some.mpr hk)
  | none =>
    apply Std.ExtTreeMap.getElem?_ofList_of_contains_eq_false
    rw [Std.ExtTreeMap.map_fst_toList_eq_keys, Bool.eq_false_iff, ne_eq, List.contains_iff_mem,
      Std.ExtTreeMap.mem_keys, Std.ExtTreeMap.mem_iff_isSome_getElem?, hk]
    exact nofun

namespace RuleTable

variable {t t' a b : RuleTable}

/-! ## tables on the wire -/

/-- the table without what is not written on the wire -/
def wire (t : RuleTable) : RuleTable := t.map fun _ r => r.wire

theorem getElem?_wire (t : RuleTable) (id : RuleId) : t.wire[id]? = t[id]?.map Rule.wire :=
  Std.ExtTreeMap.getElem?_map

theorem mem_wire {id : RuleId} : id ∈ t.wire ↔ id ∈ t := Std.ExtTreeMap.mem_map

theorem ids_wire (t : RuleTable) : t.wire.ids = t.ids := by
  rw [ids, ids, wire, Std.ExtTreeMap.keys_map]

theorem rules_wire (t : RuleTable) : t.wire.rules = t.rules.map Rule.wire := by
  rw [rules, rules, wire, Std.ExtTreeMap.toList_map, List.map_map, List.map_map]
  rfl

theorem wire_wire (t : RuleTable) : t.wire.wire = t.wire := by
  rw [wire, wire, Std.ExtTreeMap.map_map]
  rfl

theorem Keyed.wire (h : t.Keyed) : t.wire.Keyed := by
  intro id r hr
  rw [getElem?_wire] at hr
  obtain ⟨r', hr', rfl⟩ := Option.map_eq_some_iff.mp hr
  exact h id r' hr'

/-- a file of the rules of a table brings the table back -/
theorem ofRules_wire_rules (h : t.Keyed) : ofRules (t.rules.map Rule.wire) = t.wire := by
  have hentries : (t.wire.rules.map fun r => (r.id, r)) = t.wire.toList := by
    rw [rules, List.map_map]
    refine (List.map_congr_left fun entry hentry => ?_).trans (List.map_id _)
    have hkey := h.wire entry.1 entry.2 (Std.ExtTreeMap.mem_toList_iff_getElem?_eq_some.mp hentry)
    exact Prod.ext hkey rfl
  rw [ofRules, ← rules_wire, hentries, ofList_toList]

/-! ## differences -/

theorem wire_insert (t : RuleTable) (id : RuleId) (r : Rule) :
    wire (t.insert id r) = t.wire.insert id r.wire := by
  apply Std.ExtTreeMap.ext_getElem?
  intro id'
  rw [getElem?_wire, Std.ExtTreeMap.getElem?_insert, Std.ExtTreeMap.getElem?_insert, getElem?_wire]
  split
  · rfl
  · rfl

theorem wire_removeAll (t : RuleTable) (ids : List RuleId) :
    (t.removeAll ids).wire = t.wire.removeAll ids := by
  apply Std.ExtTreeMap.ext_getElem?
  intro id
  rw [getElem?_wire, getElem?_removeAll, getElem?_removeAll, getElem?_wire]
  split
  · rfl
  · rfl

theorem map_wire_addAll (h : a.wire = b.wire) (tier : Tier) (rs : List Rule) :
    (addAll tier a rs).map wire = (addAll tier b rs).map wire := by
  induction rs generalizing a b with
  | nil => exact congrArg Except.ok h
  | cons r rs ih =>
    have hmem : r.id ∈ a ↔ r.id ∈ b := by rw [← mem_wire, h, mem_wire]
    rw [addAll, addAll]
    by_cases hr : r.id ∈ a
    · rw [if_pos hr, if_pos (hmem.mp hr)]
    · rw [if_neg hr, if_neg fun hb => hr (hmem.mpr hb)]
      exact ih (by rw [wire_insert, wire_insert, h])

theorem map_wire_applyDiff (h : a.wire = b.wire) (tier : Tier) (d : RuleDiff) :
    (a.applyDiff tier d).map wire = (b.applyDiff tier d).map wire :=
  map_wire_addAll (by rw [wire_removeAll, wire_removeAll, h]) tier d.add

theorem applyDiff_of_wire_error {tier : Tier} {d : RuleDiff} {e : EngineError}
    (h : t.wire.applyDiff tier d = .error e) : t.applyDiff tier d = .error e := by
  have hmap := map_wire_applyDiff (wire_wire t) tier d
  rw [h] at hmap
  cases hdiff : t.applyDiff tier d with
  | error e' =>
    rw [hdiff] at hmap
    exact hmap.symm
  | ok t' =>
    rw [hdiff] at hmap
    cases hmap

theorem applyDiff_of_wire_ok {tier : Tier} {d : RuleDiff}
    (h : t.wire.applyDiff tier d = .ok a) : ∃ b, t.applyDiff tier d = .ok b ∧ a.wire = b.wire := by
  have hmap := map_wire_applyDiff (wire_wire t) tier d
  rw [h] at hmap
  cases hdiff : t.applyDiff tier d with
  | error e =>
    rw [hdiff] at hmap
    cases hmap
  | ok b =>
    rw [hdiff] at hmap
    exact ⟨b, rfl, Except.ok.inj hmap⟩

theorem Keyed.removeAll (h : t.Keyed) (ids : List RuleId) : (t.removeAll ids).Keyed := by
  intro id r hr
  rw [getElem?_removeAll] at hr
  split at hr
  · cases hr
  · exact h id r hr

theorem Keyed.applyDiff (h : t.Keyed) {tier : Tier} {d : RuleDiff}
    (hok : t.applyDiff tier d = .ok t') : t'.Keyed := by
  obtain ⟨-, rfl⟩ := addAll_eq_ok_iff.mp hok
  exact (h.removeAll d.remove).insertAll d.add

/-- what a difference that is not taken is answered with -/
theorem addAll_eq_error {tier : Tier} {rs : List Rule} {e : EngineError}
    (h : addAll tier t rs = .error e) : ∃ id, e = .alreadyActive tier id := by
  induction rs generalizing t with
  | nil => cases h
  | cons r rs ih =>
    rw [addAll] at h
    split at h
    · exact ⟨r.id, (Except.error.inj h).symm⟩
    · exact ih h

end RuleTable

/-- The added ids are distinct, and those that are active are removed first. -/
structure RuleDiff.Fits (d : RuleDiff) (active : IdSet) : Prop where
  nodup : (d.add.map Rule.id).Nodup
  free : ∀ r ∈ d.add, r.id ∈ active → r.id ∈ d.remove

theorem RuleTable.applyDiff_ok_iff {t : RuleTable} {tier : Tier} {d : RuleDiff} :
    (∃ t', t.applyDiff tier d = .ok t') ↔ d.Fits t.ids := by
  constructor
  · rintro ⟨t', h⟩
    obtain ⟨hfresh, -⟩ := addAll_eq_ok_iff.mp h
    refine ⟨hfresh.nodup, fun r hr hactive => ?_⟩
    by_contra hremove
    exact hfresh.not_mem r hr (mem_removeAll.mpr ⟨hremove, mem_ids_iff.mp hactive⟩)
  · intro h
    refine ⟨_, addAll_eq_ok_iff.mpr ⟨⟨h.nodup, fun r hr hmem => ?_⟩, rfl⟩⟩
    obtain ⟨hremove, hmem⟩ := mem_removeAll.mp hmem
    exact hremove (h.free r hr (mem_ids_iff.mpr hmem))

/-! ## flags -/

namespace Disk.Flags

theorem ofJson?_toJson (flags : Flags) : ofJson? flags.toJson = some flags := by
  have hread : (flags.toList.map fun f => (f.1, Json.bool f.2)).mapM
      (fun f => f.2.bool?.map fun b => (f.1, b)) = some (flags.toList.map id) :=
    Json.mapM_map_some fun _ _ => rfl
  rw [toJson, ofJson?, hread]
  show some (Std.ExtTreeMap.ofList (flags.toList.map id)) = _
  rw [List.map_id, ofList_toList]

theorem exact_toJson (flags : Flags) : flags.toJson.Exact := by
  refine .obj fun f hf => ?_
  obtain ⟨flag, -, rfl⟩ := List.mem_map.mp hf
  exact .bool flag.2

end Disk.Flags

end Blocklist
