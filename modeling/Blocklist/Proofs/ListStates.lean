import Mathlib.Data.List.Induction
import Blocklist.Proofs.Restart

/-!
# Saved states of lists are taken over together

The saved states of the lists are fields of one object. Where each field is a state, every list gets
the one under its name; a list without one stays as it is. One field that is no state makes the
whole object unreadable, and then no list changes, be the field that of a list or not.

* `Saved.listStates?_concat`             the object, field by field;
* `Saved.listStates?_of_readable`        what is read under each name if all fields can be read;
* `Saved.listStates?_of_unreadable`      nothing is read if one of them cannot;
* `Coordinator.loadState_all_or_none`    what taking over the saved states comes to.
-/

namespace Blocklist

namespace Saved

variable {fields : List (String × Json)}

theorem listStates?_concat (fields : List (String × Json)) (f : String × Json) :
    listStates? (.obj (fields ++ [f])) =
      (listStates? (.obj fields)).bind fun states =>
        (ListState.ofJson? f.2).map fun s => states.insert f.1 s := by
  rw [listStates?, listStates?, List.mapM_append]
  cases fields.mapM fun f => (ListState.ofJson? f.2).map fun s => (f.1, s) with
  | none => rfl
  | some states =>
    cases hs : ListState.ofJson? f.2 with
    | none => simp [hs]
    | some s =>
      simp only [List.mapM_cons, List.mapM_nil, hs, Option.map_some, Option.bind_some,
        Option.bind_eq_bind, Option.pure_def]
      rw [Std.ExtTreeMap.ofList_eq_insertMany_empty, Std.ExtTreeMap.ofList_eq_insertMany_empty,
        Std.ExtTreeMap.insertMany_list_eq_foldl, Std.ExtTreeMap.insertMany_list_eq_foldl,
        List.foldl_append]
      rfl

/-- Of fields of one name the last one counts. -/
theorem listStates?_of_readable (h : ∀ f ∈ fields, (ListState.ofJson? f.2).isSome) :
    ∃ states, listStates? (.obj fields) = some states ∧
      ∀ id : String, states[id]? = ((Json.obj fields).get? id).bind ListState.ofJson? := by
  induction fields using List.reverseRecOn with
  | nil => exact ⟨∅, rfl, fun _ => Std.ExtTreeMap.getElem?_empty⟩
  | append_singleton fields f ih =>
    obtain ⟨states, hstates, hread⟩ := ih fun f' hf' => h f' (List.mem_append_left [f] hf')
    obtain ⟨s, hs⟩ := Option.isSome_iff_exists.mp (h f (by simp))
    refine ⟨states.insert f.1 s, ?_, fun id => ?_⟩
    · rw [listStates?_concat, hstates, Option.bind_some, hs, Option.map_some]
    · rw [Json.get?, List.reverse_concat, Std.ExtTreeMap.getElem?_insert]
      by_cases hid : f.1 = id
      · rw [if_pos (Std.compare_eq_iff_eq.mpr hid), List.find?_cons, decide_eq_true hid]
        exact hs.symm
      · rw [if_neg fun heq => hid (Std.compare_eq_iff_eq.mp heq), List.find?_cons,
          decide_eq_false hid, hread, Json.get?]

theorem listStates?_of_unreadable (h : ∃ f ∈ fields, ListState.ofJson? f.2 = none) :
    listStates? (.obj fields) = none := by
  induction fields using List.reverseRecOn with
  | nil =>
    obtain ⟨f, hf, -⟩ := h
    cases hf
  | append_singleton fields f ih =>
    obtain ⟨f', hf', hnone⟩ := h
    rw [listStates?_concat]
    rcases List.mem_append.mp hf' with hmem | hmem
    · rw [ih ⟨f', hmem, hnone⟩]
      rfl
    · rw [← List.mem_singleton.mp hmem, hnone]
      cases listStates? (.obj fields) <;> rfl

end Saved

namespace Coordinator

variable {σ : Type} [KeyValueStore (StateM σ)] {c : Coordinator} {w w' : σ} {items : Items}
  {fields : List (String × Json)}

theorem loadState_of_load (h : (KeyValueStore.load [Saved.listStatesKey] : StateM σ _) w =
    (.ok items, w')) (c : Coordinator) :
    (c.loadState : StateM σ _) w = (.ok (c.withStates (Saved.listStates items)), w') := by
  rw [loadState, bind_apply, h]
  rfl

theorem withStates_eq (c : Coordinator) (states : Saved.ListStates) :
    c.withStates states =
      { c with lists := c.lists.map fun l => states[l.id]?.elim l l.withState } := by
  rw [withStates, Coordinator.mk.injEq]
  refine ⟨List.map_congr_left fun l _ => ?_, rfl, rfl, rfl⟩
  cases states[l.id]? <;> rfl

theorem withStates_empty (c : Coordinator) : c.withStates ∅ = c := by
  rw [withStates, Coordinator.mk.injEq]
  exact ⟨c.lists_withStates_empty, rfl, rfl, rfl⟩

/-- Saved states are taken over from an object whose fields can all be read, each by the list of its
name; an object with a field that cannot be read is ignored as a whole. -/
theorem loadState_all_or_none
    (hload : (KeyValueStore.load [Saved.listStatesKey] : StateM σ _) w = (.ok items, w'))
    (hstates : items[Saved.listStatesKey]? = some (.obj fields)) :
    ∃ c' : Coordinator, (c.loadState : StateM σ _) w = (.ok c', w') ∧
      ((∀ f ∈ fields, (ListState.ofJson? f.2).isSome) →
        c' = { c with lists := c.lists.map fun l =>
          (((Json.obj fields).get? l.id).bind ListState.ofJson?).elim l l.withState }) ∧
      ((∃ f ∈ fields, ListState.ofJson? f.2 = none) → c' = c) := by
  refine ⟨_, loadState_of_load hload c, fun h => ?_, fun h => ?_⟩
  · obtain ⟨states, hread, hentry⟩ := Saved.listStates?_of_readable h
    rw [Saved.listStates, hstates, Option.bind_some, hread, Option.getD_some, withStates_eq]
    simp only [hentry]
  · rw [Saved.listStates, hstates, Option.bind_some, Saved.listStates?_of_unreadable h,
      Option.getD_none, withStates_empty]

/-- a saved state of each default list, one of which leaves the flag out, and one of a list that is
no more -/
theorem loadState_all_or_none_default :
    let off : Json := .obj [("enabled", .bool false), ("lastUpdate", .int 5000)]
    let stamped : Json := .obj [("fingerprint", .int 7)]
    let fields := [("easylist", off), ("easyprivacy", stamped), ("gone", off)]
    let w : Memory := { store := { items := Saved.single Saved.listStatesKey (.obj fields) } }
    ∃ c' : Coordinator, ((Coordinator.new .default).loadState : StateM Memory _) w = (.ok c', w) ∧
      c'.lists.map StaticList.state = [⟨some false, some 5000, none⟩, ⟨some true, none, some 7⟩] := by
  intro off stamped fields w
  have hstates : (w.store.items.pick [Saved.listStatesKey])[Saved.listStatesKey]? =
      some (.obj fields) := rfl
  obtain ⟨c', hrun, hall, -⟩ := loadState_all_or_none (c := .new .default) (w := w) rfl hstates
  exact ⟨c', hrun, by rw [hall (by decide)]; decide⟩

/-- The state of the first list can be read, but not the field after it, which belongs to no list:
the first list, which was turned off, is on again and has lost its last update. -/
theorem unreadable_state_spoils_others :
    let off : Json := .obj [("enabled", .bool false), ("lastUpdate", .int 5000),
      ("fingerprint", .int 7)]
    let fields := [("easylist", off), ("gone", .int 5)]
    let w : Memory := { store := { items := Saved.single Saved.listStatesKey (.obj fields) } }
    let l : StaticList := .ofConfig SyncConfig.easyList
    ListState.ofJson? off = some ⟨some false, some 5000, some 7⟩ ∧
      ((Coordinator.new .default).loadState : StateM Memory _) w = (.ok (.new .default), w) ∧
      l ∈ (Coordinator.new .default).lists ∧
      l.state = ⟨some true, none, none⟩ := by
  intro off fields w l
  exact ⟨by decide, rfl, by decide, rfl⟩

end Coordinator

end Blocklist
