import Blocklist.Proofs.BlockerRuns
import Blocklist.Proofs.CoordinatorRuns

/-!
# What is saved can be read again

Each value that a blocker saves is read as what it was, and saving under one key leaves the values
under the others as they are.

* `Items.getElem?_pick`, `Items.getElem?_update`   items that are read, and items that are written;
* `CustomFilter.ofJson?_toJson`, `ListState.ofJson?_toJson`, `Saved.listStates?_listStatesToJson`
                                    round trips of saved values;
* `Saved.customFilters_update`, …   what is read under a key after something was saved there;
* `Saved.single_of_ne`, `Coordinator.items_of_ne`   what is saved concerns its own keys;
* `Coordinator.withStates_states`   saved states of lists lead to the lists they come from.
-/

namespace Blocklist

/-! ## items -/

namespace Items

theorem getElem?_ofList_of_mem {V : Type} {l : List (String × V)} {k : String} {v : V}
    (hnd : (l.map Prod.fst).Nodup) (h : (k, v) ∈ l) : (Std.ExtTreeMap.ofList l)[k]? = some v := by
  refine Std.ExtTreeMap.getElem?_ofList_of_mem Std.ReflCmp.compare_self ?_ h
  refine (List.pairwise_map.mp hnd).imp fun hne heq => hne ?_
  exact Std.compare_eq_iff_eq.mp heq

theorem getElem?_ofList_of_not_mem {V : Type} {l : List (String × V)} {k : String}
    (h : k ∉ l.map Prod.fst) : (Std.ExtTreeMap.ofList l)[k]? = none := by
  refine Std.ExtTreeMap.getElem?_ofList_of_contains_eq_false ?_
  rw [List.contains_eq_mem]
  exact decide_eq_false h

theorem getElem?_pick (items : Items) {keys : List String} {k : String} (hnd : keys.Nodup)
    (hk : k ∈ keys) : (items.pick keys)[k]? = items[k]? := by
  have fst_sublist : ((keys.filterMap fun key => items[key]?.map fun v => (key, v)).map
      Prod.fst).Sublist keys := by
    clear hnd hk
    induction keys with
    | nil => exact List.Sublist.slnil
    | cons key keys ih =>
      rw [List.filterMap_cons]
      cases items[key]? with
      | none => exact ih.cons key
      | some v => exact ih.cons_cons key
  rw [pick]
  cases hv : items[k]? with
  | some v =>
    refine getElem?_ofList_of_mem (fst_sublist.nodup hnd) (List.mem_filterMap.mpr ⟨k, hk, ?_⟩)
    rw [hv]
    rfl
  | none =>
    refine getElem?_ofList_of_not_mem fun hmem => ?_
    obtain ⟨p, hp, rfl⟩ := List.mem_map.mp hmem
    obtain ⟨key, -, hsome⟩ := List.mem_filterMap.mp hp
    obtain ⟨v, hkey, rfl⟩ := Option.map_eq_some_iff.mp hsome
    rw [hv] at hkey
    cases hkey

theorem getElem?_update (items new : Items) (k : String) :
    (items.update new)[k]? = new[k]?.or items[k]? := by
  rw [update, Std.ExtTreeMap.foldl_eq_foldl_toList, ← Std.ExtTreeMap.insertMany_list_eq_foldl]
  cases hv : new[k]? with
  | some v =>
    exact Std.ExtTreeMap.getElem?_insertMany_list_of_mem Std.ReflCmp.compare_self
      Std.ExtTreeMap.distinct_keys_toList (Std.ExtTreeMap.mem_toList_iff_getElem?_eq_some.mpr hv)
  | none =>
    rw [Option.none_or]
    refine Std.ExtTreeMap.getElem?_insertMany_list_of_contains_eq_false ?_
    rw [Std.ExtTreeMap.map_fst_toList_eq_keys, List.contains_eq_mem]
    refine decide_eq_false fun hmem => ?_
    rw [Std.ExtTreeMap.mem_keys, Std.ExtTreeMap.mem_iff_isSome_getElem?, hv] at hmem
    cases hmem

theorem getElem?_update_of_none {items new : Items} {k : String} (h : new[k]? = none) :
    (items.update new)[k]? = items[k]? := by
  rw [getElem?_update, h, Option.none_or]

theorem getElem?_update_of_some {items new : Items} {k : String} {v : Json} (h : new[k]? = some v) :
    (items.update new)[k]? = some v := by
  rw [getElem?_update, h, Option.some_or]

end Items

/-! ## values -/

theorem Json.list?_map {α : Type} {write : α → Json} {read : Json → Option α}
    (h : ∀ a, read (write a) = some a) (as : List α) :
    Json.list? read (.arr (as.map write)) = some as := by
  show (as.map write).mapM read = some as
  induction as with
  | nil => rfl
  | cons a as ih =>
    rw [List.map_cons, List.mapM_cons, h, ih]
    rfl

theorem CustomFilter.ofJson?_toJson (c : CustomFilter) : ofJson? c.toJson = some c := by
  have hrecord : c.toJson.record? fieldNames =
      some [some (.ofNat c.id.toNat), some (.str c.filter)] := rfl
  rw [ofJson?, hrecord]
  show (Json.word32? (.ofNat c.id.toNat)).bind _ = _
  rw [Json.word32?_ofNat_toNat]
  rfl

theorem ListState.optional_ofWord (n : Option UInt64) :
    Json.optional? Json.word64? (ofWord n) = some n := by
  cases n with
  | none => rfl
  | some n =>
    show (Json.word64? (.ofNat n.toNat)).map some = _
    rw [Json.word64?_ofNat_toNat]
    rfl

theorem ListState.optional_ofBool (b : Option Bool) :
    Json.optional? Json.bool? (Json.ofOption .bool b) = some b := by
  cases b <;> rfl

theorem ListState.ofJson?_toJson (s : ListState) : ofJson? s.toJson = some s := by
  have hrecord : s.toJson.record? fieldNames = some [some (Json.ofOption .bool s.enabled),
      some (ofWord s.lastUpdate), some (ofWord s.fingerprint)] := rfl
  rw [ofJson?, hrecord]
  show (Json.optional? Json.bool? (Json.ofOption .bool s.enabled)).bind _ = _
  rw [optional_ofBool]
  show (Json.optional? Json.word64? (ofWord s.lastUpdate)).bind _ = _
  rw [optional_ofWord]
  show (Json.optional? Json.word64? (ofWord s.fingerprint)).bind _ = _
  rw [optional_ofWord]
  rfl

namespace Saved

theorem listStates?_listStatesToJson (states : ListStates) :
    listStates? (listStatesToJson states) = some states := by
  have hread : ∀ l : List (String × ListState),
      (l.map fun s => (s.1, s.2.toJson)).mapM
        (fun f => (ListState.ofJson? f.2).map fun s => (f.1, s)) = some l := by
    intro l
    induction l with
    | nil => rfl
    | cons s l ih =>
      rw [List.map_cons, List.mapM_cons, ih, ListState.ofJson?_toJson]
      rfl
  have htable : (Std.ExtTreeMap.ofList states.toList : ListStates) = states := by
    apply Std.ExtTreeMap.ext_getElem?
    intro k
    have hnd : (states.toList.map Prod.fst).Nodup := by
      rw [Std.ExtTreeMap.map_fst_toList_eq_keys]
      exact Std.ExtTreeMap.nodup_keys
    cases hs : states[k]? with
    | some s =>
      exact Items.getElem?_ofList_of_mem hnd (Std.ExtTreeMap.mem_toList_iff_getElem?_eq_some.mpr hs)
    | none =>
      refine Items.getElem?_ofList_of_not_mem fun hmem => ?_
      rw [Std.ExtTreeMap.map_fst_toList_eq_keys, Std.ExtTreeMap.mem_keys,
        Std.ExtTreeMap.mem_iff_isSome_getElem?, hs] at hmem
      cases hmem
  show Option.map _ ((states.toList.map fun s => (s.1, s.2.toJson)).mapM _) = _
  rw [hread]
  show some (Std.ExtTreeMap.ofList states.toList : ListStates) = _
  rw [htable]

/-! ## saving and reading -/

theorem single_self (key : String) (v : Json) : (single key v)[key]? = some v :=
  Items.getElem?_ofList_of_mem (List.nodup_singleton key) List.mem_cons_self

theorem single_of_ne {key k : String} (h : k ≠ key) (v : Json) : (single key v)[k]? = none :=
  Items.getElem?_ofList_of_not_mem fun hmem => h (List.mem_singleton.mp hmem)

section
variable {items new : Items}

theorem customFilters_of_none (h : new[customFiltersKey]? = none) :
    customFilters (items.update new) = customFilters items := by
  rw [customFilters, Items.getElem?_update_of_none h]
  rfl

theorem whitelist_of_none (h : new[whitelistKey]? = none) :
    whitelist (items.update new) = whitelist items := by
  rw [whitelist, Items.getElem?_update_of_none h]
  rfl

theorem enabled_of_none (h : new[enabledKey]? = none) :
    enabled (items.update new) = enabled items := by
  rw [enabled, Items.getElem?_update_of_none h]
  rfl

theorem listStates_of_none (h : new[listStatesKey]? = none) :
    listStates (items.update new) = listStates items := by
  rw [listStates, Items.getElem?_update_of_none h]
  rfl

end

end Saved

namespace Blocker

variable {k : String}

theorem filterItems_of_ne (h : k ≠ Saved.customFiltersKey) (filters : List CustomFilter) :
    (filterItems filters)[k]? = none := Saved.single_of_ne h _

theorem whitelistItems_of_ne (h : k ≠ Saved.whitelistKey) (domains : List String) :
    (whitelistItems domains)[k]? = none := Saved.single_of_ne h _

theorem enabledItems_of_ne (h : k ≠ Saved.enabledKey) (enabled : Bool) :
    (enabledItems enabled)[k]? = none := Saved.single_of_ne h _

end Blocker

namespace Saved

theorem customFilters_update (items : Items) (filters : List CustomFilter) :
    customFilters (items.update (Blocker.filterItems filters)) = filters := by
  rw [customFilters, Blocker.filterItems, Items.getElem?_update_of_some (single_self _ _),
    Option.bind_some, customFiltersToJson, Json.list?_map CustomFilter.ofJson?_toJson]
  rfl

theorem whitelist_update (items : Items) (domains : List String) :
    whitelist (items.update (Blocker.whitelistItems domains)) = domains := by
  rw [whitelist, Blocker.whitelistItems, Items.getElem?_update_of_some (single_self _ _),
    Option.bind_some, Json.strings?_ofStrings]
  rfl

theorem enabled_update (items : Items) (b : Bool) :
    enabled (items.update (Blocker.enabledItems b)) = b := by
  rw [enabled, Blocker.enabledItems, Items.getElem?_update_of_some (single_self _ _)]
  rfl

end Saved

/-! ## states of lists -/

namespace Coordinator

theorem items_self (c : Coordinator) :
    c.items[Saved.listStatesKey]? = some (Saved.listStatesToJson c.states) := by
  rw [items]
  cases c.lastUpdate with
  | none => exact Saved.single_self _ _
  | some n =>
    show ((Saved.single _ _).insert Saved.lastUpdateKey _)[Saved.listStatesKey]? = _
    rw [Std.ExtTreeMap.getElem?_insert, if_neg (by decide), Saved.single_self]

theorem items_of_ne (c : Coordinator) {k : String} (hstates : k ≠ Saved.listStatesKey)
    (hupdate : k ≠ Saved.lastUpdateKey) : c.items[k]? = none := by
  rw [items]
  cases c.lastUpdate with
  | none => exact Saved.single_of_ne hstates _
  | some n =>
    show ((Saved.single _ _).insert Saved.lastUpdateKey _)[k]? = _
    rw [Std.ExtTreeMap.getElem?_insert, if_neg, Saved.single_of_ne hstates]
    exact fun heq => hupdate (Std.compare_eq_iff_eq.mp heq).symm

theorem listStates_update (items : Items) (c : Coordinator) :
    Saved.listStates (items.update c.items) = c.states := by
  rw [Saved.listStates, Items.getElem?_update_of_some c.items_self, Option.bind_some,
    Saved.listStates?_listStatesToJson]
  rfl

theorem getElem?_states {c : Coordinator} (hnd : (c.lists.map StaticList.id).Nodup) {l : StaticList}
    (hl : l ∈ c.lists) : c.states[l.id]? = some l.state := by
  refine Items.getElem?_ofList_of_mem ?_ (List.mem_map_of_mem hl)
  rw [List.map_map]
  exact hnd

/-- a list that is configured alike, with the state of another, is the other -/
theorem withState_state {l l₀ : StaticList} (h : l.origin = l₀.origin) :
    l₀.withState l.state = l := by
  obtain ⟨hid, hname, hurl, hwindow⟩ :
      l.id = l₀.id ∧ l.name = l₀.name ∧ l.url = l₀.url ∧ l.window = l₀.window := by
    simpa [StaticList.origin] using h
  rw [StaticList.withState, ← hid, ← hname, ← hurl, ← hwindow]
  rfl

theorem withStates_states {c₀ c : Coordinator} (keeps : c₀.Keeps c)
    (hnd : (c.lists.map StaticList.id).Nodup) : (c₀.withStates c.states).lists = c.lists := by
  apply List.ext_getElem?
  intro i
  have horigins := congrArg (fun ls => ls[i]?) keeps.origins
  simp only [List.getElem?_map] at horigins
  rw [withStates]
  show (c₀.lists.map _)[i]? = _
  rw [List.getElem?_map]
  cases hl : c.lists[i]? with
  | none =>
    rw [hl] at horigins
    rw [Option.map_eq_none_iff.mp horigins.symm]
    rfl
  | some l =>
    rw [hl] at horigins
    obtain ⟨l₀, hl₀, horigin⟩ := Option.map_eq_some_iff.mp horigins.symm
    have hid : l₀.id = l.id := congrArg Prod.fst horigin
    have hstate := getElem?_states hnd (List.mem_of_getElem? hl)
    rw [hl₀, Option.map_some, hid, hstate]
    exact congrArg some (withState_state horigin.symm)

end Coordinator

end Blocklist
