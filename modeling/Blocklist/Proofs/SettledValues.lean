import Blocklist.Json.Settled
import Blocklist.Proofs.JsonText
import Blocklist.Proofs.SavedState
import Blocklist.Proofs.WireTables

/-!
# Values that are kept

A value without decimal numbers that is nested no deeper than values are read, and the fields of
whose objects are sorted, is kept as it is: its text is read as the value, and settling it changes
nothing. What a file without decimal numbers says is of this kind.

* `Json.Settled depth j`     `j` is of this kind, with at most `depth` levels;
* `Json.Settled.settle?`     settling leaves it as it is;
* `Json.settled_of_settle?`  what is settled is of this kind;
* `Items.Settled`            items that can be kept as one object;
* `Items.Settled.reads`      their text is read as these items;
* `Blocker.settled_filterItems`, …   what a blocker saves is of this kind.
-/

namespace Blocklist

theorem Items.toList_empty : (∅ : Items).toList = [] :=
  List.isEmpty_iff.mp Std.ExtTreeMap.isEmpty_toList

namespace Json

/-- at most `depth` levels of arrays and objects, the fields of an object being those of a table,
without decimal numbers -/
inductive Settled : Nat → Json → Prop where
  | null (depth : Nat) : Settled depth .null
  | bool (depth : Nat) (b : Bool) : Settled depth (.bool b)
  | int (depth : Nat) {n : Int} (h : Token.InRange n) : Settled depth (.int n)
  | str (depth : Nat) (s : String) : Settled depth (.str s)
  | arr {depth : Nat} {vs : List Json} (h : ∀ v ∈ vs, Settled depth v) :
      Settled (depth + 1) (.arr vs)
  | obj {depth : Nat} {items : Items} (h : ∀ f ∈ items.toList, Settled depth f.2) :
      Settled (depth + 1) (ofItems items)

theorem Settled.exact {depth : Nat} {j : Json} (h : Settled depth j) : j.Exact := by
  induction h with
  | null => exact .null
  | bool _ b => exact .bool b
  | int _ h => exact .int h
  | str _ s => exact .str s
  | arr _ ih => exact .arr ih
  | obj _ ih => exact .obj ih

/-! ## settling what is settled -/

section
variable {depth : Nat}

theorem settleItems?_of_forall {vs : List Json} (h : ∀ v ∈ vs, settle? depth v = some v) :
    settleItems? depth vs = some vs := by
  induction vs with
  | nil => rw [settleItems?]
  | cons v vs ih =>
    obtain ⟨hv, hvs⟩ := List.forall_mem_cons.mp h
    rw [settleItems?, hv]
    simp only [ih hvs, Option.map_some]

theorem settleFields?_of_forall {fs : List (String × Json)}
    (h : ∀ f ∈ fs, settle? depth f.2 = some f.2) (done : Items) :
    settleFields? depth fs done = some (fs.foldl (fun items f => items.insert f.1 f.2) done) := by
  induction fs generalizing done with
  | nil =>
    rw [settleFields?]
    rfl
  | cons f fs ih =>
    obtain ⟨hf, hfs⟩ := List.forall_mem_cons.mp h
    rw [settleFields?, hf]
    exact ih hfs _

theorem settleFields?_toList {items : Items}
    (h : ∀ f ∈ items.toList, settle? depth f.2 = some f.2) :
    settleFields? depth items.toList ∅ = some items := by
  rw [settleFields?_of_forall h, ← Std.ExtTreeMap.ofList_eq_foldl, ofList_toList]

end

theorem Settled.settle? {depth : Nat} {j : Json} (h : Settled depth j) :
    j.settle? depth = some j := by
  induction h with
  | null => rw [Json.settle?]
  | bool => rw [Json.settle?]
  | int => rw [Json.settle?]
  | str => rw [Json.settle?]
  | arr _ ih =>
    rw [Json.settle?, if_neg (Nat.succ_ne_zero _), Nat.add_sub_cancel, settleItems?_of_forall ih]
    rfl
  | obj _ ih =>
    rw [ofItems, Json.settle?, if_neg (Nat.succ_ne_zero _), Nat.add_sub_cancel,
      settleFields?_toList ih]
    rfl

/-! ## what has been settled -/

section
variable {depth : Nat}

theorem settled_of_settleItems? {vs us : List Json}
    (h : ∀ v ∈ vs, ∀ u, settle? depth v = some u → Settled depth u)
    (hsettle : settleItems? depth vs = some us) : ∀ u ∈ us, Settled depth u := by
  induction vs generalizing us with
  | nil =>
    rw [settleItems?] at hsettle
    cases hsettle
    exact nofun
  | cons v vs ih =>
    obtain ⟨hv, hvs⟩ := List.forall_mem_cons.mp h
    rw [settleItems?] at hsettle
    cases hfirst : settle? depth v with
    | none => simp only [hfirst, reduceCtorEq] at hsettle
    | some u =>
      simp only [hfirst] at hsettle
      obtain ⟨us', hrest, rfl⟩ := Option.map_eq_some_iff.mp hsettle
      exact List.forall_mem_cons.mpr ⟨hv u hfirst, ih hvs hrest⟩

theorem settled_of_settleFields? {fs : List (String × Json)} {items : Items}
    (h : ∀ f ∈ fs, ∀ u, settle? depth f.2 = some u → Settled depth u)
    (hsettle : settleFields? depth fs ∅ = some items) : ∀ f ∈ items.toList, Settled depth f.2 := by
  have hempty : ∀ f ∈ (∅ : Items).toList, Settled depth f.2 := by
    rw [Items.toList_empty]
    exact nofun
  -- any fields settled before will do
  generalize (∅ : Items) = done at hempty hsettle
  induction fs generalizing done with
  | nil =>
    rw [settleFields?] at hsettle
    cases hsettle
    exact hempty
  | cons f fs ih =>
    obtain ⟨hf, hfs⟩ := List.forall_mem_cons.mp h
    rw [settleFields?] at hsettle
    cases hfirst : settle? depth f.2 with
    | none => simp only [hfirst, reduceCtorEq] at hsettle
    | some u =>
      simp only [hfirst] at hsettle
      refine ih hfs _ (fun g hg => ?_) hsettle
      rw [Std.ExtTreeMap.mem_toList_iff_getElem?_eq_some, Std.ExtTreeMap.getElem?_insert] at hg
      split at hg
      · exact Option.some.inj hg ▸ hf u hfirst
      · exact hempty g (Std.ExtTreeMap.mem_toList_iff_getElem?_eq_some.mpr hg)

end

theorem settled_of_settle? {j u : Json} {depth : Nat} (h : j.Exact)
    (hsettle : j.settle? depth = some u) : Settled depth u := by
  induction h generalizing depth u with
  | null =>
    rw [Json.settle?] at hsettle
    exact Option.some.inj hsettle ▸ .null depth
  | bool b =>
    rw [Json.settle?] at hsettle
    exact Option.some.inj hsettle ▸ .bool depth b
  | int h =>
    rw [Json.settle?] at hsettle
    exact Option.some.inj hsettle ▸ .int depth h
  | str s =>
    rw [Json.settle?] at hsettle
    exact Option.some.inj hsettle ▸ .str depth s
  | arr _ ih =>
    rw [Json.settle?] at hsettle
    cases depth with
    | zero => cases hsettle
    | succ depth =>
      rw [if_neg (Nat.succ_ne_zero _), Nat.add_sub_cancel] at hsettle
      obtain ⟨us, hitems, rfl⟩ := Option.map_eq_some_iff.mp hsettle
      exact .arr (settled_of_settleItems? (fun v hv u => ih v hv) hitems)
  | obj _ ih =>
    rw [Json.settle?] at hsettle
    cases depth with
    | zero => cases hsettle
    | succ depth =>
      rw [if_neg (Nat.succ_ne_zero _), Nat.add_sub_cancel] at hsettle
      obtain ⟨items, hfields, rfl⟩ := Option.map_eq_some_iff.mp hsettle
      exact .obj (settled_of_settleFields? (fun f hf u => ih f hf) hfields)

end Json

/-! ## items -/

/-- The items can be kept as the fields of one object. -/
def Items.Settled (items : Items) : Prop :=
  ∀ f ∈ items.toList, f.2.Settled (Json.maxDepth - 1)

namespace Items.Settled

variable {items new : Items}

theorem exact (h : items.Settled) : (Json.ofItems items).Exact := .obj fun f hf => (h f hf).exact

theorem settledItems? (h : items.Settled) : (Json.ofItems items).settledItems? = some items :=
  Json.settleFields?_toList fun f hf => (h f hf).settle?

theorem empty : Items.Settled ∅ := by
  rw [Items.Settled, Items.toList_empty]
  exact nofun

theorem single {v : Json} (h : v.Settled (Json.maxDepth - 1)) (key : String) :
    (Saved.single key v).Settled := by
  intro f hf
  rw [Std.ExtTreeMap.mem_toList_iff_getElem?_eq_some] at hf
  by_cases hkey : f.1 = key
  · rw [hkey, Saved.single_self] at hf
    exact Option.some.inj hf ▸ h
  · rw [Saved.single_of_ne hkey] at hf
    cases hf

theorem insert (h : items.Settled) {v : Json} (hv : v.Settled (Json.maxDepth - 1))
    (key : String) : Items.Settled (items.insert key v) := by
  intro f hf
  rw [Std.ExtTreeMap.mem_toList_iff_getElem?_eq_some, Std.ExtTreeMap.getElem?_insert] at hf
  split at hf
  · exact Option.some.inj hf ▸ hv
  · exact h f (Std.ExtTreeMap.mem_toList_iff_getElem?_eq_some.mpr hf)

theorem update (h : items.Settled) (hnew : new.Settled) : (items.update new).Settled := by
  intro f hf
  rw [Std.ExtTreeMap.mem_toList_iff_getElem?_eq_some, Items.getElem?_update,
    Option.or_eq_some_iff] at hf
  rcases hf with hf | ⟨-, hf⟩
  · exact hnew f (Std.ExtTreeMap.mem_toList_iff_getElem?_eq_some.mpr hf)
  · exact h f (Std.ExtTreeMap.mem_toList_iff_getElem?_eq_some.mpr hf)

/-- the fields of an object without decimal numbers -/
theorem of_settledItems? {j : Json} (hj : j.Exact) (h : j.settledItems? = some items) :
    items.Settled := by
  cases hj with
  | obj hfs =>
    exact Json.settled_of_settleFields? (fun f hf u => Json.settled_of_settle? (hfs f hf)) h
  | _ => cases h

/-- items that are kept are read from their text -/
theorem reads (h : items.Settled) :
    (Json.ofBytes? (Json.ofItems items).pretty.toUTF8).bind Json.settledItems? = some items := by
  rw [Json.ofBytes?_pretty h.exact, Option.bind_some, h.settledItems?]

end Items.Settled

/-! ## what is saved -/

namespace Json

theorem settled_ofNat (depth : Nat) {n : Nat} (h : n < 0x10000000000000000) :
    Settled depth (.ofNat n) := by
  have hrange : Token.minInt = -0x8000000000000000 ∧ Token.maxInt = 0xffffffffffffffff := ⟨rfl, rfl⟩
  exact .int depth ⟨by omega, by omega⟩

theorem settled_ofStrings (depth : Nat) (ss : List String) :
    Settled (depth + 1) (ofStrings ss) := by
  refine .arr fun v hv => ?_
  obtain ⟨s, -, rfl⟩ := List.mem_map.mp hv
  exact .str depth s

/-- an object whose fields are listed in the order of their names -/
theorem settled_obj {depth : Nat} {fields : List (String × Json)}
    (sorted : (Std.ExtTreeMap.ofList fields : Items).toList = fields)
    (h : ∀ f ∈ fields, Settled depth f.2) : Settled (depth + 1) (.obj fields) := by
  rw [← sorted] at h ⊢
  exact .obj h

end Json

theorem CustomFilter.settled_toJson (depth : Nat) (c : CustomFilter) :
    Json.Settled (depth + 1) c.toJson := by
  refine Json.settled_obj rfl ?_
  simp only [List.forall_mem_cons]
  refine ⟨.str depth c.filter, Json.settled_ofNat depth ?_, nofun⟩
  have hid := c.id.toNat_lt
  omega

theorem ListState.settled_toJson (depth : Nat) (s : ListState) :
    Json.Settled (depth + 1) s.toJson := by
  have word : ∀ o : Option UInt64, Json.Settled depth (ofWord o) := by
    intro o
    cases o with
    | none => exact .null depth
    | some n => exact Json.settled_ofNat depth n.toNat_lt
  refine Json.settled_obj rfl ?_
  simp only [List.forall_mem_cons]
  refine ⟨?_, word s.fingerprint, word s.lastUpdate, nofun⟩
  cases s.enabled with
  | none => exact .null depth
  | some b => exact .bool depth b

theorem Saved.settled_listStatesToJson (depth : Nat) (states : ListStates) :
    Json.Settled (depth + 2) (listStatesToJson states) := by
  have htable : listStatesToJson states =
      Json.ofItems (states.map fun _ s => s.toJson) := by
    rw [listStatesToJson, Json.ofItems, Std.ExtTreeMap.toList_map]
  rw [htable]
  refine .obj fun f hf => ?_
  rw [Std.ExtTreeMap.toList_map] at hf
  obtain ⟨s, -, rfl⟩ := List.mem_map.mp hf
  exact s.2.settled_toJson depth

namespace Blocker

theorem settled_filterItems (filters : List CustomFilter) : (filterItems filters).Settled := by
  refine .single (.arr fun v hv => ?_) _
  obtain ⟨c, -, rfl⟩ := List.mem_map.mp hv
  exact c.settled_toJson _

theorem settled_whitelistItems (domains : List String) : (whitelistItems domains).Settled :=
  .single (Json.settled_ofStrings _ domains) _

theorem settled_enabledItems (enabled : Bool) : (enabledItems enabled).Settled :=
  .single (.bool _ enabled) _

end Blocker

theorem Coordinator.settled_items (c : Coordinator) : c.items.Settled := by
  have hstates := Items.Settled.single (Saved.settled_listStatesToJson _ c.states)
    Saved.listStatesKey
  rw [items]
  cases c.lastUpdate with
  | none => exact hstates
  | some n =>
    exact hstates.insert (Json.settled_ofNat _ n.toNat_lt) Saved.lastUpdateKey

end Blocklist
