import Blocklist.Proofs.JsonText
import Blocklist.Rule.Wire

/-!
# Rules are read as they are written

A rule on the wire is read as the rule it was, but for the filter line it was compiled from, which
is not written. This holds of the value and of its text.

* `Json.written`, `Json.record?_written`   records whose fields may be missing;
* `ResourceTypes.ofWireNames?_wireNames`   sets of resource types;
* `Condition.ofJson?_toJson`, `Rule.ofJsonWithin?_toJson`   conditions and rules;
* `Rule.listOfJson?_listToJson`            lists of rules;
* `Rule.exact_listToJson`                  they have nothing that is read as something else.
-/

namespace Blocklist

/-! ## records -/

namespace Json

/-- the fields of a record, without those that are missing -/
def written (parts : List (String × Option Json)) : List (String × Json) :=
  parts.flatMap fun p => p.2.toList.map fun v => (p.1, v)

theorem filter_written_of_not_mem {parts : List (String × Option Json)} {name : String}
    (h : name ∉ parts.map Prod.fst) : ((written parts).filter fun f => f.1 = name) = [] := by
  rw [List.filter_eq_nil_iff]
  intro f hf
  obtain ⟨p, hp, hf⟩ := List.mem_flatMap.mp hf
  obtain ⟨v, -, rfl⟩ := List.mem_map.mp hf
  rw [decide_eq_true_eq]
  rintro rfl
  exact h (List.mem_map_of_mem hp)

theorem field?_written {parts : List (String × Option Json)} (hnd : (parts.map Prod.fst).Nodup)
    {p : String × Option Json} (hp : p ∈ parts) : field? (written parts) p.1 = some p.2 := by
  have hfilter : ((written parts).filter fun f => f.1 = p.1) =
      p.2.toList.map fun v => (p.1, v) := by
    induction parts with
    | nil => cases hp
    | cons q parts ih =>
      rw [List.map_cons, List.nodup_cons] at hnd
      rw [written, List.flatMap_cons, List.filter_append]
      rcases List.mem_cons.mp hp with rfl | hp
      · have hrest := filter_written_of_not_mem hnd.1
        rw [written] at hrest
        rw [hrest, List.append_nil, List.filter_eq_self]
        intro f hf
        obtain ⟨v, -, rfl⟩ := List.mem_map.mp hf
        exact decide_eq_true rfl
      · have hne : q.1 ≠ p.1 := fun h => hnd.1 (h ▸ List.mem_map_of_mem hp)
        have hhead : ((q.2.toList.map fun v => (q.1, v)).filter fun f => f.1 = p.1) = [] := by
          rw [List.filter_eq_nil_iff]
          intro f hf
          obtain ⟨v, -, rfl⟩ := List.mem_map.mp hf
          rw [decide_eq_true_eq]
          exact hne
        rw [hhead, List.nil_append]
        exact ih hnd.2 hp
  rw [field?, hfilter]
  cases p.2 <;> rfl

theorem mapM_map_some {α β γ : Type} {f : β → Option γ} {g : α → β} {k : α → γ} {as : List α}
    (h : ∀ a ∈ as, f (g a) = some (k a)) : (as.map g).mapM f = some (as.map k) := by
  induction as with
  | nil => rfl
  | cons a as ih =>
    obtain ⟨ha, has⟩ := List.forall_mem_cons.mp h
    rw [List.map_cons, List.mapM_cons, ha, ih has]
    rfl

/-- a record is read as the parts it was written from -/
theorem record?_written {parts : List (String × Option Json)}
    (hnd : (parts.map Prod.fst).Nodup) :
    record? (parts.map Prod.fst) (.obj (written parts)) = some (parts.map Prod.snd) :=
  mapM_map_some fun _ => field?_written hnd

theorem orElse_optional {α : Type} {read : Json → Option α} {write : α → Json}
    (h : ∀ a, read (write a) = some a) (hnull : ∀ a, write a ≠ .null) (o : Option α) :
    orElse none (optional? read) (o.map write) = some o := by
  cases o with
  | none => rfl
  | some a =>
    show optional? read (write a) = some (some a)
    rw [optional?, h]
    · rfl
    · exact hnull a

end Json

/-! ## resource types -/

namespace ResourceTypes

theorem mem_foldl_insert {ts : List ResourceType} {s : ResourceTypes} {t : ResourceType} :
    t ∈ ts.foldl insert s ↔ t ∈ s ∨ t ∈ ts := by
  induction ts generalizing s with
  | nil => simp
  | cons u ts ih => rw [List.foldl_cons, ih, mem_insert, List.mem_cons, or_assoc]

theorem ofList_toList (s : ResourceTypes) : ofList s.toList = s := by
  rw [ext_iff]
  intro t
  rw [ofList, mem_foldl_insert, mem_toList]
  exact or_iff_right (not_mem_empty t)

theorem ofWireNames?_wireNames (s : ResourceTypes) : ofWireNames? s.wireNames = some s := by
  have hread : s.wireNames.mapM ResourceType.ofWireName? = some (s.toList.map id) :=
    Json.mapM_map_some fun t _ => ResourceType.ofWireName?_wireName t
  rw [ofWireNames?, hread, List.map_id, Option.map_some, ofList_toList]

theorem ofJson?_toJson (s : ResourceTypes) : ofJson? s.toJson = some s := by
  rw [ofJson?, toJson, Json.strings?_ofStrings, Option.bind_some, ofWireNames?_wireNames]

end ResourceTypes

/-! ## conditions -/

theorem Party.ofJson?_str (p : Party) : ofJson? (.str p.wireName) = some p :=
  ofWireName?_wireName p

namespace Condition

theorem optionalField_eq {α : Type} (name : String) (write : α → Json) (o : Option α) :
    optionalField name write o = (o.map write).toList.map fun v => (name, v) := by
  cases o <;> rfl

/-- the fields of a condition, in their order -/
def parts (c : Condition) : List (String × Option Json) :=
  [("urlFilter", c.urlFilter.map .str),
    ("requestDomains", c.requestDomains.map .ofStrings),
    ("resourceTypes", some c.resourceTypes.toJson),
    ("initiatorDomains", c.initiatorDomains.map .ofStrings),
    ("excludedInitiatorDomains", c.excludedInitiatorDomains.map .ofStrings),
    ("domainType", c.party.map fun p => .str p.wireName),
    ("isUrlFilterCaseSensitive", c.caseSensitive.map .bool)]

theorem toJson_eq (c : Condition) : c.toJson = .obj (Json.written c.parts) := by
  simp only [toJson, optionalField_eq, parts, Json.written, List.flatMap_cons, List.flatMap_nil,
    List.append_assoc, List.append_nil]
  rfl

theorem ofJson?_toJson (c : Condition) : ofJson? c.toJson = some c := by
  have hrecord : Json.record? fieldNames (.obj (Json.written c.parts)) =
      some (c.parts.map Prod.snd) :=
    Json.record?_written (by decide : fieldNames.Nodup)
  have hstr : ∀ s : String, (Json.str s).str? = some s := fun _ => rfl
  have hbool : ∀ b : Bool, (Json.bool b).bool? = some b := fun _ => rfl
  have hurl := Json.orElse_optional hstr (fun _ => nofun) c.urlFilter
  have hstrings := Json.orElse_optional Json.strings?_ofStrings fun _ => nofun
  have hparty := Json.orElse_optional Party.ofJson?_str (fun _ => nofun) c.party
  have hcase := Json.orElse_optional hbool (fun _ => nofun) c.caseSensitive
  have htypes : Json.orElse .usual ResourceTypes.ofJson? (some c.resourceTypes.toJson) =
      some c.resourceTypes :=
    ResourceTypes.ofJson?_toJson c.resourceTypes
  rw [toJson_eq, ofJson?, hrecord]
  simp only [parts, List.map_cons, List.map_nil, hurl, hstrings, htypes, hparty, hcase]
  rfl

end Condition

/-! ## rules -/

theorem Action.ofJson?_toJson (a : Action) (depth : Nat) : ofJson? depth a.toJson = some a := by
  have hsettled : (Json.settleFields? (depth - 1) [("type", .str a.wireName)] ∅).isSome := by
    rw [Json.settleFields?, Json.settle?]
    rfl
  rw [toJson, ofJson?, if_pos hsettled]
  exact ofWireName?_wireName a

namespace Rule

theorem ofJsonWithin?_toJson (depth : Nat) (r : Rule) :
    ofJsonWithin? depth r.toJson = some r.wire := by
  have hrecord : Json.record? fieldNames r.toJson = some [some (.ofNat r.id.toNat),
      some (.ofNat r.priority.toNat), some r.action.toJson, some r.condition.toJson] := rfl
  rw [ofJsonWithin?, hrecord]
  simp only [Option.bind_some, Json.word32?_ofNat_toNat, Action.ofJson?_toJson,
    Condition.ofJson?_toJson]
  rfl

theorem listOfJson?_listToJson (rules : List Rule) :
    listOfJson? (listToJson rules) = some (rules.map wire) :=
  Json.mapM_map_some fun r _ => ofJsonWithin?_toJson _ r

end Rule

/-! ## texts -/

namespace Json

theorem exact_ofStrings (ss : List String) : Exact (.ofStrings ss) := by
  refine .arr fun v hv => ?_
  obtain ⟨s, -, rfl⟩ := List.mem_map.mp hv
  exact .str s

theorem exact_ofWord (n : UInt32) : Exact (.ofNat n.toNat) := by
  have hn := n.toNat_lt
  have hrange : Token.minInt = -0x8000000000000000 ∧ Token.maxInt = 0xffffffffffffffff := ⟨rfl, rfl⟩
  exact .int ⟨by omega, by omega⟩

theorem exact_written {parts : List (String × Option Json)}
    (h : ∀ p ∈ parts, ∀ v, p.2 = some v → Exact v) : Exact (.obj (written parts)) := by
  refine .obj fun f hf => ?_
  obtain ⟨p, hp, hf⟩ := List.mem_flatMap.mp hf
  obtain ⟨v, hv, rfl⟩ := List.mem_map.mp hf
  exact h p hp v (Option.mem_toList.mp hv)

end Json

theorem Condition.exact_toJson (c : Condition) : c.toJson.Exact := by
  have field {α : Type} {write : α → Json} (h : ∀ a, (write a).Exact) {o : Option α} {v : Json}
      (hv : o.map write = some v) : v.Exact := by
    obtain ⟨a, -, rfl⟩ := Option.map_eq_some_iff.mp hv
    exact h a
  rw [toJson_eq]
  apply Json.exact_written
  simp only [parts, List.forall_mem_cons]
  refine ⟨fun v => field .str, fun v => field Json.exact_ofStrings, fun v hv => ?_,
    fun v => field Json.exact_ofStrings, fun v => field Json.exact_ofStrings,
    fun v => field fun p : Party => .str p.wireName, fun v => field .bool, nofun⟩
  injection hv with hv
  exact hv ▸ Json.exact_ofStrings c.resourceTypes.wireNames

namespace Rule

theorem exact_toJson (r : Rule) : r.toJson.Exact := by
  refine .obj ?_
  simp only [List.forall_mem_cons]
  refine ⟨Json.exact_ofWord r.id, Json.exact_ofWord r.priority, ?_, r.condition.exact_toJson, nofun⟩
  refine .obj ?_
  simp only [List.forall_mem_cons]
  exact ⟨.str r.action.wireName, nofun⟩

theorem exact_listToJson (rules : List Rule) : (listToJson rules).Exact := by
  refine .arr fun v hv => ?_
  obtain ⟨r, -, rfl⟩ := List.mem_map.mp hv
  exact r.exact_toJson

end Rule

end Blocklist
