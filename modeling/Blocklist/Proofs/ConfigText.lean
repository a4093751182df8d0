import Mathlib.Data.List.Basic
import Blocklist.Config.Wire
import Blocklist.Proofs.RuleText

/-!
# Configurations survive being written

Every part of a configuration is read as it was written: lists with and without an address, numbers
up to the largest of their type. A text that is accepted may leave fields out; the text of the
configuration it gives has all of them, and is accepted as that configuration.

* `ListConfig.ofJson?_toJson`, `RetryPolicy.ofJson?_toJson`, `CapacityLimits.ofJson?_toJson`,
  `SyncConfig.ofJson?_toJson`      the value of each part is read as the part;
* `SyncConfig.exact_toJson`        it has nothing that is read as something else;
* `SyncConfig.parse_eq_ok_iff`     the texts that are accepted;
* `SyncConfig.text_round_trip`     writing and reading, in both orders.
-/

namespace Blocklist

theorem Json.exact_ofWord64 (n : UInt64) : Exact (.ofNat n.toNat) := by
  have hn := n.toNat_lt
  have hrange : Token.minInt = -0x8000000000000000 ∧ Token.maxInt = 0xffffffffffffffff := ⟨rfl, rfl⟩
  exact .int ⟨by omega, by omega⟩

/-- a value or `null`, read again -/
theorem Json.optional?_ofOption {α : Type} {read : Json → Option α} {write : α → Json}
    (h : ∀ a, read (write a) = some a) (hnull : ∀ a, write a ≠ .null) (o : Option α) :
    optional? read (ofOption write o) = some o := by
  cases o with
  | none => rfl
  | some a =>
    show optional? read (write a) = some (some a)
    rw [optional?, h]
    · rfl
    · exact hnull a

theorem Json.exact_ofOption {α : Type} {write : α → Json} (h : ∀ a, (write a).Exact)
    (o : Option α) : (ofOption write o).Exact := by
  cases o with
  | none => exact .null
  | some a => exact h a

/-! ## parts of a configuration -/

theorem ListConfig.ofJson?_toJson (l : ListConfig) : ofJson? l.toJson = some l := by
  have hrecord : l.toJson.record? fieldNames = some [some (.str l.id), some (.str l.name),
      some (Json.ofOption .str l.url), some (.bool l.enabled), some (.ofNat l.idBase.toNat),
      some (.ofNat l.capacity.toNat)] := rfl
  have hstr : ∀ s : String, (Json.str s).str? = some s := fun _ => rfl
  have hurl : Json.orElse none (Json.optional? Json.str?) (some (Json.ofOption .str l.url)) =
      some l.url := Json.optional?_ofOption hstr (fun _ => nofun) l.url
  rw [ofJson?, hrecord]
  simp only [Option.bind_some, hurl, Json.word32?_ofNat_toNat]
  rfl

theorem ListConfig.exact_toJson (l : ListConfig) : l.toJson.Exact := by
  refine .obj ?_
  simp only [List.forall_mem_cons]
  exact ⟨.str l.id, .str l.name, Json.exact_ofOption .str l.url, .bool l.enabled,
    Json.exact_ofWord l.idBase, Json.exact_ofWord l.capacity, nofun⟩

theorem RetryPolicy.ofJson?_toJson (p : RetryPolicy) : ofJson? p.toJson = some p := by
  have hrecord : p.toJson.record? fieldNames = some [some (.ofNat p.maxAttempts.toNat),
      some (.ofNat p.baseDelayMs.toNat), some (.ofNat p.maxDelayMs.toNat)] := rfl
  rw [ofJson?, hrecord]
  simp only [Json.orElse, Json.word32?_ofNat_toNat, Json.word64?_ofNat_toNat]
  rfl

theorem RetryPolicy.exact_toJson (p : RetryPolicy) : p.toJson.Exact := by
  refine .obj ?_
  simp only [List.forall_mem_cons]
  exact ⟨Json.exact_ofWord p.maxAttempts, Json.exact_ofWord64 p.baseDelayMs,
    Json.exact_ofWord64 p.maxDelayMs, nofun⟩

theorem CapacityLimits.ofJson?_toJson (l : CapacityLimits) : ofJson? l.toJson = some l := by
  have hrecord : l.toJson.record? fieldNames = some [some (.ofNat l.dynamic.toNat),
      some (.ofNat l.session.toNat)] := rfl
  rw [ofJson?, hrecord]
  simp only [Json.orElse, Json.word64?_ofNat_toNat]
  rfl

theorem CapacityLimits.exact_toJson (l : CapacityLimits) : l.toJson.Exact := by
  refine .obj ?_
  simp only [List.forall_mem_cons]
  exact ⟨Json.exact_ofWord64 l.dynamic, Json.exact_ofWord64 l.session, nofun⟩

namespace SyncConfig

variable {c : SyncConfig} {s : String}

/-! ## the whole -/

theorem ofJson?_toJson (c : SyncConfig) : ofJson? c.toJson = some c := by
  have hrecord : c.toJson.record? fieldNames = some [some (.arr (c.lists.map ListConfig.toJson)),
      some (.ofNat c.refreshIntervalSecs.toNat), some c.retry.toJson, some c.limits.toJson] := rfl
  have hlists : Json.list? ListConfig.ofJson? (.arr (c.lists.map ListConfig.toJson)) =
      some (c.lists.map id) :=
    Json.mapM_map_some fun l _ => l.ofJson?_toJson
  rw [List.map_id] at hlists
  rw [ofJson?, hrecord]
  simp only [Json.orElse, hlists, Json.word64?_ofNat_toNat, RetryPolicy.ofJson?_toJson,
    CapacityLimits.ofJson?_toJson]
  rfl

theorem exact_toJson (c : SyncConfig) : c.toJson.Exact := by
  refine .obj ?_
  simp only [List.forall_mem_cons]
  refine ⟨.arr fun v hv => ?_, Json.exact_ofWord64 c.refreshIntervalSecs, c.retry.exact_toJson,
    c.limits.exact_toJson, nofun⟩
  obtain ⟨l, -, rfl⟩ := List.mem_map.mp hv
  exact l.exact_toJson

/-- a text is accepted if it reads as a configuration, and that is valid -/
theorem parse_eq_ok_iff :
    parse s = .ok c ↔ (Json.ofString? s).bind ofJson? = some c ∧ c.validate = .ok () := by
  rw [parse]
  cases (Json.ofString? s).bind ofJson? with
  | none => exact ⟨nofun, fun h => nomatch h.1⟩
  | some c' =>
    dsimp only
    cases hvalid : c'.validate with
    | error e =>
      refine ⟨nofun, fun h => ?_⟩
      rw [Option.some.inj h.1, h.2] at hvalid
      cases hvalid
    | ok u => exact ⟨fun h => Except.ok.inj h ▸ ⟨rfl, hvalid⟩, fun h => by rw [Option.some.inj h.1]⟩

theorem parse_of_reads (hvalid : c.validate = .ok ()) (h : Json.ofString? s = some c.toJson) :
    parse s = .ok c :=
  parse_eq_ok_iff.mpr ⟨by rw [h, Option.bind_some, ofJson?_toJson], hvalid⟩

/-- A valid configuration is what its text gives, over several lines or on one. What was accepted in
any text is accepted again, unchanged, from a text that it is written to. -/
theorem text_round_trip :
    (∀ c : SyncConfig, c.validate = .ok () →
      parse c.toJson.pretty = .ok c ∧ parse c.toJson.compact = .ok c) ∧
    ∀ (s : String) (c : SyncConfig), parse s = .ok c →
      parse c.toJson.pretty = .ok c ∧ parse c.toJson.compact = .ok c := by
  have written : ∀ c : SyncConfig, c.validate = .ok () →
      parse c.toJson.pretty = .ok c ∧ parse c.toJson.compact = .ok c := fun c hvalid =>
    ⟨parse_of_reads hvalid (Json.ofString?_pretty c.exact_toJson),
      parse_of_reads hvalid (Json.ofString?_compact c.exact_toJson)⟩
  exact ⟨written, fun s c h => written c (parse_eq_ok_iff.mp h).2⟩

/-- a list without an address and with a name that has to be escaped, and the largest numbers; and a
text that leaves nearly everything out -/
theorem text_round_trip_largest :
    let list : ListConfig := ⟨"a\"/\\é\x01", "\n😀", none, false, 99999, 1⟩
    let largest : SyncConfig := ⟨[list], 18446744073709551615,
      ⟨4294967295, 18446744073709551615, 0⟩, ⟨18446744073709551615, 0⟩⟩
    let short := "\x7b\"lists\": [[\"a\", \"A\", null, true, 1, 10]], \"note\": 1e5\x7d"
    let filled : SyncConfig := { lists := [⟨"a", "A", none, true, 1, 10⟩] }
    largest.validate = .ok () ∧ parse largest.toJson.pretty = .ok largest ∧
      parse largest.toJson.compact = .ok largest ∧
      parse short = .ok filled ∧ parse filled.toJson.pretty = .ok filled := by
  intro list largest short filled
  have hvalid : largest.validate = .ok () := by decide
  have hshort : parse short = .ok filled := by decide +kernel
  obtain ⟨hpretty, hcompact⟩ := text_round_trip.1 largest hvalid
  exact ⟨hvalid, hpretty, hcompact, hshort, (text_round_trip.2 short filled hshort).1⟩

end SyncConfig

end Blocklist
