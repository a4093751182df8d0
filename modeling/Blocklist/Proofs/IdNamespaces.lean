import Blocklist.Proofs.Store
import Blocklist.Proofs.ValidConfig

/-!
# Ids of different tiers never meet

The store of a valid configuration confines each list to its window, and windows, dynamic ids and
session ids are apart. No operation of the store looks beyond its own tier; still no two tiers ever
hold the same id.

* `RuleStore.Operation`, `RuleStore.Reaches`   what can have happened to a store;
* `RuleStore.Operation.leads`        an operation concerns one tier, to which it gives a table that
                                     the tier may have;
* `RuleStore.Reaches.sound`, `RuleStore.Reaches.bounds`, `RuleStore.Reaches.table_of_unknown`
                                     what a run keeps;
* `SyncConfig.idRange_newStore`      the windows of a new store are those of the configuration;
* `SyncConfig.eq_of_contains`        an id is in the range of one tier only;
* `RuleStore.Separated`, `RuleStore.Reaches.separated`   what follows for the rules.
-/

namespace Blocklist

namespace RuleStore

/-! ## runs -/

inductive Operation where
  | add (tier : Tier) (rule : Rule)
  | remove (tier : Tier) (id : RuleId)
  | replaceAll (tier : Tier) (rules : List Rule)
  | dropTier (tier : Tier)
  | allocateDynamicId
  | releaseDynamicId (id : RuleId)
  deriving DecidableEq, Repr

namespace Operation

/-- the tier that an operation is about -/
def tier : Operation → Tier
  | add tier _ => tier
  | remove tier _ => tier
  | replaceAll tier _ => tier
  | dropTier tier => tier
  | allocateDynamicId => .dynamic
  | releaseDynamicId _ => .dynamic

/-- the store after an operation, be it one that was refused -/
def run (s : RuleStore) : Operation → RuleStore
  | add tier rule => (s.add tier rule).2
  | remove tier id => (s.remove tier id).2
  | replaceAll tier rules =>
    match s.replaceAll tier rules with
    | .ok (_, s') => s'
    | .error _ => s
  | dropTier tier => (s.dropTier tier).2
  | allocateDynamicId =>
    match s.allocateDynamicId with
    | .ok (_, s') => s'
    | .error _ => s
  | releaseDynamicId id => s.releaseDynamicId id

/-- An operation gives its tier a table and leaves the other tiers alone. It is one that the tier may
have, if that was so before. -/
theorem leads (s : RuleStore) (op : Operation) :
    ∃ t, s.Puts op.tier t (op.run s) ∧
      (s.Admits op.tier (s.table op.tier) → s.Admits op.tier t) := by
  cases op with
  | add tier rule =>
    show ∃ t, s.Puts tier t (s.add tier rule).2 ∧ (s.Admits tier (s.table tier) → s.Admits tier t)
    rcases h : s.add tier rule with ⟨e | u, s'⟩
    · exact ⟨_, puts_add_error h, id⟩
    · obtain ⟨hrange, hfree, hsize, -⟩ := add_eq_ok_iff.mp h
      exact ⟨_, puts_add_ok h, fun admits => admits.insert hrange hfree hsize⟩
  | remove tier id => exact ⟨_, puts_remove s tier id, fun admits => admits.erase id⟩
  | replaceAll tier rules =>
    show ∃ t, s.Puts tier t (run s (replaceAll tier rules)) ∧
      (s.Admits tier (s.table tier) → s.Admits tier t)
    rw [run]
    rcases h : s.replaceAll tier rules with e | ⟨prev, s'⟩
    · exact ⟨_, .refl s tier, id⟩
    · obtain ⟨hlen, hrange, hnd, -, -⟩ := replaceAll_eq_ok_iff.mp h
      exact ⟨_, puts_replaceAll h, fun _ => admits_insertAll hlen hrange hnd⟩
  | dropTier tier => exact ⟨_, puts_dropTier s tier, fun _ => admits_empty s tier⟩
  | allocateDynamicId =>
    show ∃ t, s.Puts .dynamic t (run s allocateDynamicId) ∧
      (s.Admits .dynamic (s.table .dynamic) → s.Admits .dynamic t)
    rw [run]
    rcases h : s.allocateDynamicId with e | ⟨id, s'⟩
    · exact ⟨_, .refl s .dynamic, id⟩
    · exact ⟨_, puts_allocateDynamicId .dynamic h, fun admits => admits⟩
  | releaseDynamicId id => exact ⟨_, puts_releaseDynamicId s .dynamic id, fun admits => admits⟩

/-- in a sound store an operation leads to a table that its tier may have -/
theorem puts {s : RuleStore} (hs : s.Sound) (op : Operation) :
    ∃ t, s.Puts op.tier t (op.run s) ∧ s.Admits op.tier t := by
  obtain ⟨t, puts, admits⟩ := op.leads s
  exact ⟨t, puts, admits (hs op.tier)⟩

end Operation

/-- a store that any operations on tiers in `known` lead to, from `s₀` on -/
inductive Reaches (known : Tier → Prop) (s₀ : RuleStore) : RuleStore → Prop where
  | refl : Reaches known s₀ s₀
  | step {s : RuleStore} (h : Reaches known s₀ s) (op : Operation) (hop : known op.tier) :
      Reaches known s₀ (op.run s)

namespace Reaches

variable {known : Tier → Prop} {s₀ s : RuleStore} (h : Reaches known s₀ s)
include h

theorem sound (hs : s₀.Sound) : s.Sound := by
  induction h with
  | refl => exact hs
  | step h op hop ih =>
    obtain ⟨t, puts, admits⟩ := op.puts ih
    exact puts.sound ih admits

theorem bounds (hs : s₀.Sound) : SameBounds s₀ s := by
  induction h with
  | refl => exact .refl s₀
  | step h op hop ih =>
    obtain ⟨t, puts, -⟩ := op.puts (h.sound hs)
    exact ih.trans puts.bounds

theorem table_of_unknown (hs : s₀.Sound) {tier : Tier} (hnot : ¬ known tier) :
    s.table tier = s₀.table tier := by
  induction h with
  | refl => rfl
  | step h op hop ih =>
    obtain ⟨t, puts, -⟩ := op.puts (h.sound hs)
    exact (puts.table_of_ne tier fun heq => hnot (heq ▸ hop)).trans ih

end Reaches

/-! ## windows of a new store -/

theorem windows_foldl_register_of_not_mem {ls : List StaticList} {id : String}
    (h : id ∉ ls.map StaticList.id) (s : RuleStore) :
    (ls.foldl (fun store l => store.register l.id l.window) s).windows[id]? = s.windows[id]? := by
  induction ls generalizing s with
  | nil => rfl
  | cons l ls ih =>
    rw [List.map_cons, List.mem_cons, not_or] at h
    rw [List.foldl_cons, ih h.2]
    show (s.windows.insert l.id l.window)[id]? = _
    rw [Std.ExtTreeMap.getElem?_insert, if_neg]
    exact fun heq => h.1 (Std.compare_eq_iff_eq.mp heq).symm

theorem windows_foldl_register {ls : List StaticList} (hnd : (ls.map StaticList.id).Nodup)
    {l : StaticList} (hl : l ∈ ls) (s : RuleStore) :
    (ls.foldl (fun store l => store.register l.id l.window) s).windows[l.id]? = some l.window := by
  induction ls generalizing s with
  | nil => cases hl
  | cons l' ls ih =>
    rw [List.map_cons, List.nodup_cons] at hnd
    rw [List.foldl_cons]
    rcases List.mem_cons.mp hl with rfl | hl
    · rw [windows_foldl_register_of_not_mem hnd.1]
      show (s.windows.insert l.id l.window)[l.id]? = _
      rw [Std.ExtTreeMap.getElem?_insert, if_pos Std.ReflCmp.compare_self]
    · exact ih hnd.2 hl _

theorem idRange_registerWindows {c : Coordinator} (hnd : (c.lists.map StaticList.id).Nodup)
    {l : StaticList} (hl : l ∈ c.lists) (s : RuleStore) :
    (c.registerWindows s).idRange l.tier = l.window := by
  show (c.registerWindows s).windows.getD l.id .staticIds = _
  rw [Std.ExtTreeMap.getD_eq_getD_getElem?]
  show ((c.lists.foldl _ s).windows[l.id]?).getD _ = _
  rw [windows_foldl_register hnd hl]
  rfl

end RuleStore

/-! ## ranges of a configuration -/

namespace SyncConfig

variable {config : SyncConfig}

/-- the tiers that the rules of a configuration are kept in -/
def tiers (config : SyncConfig) : List Tier :=
  config.lists.map ListConfig.tier ++ [.dynamic, .session]

/-- a store before anything is put into it -/
def newStore (config : SyncConfig) : RuleStore :=
  (Coordinator.new config).registerWindows (.new config.limits)

theorem sound_newStore (config : SyncConfig) : config.newStore.Sound :=
  RuleStore.sound_registerWindows_new _ config.limits

theorem table_newStore (config : SyncConfig) (tier : Tier) : config.newStore.table tier = ∅ :=
  RuleStore.table_registerWindows_new _ config.limits tier

section
variable (hvalid : config.validate = .ok ())
include hvalid

theorem idRange_newStore {l : ListConfig} (hl : l ∈ config.lists) :
    config.newStore.idRange l.tier = l.window := by
  have hnd : ((Coordinator.new config).lists.map StaticList.id).Nodup := by
    show ((config.lists.map StaticList.ofConfig).map StaticList.id).Nodup
    rw [List.map_map]
    exact nodup_ids hvalid
  exact RuleStore.idRange_registerWindows hnd
    (List.mem_map_of_mem (f := StaticList.ofConfig) hl) (.new config.limits)

/-- the ids of a list are static ids -/
theorem staticIds_contains {l : ListConfig} (hl : l ∈ config.lists) {id : RuleId}
    (hid : (config.newStore.idRange l.tier).contains id = true) :
    IdRange.staticIds.contains id = true := by
  rw [idRange_newStore hvalid hl] at hid
  exact IdRange.contains_of_includes (proper_of_mem hvalid hl).inside hid

/-- an id is in the range of one tier only -/
theorem eq_of_contains {tier tier' : Tier} (htier : tier ∈ config.tiers)
    (htier' : tier' ∈ config.tiers) {id : RuleId}
    (hid : (config.newStore.idRange tier).contains id = true)
    (hid' : (config.newStore.idRange tier').contains id = true) : tier = tier' := by
  -- each pair of kinds of tiers: two windows, or two of the three namespaces
  have kinds : ∀ {tier}, tier ∈ config.tiers →
      (∃ l ∈ config.lists, l.tier = tier) ∨ tier = .dynamic ∨ tier = .session := by
    intro tier h
    rcases List.mem_append.mp h with h | h
    · exact .inl (List.mem_map.mp h)
    · simpa using Or.inr h
  have static_dynamic : IdRange.staticIds.overlaps .dynamicIds = false := by decide
  have static_session : IdRange.staticIds.overlaps .sessionIds = false := by decide
  have dynamic_session : IdRange.dynamicIds.overlaps .sessionIds = false := by decide
  have apart : ∀ {a b : IdRange}, a.overlaps b = false → a.contains id = true →
      b.contains id = true → tier = tier' := by
    intro a b hab ha hb
    rw [IdRange.not_contains_of_disjoint hab ha] at hb
    cases hb
  rcases kinds htier with ⟨l, hl, rfl⟩ | rfl | rfl <;>
    rcases kinds htier' with ⟨l', hl', rfl⟩ | rfl | rfl
  · by_cases heq : l = l'
    · rw [heq]
    · rw [idRange_newStore hvalid hl] at hid
      rw [idRange_newStore hvalid hl'] at hid'
      exact apart (apart_of_ne hvalid hl hl' heq).disjoint hid hid'
  · exact apart static_dynamic (staticIds_contains hvalid hl hid) hid'
  · exact apart static_session (staticIds_contains hvalid hl hid) hid'
  · exact apart static_dynamic (staticIds_contains hvalid hl' hid') hid
  · rfl
  · exact apart dynamic_session hid hid'
  · exact apart static_session (staticIds_contains hvalid hl' hid') hid
  · exact apart dynamic_session hid' hid
  · rfl

end

end SyncConfig

/-! ## separation -/

namespace RuleStore

/-- a store whose rules can be told apart by their ids alone -/
structure Separated (config : SyncConfig) (s : RuleStore) : Prop where
  keyed : ∀ tier id r, s.get? tier id = some r → r.id = id
  static : ∀ l ∈ config.lists, ∀ id r, s.get? l.tier id = some r → l.window.contains id = true
  dynamic : ∀ id r, s.get? .dynamic id = some r → IdRange.dynamicIds.contains id = true
  session : ∀ id r, s.get? .session id = some r → IdRange.sessionIds.contains id = true
  capacity : ∀ tier, (s.rules tier).length ≤ s.capacity tier
  /-- no id is stored in two tiers -/
  unique : ∀ tier tier' id r r', s.get? tier id = some r → s.get? tier' id = some r' → tier = tier'
  ascending : ∀ tier, (s.rules tier).Pairwise fun a b => a.id < b.id

/-- Whatever is put into the store of a valid configuration, tier by tier, ids never collide. -/
theorem Reaches.separated {config : SyncConfig} {s : RuleStore}
    (hvalid : config.validate = .ok ())
    (h : Reaches (fun tier => tier ∈ config.tiers) config.newStore s) : Separated config s := by
  have hs := h.sound config.sound_newStore
  have bounds := h.bounds config.sound_newStore
  have mem_of_get? : ∀ {tier id r}, s.get? tier id = some r → id ∈ s.table tier := by
    intro tier id r hget
    rw [Std.ExtTreeMap.mem_iff_isSome_getElem?, show (s.table tier)[id]? = some r from hget]
    rfl
  have range : ∀ {tier id r}, s.get? tier id = some r →
      (config.newStore.idRange tier).contains id = true := by
    intro tier id r hget
    rw [← bounds.idRange_eq]
    exact (hs tier).inRange id (mem_of_get? hget)
  have known : ∀ {tier id r}, s.get? tier id = some r → tier ∈ config.tiers := by
    intro tier id r hget
    by_contra hnot
    have hmem := mem_of_get? hget
    rw [h.table_of_unknown config.sound_newStore hnot, config.table_newStore] at hmem
    exact Std.ExtTreeMap.not_mem_empty hmem
  constructor
  case keyed => exact fun tier id r hget => (hs tier).keyed id r hget
  case static =>
    intro l hl id r hget
    rw [← SyncConfig.idRange_newStore hvalid hl]
    exact range hget
  case dynamic => exact fun id r hget => range hget
  case session => exact fun id r hget => range hget
  case capacity =>
    intro tier
    rw [rules, RuleTable.length_rules]
    exact (hs tier).size_le
  case unique =>
    intro tier tier' id r r' hget hget'
    exact SyncConfig.eq_of_contains hvalid (known hget) (known hget') (range hget) (range hget')
  case ascending => exact fun tier => (hs tier).keyed.sorted_rules

/-- one rule offered to two lists; its id is in the window of the second -/
theorem separated_add_default :
    Separated .default
      (Operation.run
        (Operation.run SyncConfig.default.newStore
          (.add (.static "easylist") ⟨50000, 1, .block, {}, none⟩))
        (.add (.static "easyprivacy") ⟨50000, 1, .block, {}, none⟩)) :=
  Reaches.separated (by decide)
    (.step (.step .refl (.add (.static "easylist") _) (by decide))
      (.add (.static "easyprivacy") _) (by decide))

end RuleStore

end Blocklist
