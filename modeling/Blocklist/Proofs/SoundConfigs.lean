import Blocklist.Proofs.IdRanges
import Blocklist.Proofs.ValidConfig

/-!
# Sound configurations

A configuration is checked with 32-bit words: a window ends at a sum that stops at the largest word,
and two windows are compared as half-open ranges. What is accepted is said here with numbers, and
for any two lists.

* `ListConfig.toNat_stop_window`     the end of a window, as a number;
* `ListConfig.Sound`, `ListConfig.Clear`   what is asked of one list, and of two;
* `SyncConfig.Sound`                 what is asked of a configuration;
* `SyncConfig.validate_eq_ok_iff_sound`   exactly the sound configurations are valid.
-/

namespace Blocklist

theorem toNat_saturatingAdd (a b : UInt32) :
    (saturatingAdd a b).toNat = min (a.toNat + b.toNat) (UInt32.size - 1) := by
  rw [saturatingAdd]
  apply IdRange.toNat_toUInt32
  have hsize : UInt32.size = 4294967296 := rfl
  omega

namespace ListConfig

variable {l l' : ListConfig}

/-- a list whose window is made of static ids -/
structure Sound (l : ListConfig) : Prop where
  id_ne : l.id ≠ ""
  not_custom : l.id ≠ "custom"
  not_whitelist : l.id ≠ "whitelist"
  base : 1 ≤ l.idBase.toNat
  capacity : 1 ≤ l.capacity.toNat
  stop : l.idBase.toNat + l.capacity.toNat ≤ 100000

/-- one of two windows ends before the other begins -/
def Clear (l l' : ListConfig) : Prop :=
  l.idBase.toNat + l.capacity.toNat ≤ l'.idBase.toNat ∨
    l'.idBase.toNat + l'.capacity.toNat ≤ l.idBase.toNat

theorem toNat_stop_window (l : ListConfig) :
    l.window.stop.toNat = min (l.idBase.toNat + l.capacity.toNat) (UInt32.size - 1) :=
  toNat_saturatingAdd l.idBase l.capacity

theorem not_mem_reservedIds_iff :
    l.id ∉ SyncConfig.reservedIds ↔ l.id ≠ "custom" ∧ l.id ≠ "whitelist" := by
  have hreserved : SyncConfig.reservedIds = ["custom", "whitelist"] := rfl
  rw [hreserved, List.mem_cons, List.mem_singleton, not_or]

/-- A window that ends at the largest word is none of static ids, so no sum is cut short in one that
is. -/
theorem proper_iff_sound : l.Proper ↔ l.Sound := by
  have hsize : UInt32.size = 4294967296 := rfl
  have hstart : IdRange.staticIds.start.toNat = 1 := rfl
  have hstop : IdRange.staticIds.stop.toNat = 100000 := rfl
  have hbase : l.window.start.toNat = l.idBase.toNat := rfl
  have hend := l.toNat_stop_window
  constructor
  · intro h
    obtain ⟨not_custom, not_whitelist⟩ := not_mem_reservedIds_iff.mp h.not_reserved
    have nonempty := mt IdRange.isEmpty_iff.mpr (Bool.eq_false_iff.mp h.nonempty)
    have inside := IdRange.includes_iff.mp h.inside
    exact ⟨h.id_ne, not_custom, not_whitelist, by omega, by omega, by omega⟩
  · intro h
    have base := h.base
    have capacity := h.capacity
    have stop := h.stop
    refine ⟨h.id_ne, not_mem_reservedIds_iff.mpr ⟨h.not_custom, h.not_whitelist⟩, ?_, ?_⟩
    · rw [← Bool.not_eq_true, IdRange.isEmpty_iff]
      omega
    · rw [IdRange.includes_iff]
      omega

/-- Half-open ranges are compared as they should be, since neither is empty. -/
theorem disjoint_iff_clear (h : l.Sound) (h' : l'.Sound) :
    l.window.overlaps l'.window = false ↔ l.Clear l' := by
  have hsize : UInt32.size = 4294967296 := rfl
  have hbase : l.window.start.toNat = l.idBase.toNat := rfl
  have hbase' : l'.window.start.toNat = l'.idBase.toNat := rfl
  have hend := l.toNat_stop_window
  have hend' := l'.toNat_stop_window
  have stop := h.stop
  have stop' := h'.stop
  rw [← Bool.not_eq_true, IdRange.overlaps_iff, Clear]
  omega

end ListConfig

namespace SyncConfig

variable {c : SyncConfig}

/-- a configuration whose lists have names of their own and share no id -/
structure Sound (c : SyncConfig) : Prop where
  interval : 0 < c.refreshIntervalSecs.toNat
  lists : ∀ l ∈ c.lists, l.Sound
  ids : (c.lists.map ListConfig.id).Nodup
  windows : c.lists.Pairwise ListConfig.Clear

theorem pairwise_apart_iff (h : ∀ l ∈ c.lists, l.Sound) :
    c.lists.Pairwise ListConfig.Apart ↔
      (c.lists.map ListConfig.id).Nodup ∧ c.lists.Pairwise ListConfig.Clear := by
  rw [List.Nodup, List.pairwise_map, ← List.pairwise_and_iff]
  refine List.Pairwise.iff_of_mem fun {l l'} hl hl' => ?_
  rw [← ListConfig.disjoint_iff_clear (h l hl) (h l' hl')]
  exact ⟨fun apart => ⟨apart.id_ne, apart.disjoint⟩, fun apart => ⟨apart.1, apart.2⟩⟩

/-- The check of a configuration, word by word and list by list, accepts exactly the sound ones. -/
theorem validate_eq_ok_iff_sound (c : SyncConfig) : c.validate = .ok () ↔ c.Sound := by
  have hinterval : c.refreshIntervalSecs ≠ 0 ↔ 0 < c.refreshIntervalSecs.toNat := by
    rw [Nat.pos_iff_ne_zero, ne_eq, ne_eq, ← UInt64.toNat_inj]
    rfl
  rw [validate_eq_ok_iff, hinterval]
  simp only [ListConfig.proper_iff_sound]
  constructor
  · rintro ⟨lists, apart, interval⟩
    obtain ⟨ids, windows⟩ := (pairwise_apart_iff lists).mp apart
    exact ⟨interval, lists, ids, windows⟩
  · intro h
    exact ⟨h.lists, (pairwise_apart_iff h.lists).mpr ⟨h.ids, h.windows⟩, h.interval⟩

end SyncConfig

end Blocklist
