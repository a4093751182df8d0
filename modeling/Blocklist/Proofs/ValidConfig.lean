import Mathlib.Data.List.Pairwise
import Blocklist.Config

/-!
# What a valid configuration promises

A configuration is checked list by list, each one against those before it. What a check of all of
them comes to is said here without that order.

* `ListConfig.Proper`             a list that is in order by itself;
* `ListConfig.Apart`              two lists that share neither their name nor an id for their rules;
* `SyncConfig.validate_eq_ok_iff` the lists of a valid configuration are proper and apart;
* `SyncConfig.nodup_ids`, `SyncConfig.apart_of_ne`   what follows for any two of them.
-/

namespace Blocklist

/-- a list that a configuration may have, whatever its other lists are -/
structure ListConfig.Proper (l : ListConfig) : Prop where
  id_ne : l.id ≠ ""
  not_reserved : l.id ∉ SyncConfig.reservedIds
  nonempty : l.window.isEmpty = false
  inside : IdRange.staticIds.includes l.window = true

/-- two lists of a configuration -/
structure ListConfig.Apart (a b : ListConfig) : Prop where
  id_ne : a.id ≠ b.id
  disjoint : a.window.overlaps b.window = false

theorem IdRange.overlaps_comm (a b : IdRange) : a.overlaps b = b.overlaps a :=
  Bool.and_comm _ _

/-- ranges that do not overlap have no id in common -/
theorem IdRange.not_contains_of_disjoint {a b : IdRange} (h : a.overlaps b = false) {id : RuleId}
    (ha : a.contains id = true) : b.contains id = false := by
  rw [← Bool.not_eq_true] at h ⊢
  rw [IdRange.overlaps_iff] at h
  rw [IdRange.contains_iff] at ha ⊢
  omega

theorem IdRange.contains_of_includes {a b : IdRange} (h : a.includes b = true) {id : RuleId}
    (hb : b.contains id = true) : a.contains id = true := by
  rw [IdRange.includes_iff] at h
  rw [IdRange.contains_iff] at hb ⊢
  omega

theorem ListConfig.Apart.symm {a b : ListConfig} (h : Apart a b) : Apart b a :=
  ⟨h.id_ne.symm, IdRange.overlaps_comm a.window b.window ▸ h.disjoint⟩

instance : Std.Symm ListConfig.Apart := ⟨fun _ _ => ListConfig.Apart.symm⟩

namespace SyncConfig

variable {earlier ls : List ListConfig} {l : ListConfig} {c : SyncConfig}

theorem checkList_eq_ok_iff :
    checkList earlier l = .ok () ↔ l.Proper ∧ ∀ o ∈ earlier, o.Apart l := by
  rw [checkList]
  constructor
  · intro h
    split at h
    · cases h
    rename_i hempty
    split at h
    · cases h
    rename_i hreserved
    split at h
    · cases h
    rename_i hduplicate
    split at h
    · cases h
    rename_i hwindow
    rw [Bool.or_eq_true, not_or, Bool.not_eq_true, Bool.not_eq_true', Bool.not_eq_false] at hwindow
    split at h
    · cases h
    rename_i hoverlap
    refine ⟨⟨hempty, hreserved, hwindow.1, hwindow.2⟩, fun o ho => ⟨fun hid => ?_, ?_⟩⟩
    · exact hduplicate (hid ▸ List.mem_map_of_mem ho)
    · exact Bool.eq_false_iff.mpr (List.find?_eq_none.mp hoverlap o ho)
  · rintro ⟨proper, apart⟩
    have hduplicate : l.id ∉ earlier.map ListConfig.id := by
      intro hmem
      obtain ⟨o, ho, hid⟩ := List.mem_map.mp hmem
      exact (apart o ho).id_ne hid
    have hwindow : ¬ (l.window.isEmpty || !IdRange.staticIds.includes l.window) = true := by
      rw [proper.nonempty, proper.inside]
      exact Bool.false_ne_true
    have hoverlap : (earlier.find? fun o => o.window.overlaps l.window) = none :=
      List.find?_eq_none.mpr fun o ho => Bool.eq_false_iff.mp (apart o ho).disjoint
    rw [if_neg proper.id_ne, if_neg proper.not_reserved, if_neg hduplicate, if_neg hwindow,
      hoverlap]

theorem checkLists_eq_ok_iff :
    checkLists earlier ls = .ok () ↔
      (∀ l ∈ ls, l.Proper) ∧ (∀ o ∈ earlier, ∀ l ∈ ls, o.Apart l) ∧
        ls.Pairwise ListConfig.Apart := by
  induction ls generalizing earlier with
  | nil => simp [checkLists]
  | cons l ls ih =>
    rw [checkLists]
    cases hl : checkList earlier l with
    | error e =>
      refine ⟨nofun, fun ⟨proper, apart, _⟩ => ?_⟩
      have hok := checkList_eq_ok_iff.mpr
        ⟨proper l List.mem_cons_self, fun o ho => apart o ho l List.mem_cons_self⟩
      rw [hl] at hok
      cases hok
    | ok u =>
      obtain ⟨proper, apart⟩ := checkList_eq_ok_iff.mp hl
      dsimp only
      -- `l` is one of the earlier lists for those after it
      rw [ih, List.pairwise_cons]
      constructor
      · rintro ⟨hproper, hapart, hpairwise⟩
        refine ⟨List.forall_mem_cons.mpr ⟨proper, hproper⟩, fun o ho => ?_, fun l' hl' => ?_,
          hpairwise⟩
        · exact List.forall_mem_cons.mpr
            ⟨apart o ho, hapart o (List.mem_append_left _ ho)⟩
        · exact hapart l (List.mem_append_right _ List.mem_cons_self) l' hl'
      · rintro ⟨hproper, hapart, hfirst, hpairwise⟩
        refine ⟨(List.forall_mem_cons.mp hproper).2, fun o ho => ?_, hpairwise⟩
        rcases List.mem_append.mp ho with ho | ho
        · exact (List.forall_mem_cons.mp (hapart o ho)).2
        · rw [List.mem_singleton.mp ho]
          exact hfirst

theorem validate_eq_ok_iff :
    c.validate = .ok () ↔ (∀ l ∈ c.lists, l.Proper) ∧ c.lists.Pairwise ListConfig.Apart ∧
      c.refreshIntervalSecs ≠ 0 := by
  have hlists : checkLists [] c.lists = .ok () ↔
      (∀ l ∈ c.lists, l.Proper) ∧ c.lists.Pairwise ListConfig.Apart := by
    rw [checkLists_eq_ok_iff]
    simp
  rw [validate, ← and_assoc, ← hlists]
  cases checkLists [] c.lists with
  | error e => simp
  | ok u => by_cases hzero : c.refreshIntervalSecs = 0 <;> simp [hzero]

/-! ## any two lists -/

section
variable (h : c.validate = .ok ())
include h

theorem proper_of_mem (hl : l ∈ c.lists) : l.Proper := (validate_eq_ok_iff.mp h).1 l hl

theorem nodup_ids : (c.lists.map ListConfig.id).Nodup :=
  List.pairwise_map.mpr ((validate_eq_ok_iff.mp h).2.1.imp ListConfig.Apart.id_ne)

theorem apart_of_ne {l' : ListConfig} (hl : l ∈ c.lists) (hl' : l' ∈ c.lists) (hne : l ≠ l') :
    l.Apart l' :=
  (validate_eq_ok_iff.mp h).2.1.forall hl hl' hne

end

end SyncConfig

end Blocklist
