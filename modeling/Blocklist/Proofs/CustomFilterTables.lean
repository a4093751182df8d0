import Blocklist.Proofs.FilterLines
import Blocklist.Proofs.Store
import Blocklist.Saved

/-!
# Custom filters and their rules

The dynamic tier is a table of the rules of the custom filters. The two are kept in step one filter
at a time, and a table can be had again from the filters alone.

* `CustomFilter.rule`      the rule that a filter stands for;
* `RuleTable.Mirrors`      a table that has the rules of some filters and no others;
* `RuleStore.replay`       put filters into the dynamic tier, as far as they have a place there;
* `RuleStore.replay_mirrors`       what that leads to;
* `RuleStore.replay_of_mirrors`    filters with a table that fits all have a place.
-/

namespace Blocklist

def CustomFilter.rule (c : CustomFilter) : Except Rejection Rule :=
  Filter.parse c.filter.toList c.id

theorem CustomFilter.id_of_rule {c : CustomFilter} {r : Rule} (h : c.rule = .ok r) : r.id = c.id :=
  Filter.id_of_parse h

/-! ## one without -/

section
variable {α κ : Type} [DecidableEq κ] {key : α → κ} {l : List α}

theorem eraseIdx_findIdx_eq_eraseP (p : α → Bool) (l : List α) :
    l.eraseIdx (l.findIdx p) = l.eraseP p := by
  induction l with
  | nil => rfl
  | cons a l ih =>
    rw [List.findIdx_cons, List.eraseP_cons]
    cases p a with
    | true => rfl
    | false =>
      show a :: l.eraseIdx (l.findIdx p) = a :: l.eraseP p
      rw [ih]

theorem map_eraseIdx_findIdx (k : κ) :
    (l.eraseIdx (l.findIdx fun a => key a = k)).map key = (l.map key).erase k := by
  rw [eraseIdx_findIdx_eq_eraseP, List.erase_eq_eraseP, List.eraseP_map]
  congr 2
  funext a
  rw [Function.comp_apply]
  by_cases h : key a = k
  · simp [h]
  · simp [h, Ne.symm h]

end

namespace RuleTable

/-- the rules of `filters` under their ids, and no others -/
structure Mirrors (t : RuleTable) (filters : List CustomFilter) : Prop where
  nodup : (filters.map CustomFilter.id).Nodup
  accepted : ∀ c ∈ filters, ∃ r, c.rule = .ok r ∧ t[c.id]? = some r
  covered : ∀ id, id ∈ t → id ∈ filters.map CustomFilter.id

theorem mirrors_empty : Mirrors ∅ [] where
  nodup := List.nodup_nil
  accepted _ hc := absurd hc List.not_mem_nil
  covered _ hid := absurd hid Std.ExtTreeMap.not_mem_empty

namespace Mirrors

variable {t : RuleTable} {filters : List CustomFilter} (h : t.Mirrors filters)
include h

theorem mem_iff (id : RuleId) : id ∈ t ↔ id ∈ filters.map CustomFilter.id := by
  refine ⟨h.covered id, fun hid => ?_⟩
  obtain ⟨c, hc, rfl⟩ := List.mem_map.mp hid
  obtain ⟨r, -, hr⟩ := h.accepted c hc
  rw [Std.ExtTreeMap.mem_iff_isSome_getElem?, hr]
  rfl

theorem append {c : CustomFilter} {r : Rule} (hr : c.rule = .ok r) (hid : c.id ∉ t) :
    Mirrors (t.insert c.id r) (filters ++ [c]) where
  nodup := by
    rw [List.map_append, List.map_singleton]
    exact List.nodup_append.mpr ⟨h.nodup, List.nodup_singleton _, fun a ha b hb hab =>
      hid ((h.mem_iff c.id).mpr (List.mem_singleton.mp hb ▸ hab ▸ ha))⟩
  accepted d hd := by
    rw [Std.ExtTreeMap.getElem?_insert]
    rcases List.mem_append.mp hd with hd | hd
    · obtain ⟨r', hr', hget⟩ := h.accepted d hd
      refine ⟨r', hr', ?_⟩
      rw [if_neg, hget]
      intro heq
      rw [Std.compare_eq_iff_eq.mp heq] at hid
      exact hid ((h.mem_iff d.id).mpr (List.mem_map_of_mem hd))
    · rw [List.mem_singleton.mp hd, if_pos Std.ReflCmp.compare_self]
      exact ⟨r, hr, rfl⟩
  covered id hid := by
    rw [List.map_append, List.map_singleton, List.mem_append, List.mem_singleton]
    rcases Std.ExtTreeMap.mem_insert.mp hid with heq | hid
    · exact .inr (Std.compare_eq_iff_eq.mp heq).symm
    · exact .inl (h.covered id hid)

theorem erase (id : RuleId) :
    Mirrors (t.erase id) (filters.eraseIdx (filters.findIdx fun c => c.id = id)) where
  nodup := by
    rw [map_eraseIdx_findIdx]
    exact h.nodup.erase id
  accepted c hc := by
    have hne : c.id ∈ (filters.map CustomFilter.id).erase id := by
      rw [← map_eraseIdx_findIdx]
      exact List.mem_map_of_mem hc
    obtain ⟨r, hr, hget⟩ := h.accepted c (List.mem_of_mem_eraseIdx hc)
    refine ⟨r, hr, ?_⟩
    rw [Std.ExtTreeMap.getElem?_erase, if_neg, hget]
    intro heq
    exact (h.nodup.mem_erase_iff.mp hne).1 (Std.compare_eq_iff_eq.mp heq).symm
  covered id' hid' := by
    rw [map_eraseIdx_findIdx, h.nodup.mem_erase_iff]
    obtain ⟨hne, hid'⟩ := Std.ExtTreeMap.mem_erase.mp hid'
    refine ⟨fun heq => hne ?_, h.covered id' hid'⟩
    rw [heq]
    exact Std.ReflCmp.compare_self

theorem map_id_keys_perm : t.keys.Perm (filters.map CustomFilter.id) := by
  refine (List.perm_ext_iff_of_nodup Std.ExtTreeMap.nodup_keys h.nodup).mpr fun id => ?_
  rw [Std.ExtTreeMap.mem_keys]
  exact h.mem_iff id

theorem size_eq : t.size = filters.length := by
  have hperm := h.map_id_keys_perm.length_eq
  rwa [Std.ExtTreeMap.length_keys, List.length_map] at hperm

/-- the filters determine the table -/
theorem unique {t' : RuleTable} (h' : t'.Mirrors filters) : t = t' := by
  apply Std.ExtTreeMap.ext_getElem?
  intro id
  by_cases hid : id ∈ filters.map CustomFilter.id
  · obtain ⟨c, hc, rfl⟩ := List.mem_map.mp hid
    obtain ⟨r, hr, hget⟩ := h.accepted c hc
    obtain ⟨r', hr', hget'⟩ := h'.accepted c hc
    rw [hget, hget', Except.ok.inj (hr.symm.trans hr')]
  · rw [Std.ExtTreeMap.getElem?_eq_none fun hm => hid (h.covered id hm),
      Std.ExtTreeMap.getElem?_eq_none fun hm => hid (h'.covered id hm)]

/-- The rules of the table are those that the filters stand for, one for each. -/
theorem rules_perm (keyed : t.Keyed) :
    (t.rules.map Except.ok).Perm (filters.map CustomFilter.rule) := by
  have hrules : (t.rules.map (Except.ok : Rule → Except Rejection Rule)).Nodup :=
    (List.Nodup.of_map _ keyed.nodup_rules).map fun a b hab => Except.ok.inj hab
  have hfilters : (filters.map CustomFilter.rule).Nodup := by
    refine (List.Nodup.of_map _ h.nodup).map_on fun a ha b hb hab => ?_
    obtain ⟨r, hr, -⟩ := h.accepted a ha
    have hid : a.id = b.id :=
      (CustomFilter.id_of_rule hr).symm.trans (CustomFilter.id_of_rule (hab ▸ hr))
    exact List.inj_on_of_nodup_map h.nodup ha hb hid
  refine (List.perm_ext_iff_of_nodup hrules hfilters).mpr fun x => ?_
  rw [List.mem_map, List.mem_map]
  constructor
  · rintro ⟨r, hr, rfl⟩
    have hget := keyed.mem_rules_iff.mp hr
    have hmem : r.id ∈ t := by
      rw [Std.ExtTreeMap.mem_iff_isSome_getElem?, hget]
      rfl
    obtain ⟨c, hc, hid⟩ := List.mem_map.mp (h.covered r.id hmem)
    obtain ⟨r', hr', hget'⟩ := h.accepted c hc
    rw [hid, hget] at hget'
    exact ⟨c, hc, by rw [hr', Option.some.inj hget']⟩
  · rintro ⟨c, hc, rfl⟩
    obtain ⟨r, hr, hget⟩ := h.accepted c hc
    rw [← CustomFilter.id_of_rule hr] at hget
    exact ⟨r, keyed.mem_rules_iff.mpr hget, hr.symm⟩

end Mirrors

end RuleTable

/-! ## replay -/

namespace RuleStore

/-- put filters into the dynamic tier; the answer holds those that found a place -/
def replay (s : RuleStore) : List CustomFilter → List CustomFilter × RuleStore
  | [] => ([], s)
  | c :: cs =>
    match c.rule with
    | .error _ => s.replay cs
    | .ok r =>
      match s.add .dynamic r with
      | (.ok (), s) => (c :: (s.replay cs).1, (s.replay cs).2)
      | (.error _, s) => s.replay cs

variable {s s' : RuleStore}

theorem replay_cons_rejected {c : CustomFilter} {e : Rejection} (h : c.rule = .error e)
    (cs : List CustomFilter) : s.replay (c :: cs) = s.replay cs := by
  rw [replay, h]

theorem replay_cons_refused {c : CustomFilter} {r : Rule} {e : StoreError} (h : c.rule = .ok r)
    (hadd : s.add .dynamic r = (.error e, s')) (cs : List CustomFilter) :
    s.replay (c :: cs) = s'.replay cs := by
  rw [replay, h]
  dsimp only
  rw [hadd]

theorem replay_cons_ok {c : CustomFilter} {r : Rule} (h : c.rule = .ok r)
    (hadd : s.add .dynamic r = (.ok (), s')) (cs : List CustomFilter) :
    s.replay (c :: cs) = (c :: (s'.replay cs).1, (s'.replay cs).2) := by
  rw [replay, h]
  dsimp only
  rw [hadd]

/-- a rule that was added goes with its filter -/
theorem mirrors_add {filters : List CustomFilter} {c : CustomFilter} {r : Rule}
    (h : (s.table .dynamic).Mirrors filters) (hr : c.rule = .ok r)
    (hadd : s.add .dynamic r = (.ok (), s')) : (s'.table .dynamic).Mirrors (filters ++ [c]) := by
  obtain ⟨-, hid, -, -⟩ := add_eq_ok_iff.mp hadd
  rw [(puts_add_ok hadd).table]
  rw [CustomFilter.id_of_rule hr] at hid ⊢
  exact h.append hr hid

/-- Filters are replayed after those that are there, and nothing but the dynamic tier changes. -/
theorem replay_mirrors {filters : List CustomFilter} (hs : s.Sound)
    (h : (s.table .dynamic).Mirrors filters) (cs : List CustomFilter) :
    s.Puts .dynamic ((s.replay cs).2.table .dynamic) (s.replay cs).2 ∧ (s.replay cs).2.Sound ∧
      ((s.replay cs).2.table .dynamic).Mirrors (filters ++ (s.replay cs).1) := by
  induction cs generalizing s filters with
  | nil =>
    refine ⟨.refl s .dynamic, hs, ?_⟩
    rw [replay, List.append_nil]
    exact h
  | cons c cs ih =>
    cases hr : c.rule with
    | error e =>
      rw [replay_cons_rejected hr]
      exact ih hs h
    | ok r =>
      rcases hadd : s.add .dynamic r with ⟨e | u, s'⟩
      · rw [replay_cons_refused hr hadd]
        have puts := puts_add_error hadd
        obtain ⟨puts', hs', h'⟩ := ih (puts.sound hs (hs .dynamic)) (puts.table.symm ▸ h)
        exact ⟨puts.trans puts', hs', h'⟩
      · rw [replay_cons_ok hr hadd]
        obtain ⟨hrange, hid, hsize, -⟩ := add_eq_ok_iff.mp hadd
        have puts := puts_add_ok hadd
        obtain ⟨puts', hs', h'⟩ := ih (puts.sound hs ((hs .dynamic).insert hrange hid hsize))
          (mirrors_add h hr hadd)
        refine ⟨puts.trans puts', hs', ?_⟩
        rw [List.append_cons]
        exact h'

/-- Filters all have a place after those that are there, if a table that the tier may have mirrors
them together. -/
theorem replay_of_mirrors {t : RuleTable} {filters cs : List CustomFilter}
    (ha : s.Admits .dynamic t) (ht : t.Mirrors (filters ++ cs))
    (h : (s.table .dynamic).Mirrors filters) : (s.replay cs).1 = cs := by
  induction cs generalizing s filters with
  | nil => rfl
  | cons c cs ih =>
    have hmem : c ∈ filters ++ c :: cs := List.mem_append_right _ List.mem_cons_self
    obtain ⟨r, hr, hget⟩ := ht.accepted c hmem
    have hid := CustomFilter.id_of_rule hr
    have hadd : ∃ s', s.add .dynamic r = (.ok (), s') := by
      refine ⟨_, add_eq_ok_iff.mpr ⟨?_, ?_, ?_, rfl⟩⟩
      · rw [hid]
        exact ha.inRange c.id ((ht.mem_iff c.id).mpr (List.mem_map_of_mem hmem))
      · rw [hid, h.mem_iff]
        have hnd := ht.nodup
        rw [List.map_append, List.map_cons] at hnd
        exact fun hin => (List.nodup_append.mp hnd).2.2 _ hin _ List.mem_cons_self rfl
      · have hsize := ha.size_le
        rw [ht.size_eq, List.length_append, List.length_cons] at hsize
        rw [h.size_eq]
        omega
    obtain ⟨s', hadd⟩ := hadd
    rw [replay_cons_ok hr hadd]
    show c :: (s'.replay cs).1 = c :: cs
    rw [ih ((puts_add_ok hadd).bounds.admits ha) (List.append_cons .. ▸ ht) (mirrors_add h hr hadd)]

end RuleStore

end Blocklist
