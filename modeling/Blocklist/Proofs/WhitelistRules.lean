import Blocklist.Proofs.Store
import Blocklist.Proofs.Texts
import Blocklist.Whitelist

/-!
# Whitelists and their rules

* `Whitelist.normalize?_idem`          a normal form is its own normal form;
* `Whitelist.Normal`                   distinct domains in normal form;
* `Whitelist.normal_normalizeAll`, `Whitelist.normalizeAll_eq_self`   normal forms of a list;
* `Whitelist.rules_sorted`             the rules of a whitelist have ascending ids, if it is not too
                                       long;
* `RuleStore.replaceAll_whitelist`     a whitelist that fits is accepted as a whole.
-/

namespace Blocklist

namespace Whitelist

/-! ## normal forms -/

section
variable {cs : List Char} (h : isName cs = true)
include h

theorem isLabel_of_isName {l : List Char} (hl : l ∈ Text.splitOn '.' cs) : isLabel l = true := by
  rw [isName, Bool.and_eq_true, List.all_eq_true] at h
  exact h.2 l hl

theorem char_of_isName {c : Char} (hc : c ∈ cs) : c = '.' ∨ Text.isHostChar c = true := by
  rcases Text.mem_splitOn_of_mem '.' hc with rfl | ⟨l, hl, hcl⟩
  · exact .inl rfl
  · have hlabel := isLabel_of_isName h hl
    rw [isLabel, Bool.and_eq_true, List.all_eq_true] at hlabel
    exact .inr (hlabel.2 c hcl)

theorem isBlank_of_isName {c : Char} (hc : c ∈ cs) : Text.isBlank c = false := by
  rcases char_of_isName h hc with rfl | hchar
  · decide
  · exact Text.isBlank_of_isHostChar hchar

theorem trim_of_isName : Text.trim cs = cs :=
  Text.trimWhile_eq_self (fun _ hc => isBlank_of_isName h (List.mem_of_mem_head? hc))
    (fun _ hc => isBlank_of_isName h (List.mem_of_getLast? hc))

theorem nil_not_mem_splitOn : [] ∉ Text.splitOn '.' cs := fun hnil => by
  have hlabel := isLabel_of_isName h hnil
  cases hlabel

theorem trimDots_of_isName : Text.trimWhile (· == '.') cs = cs := by
  apply Text.trimWhile_eq_self
  · intro c hc
    obtain ⟨rest, rfl⟩ : ∃ rest, cs = c :: rest := by
      cases cs with
      | nil => cases hc
      | cons d rest => exact ⟨rest, by rw [Option.some.inj hc]⟩
    refine beq_eq_false_iff_ne.mpr fun hdot => nil_not_mem_splitOn h ?_
    rw [hdot, Text.splitOn_cons_self]
    exact List.mem_cons_self
  · intro c hc
    obtain ⟨rest, rfl⟩ := List.getLast?_eq_some_iff.mp hc
    refine beq_eq_false_iff_ne.mpr fun hdot => nil_not_mem_splitOn h ?_
    rw [hdot, Text.splitOn_append, Text.splitOn_nil]
    exact List.mem_append_right _ List.mem_cons_self

end

theorem lower_bare (cs : List Char) : Text.lower (bare cs) = bare cs := Text.lower_lower _

theorem normalize?_idem {domain d : String} (h : normalize? domain = some d) :
    normalize? d = some d := by
  by_cases hname : isName (bare domain.toList) = true
  · have hd : String.ofList (bare domain.toList) = d := by
      rw [normalize?, if_pos hname] at h
      exact Option.some.inj h
    have hbare : bare d.toList = bare domain.toList := by
      rw [← hd, String.toList_ofList, bare, trim_of_isName hname, trimDots_of_isName hname,
        lower_bare]
    rw [normalize?, hbare, if_pos hname, hd]
  · rw [normalize?, if_neg hname] at h
    cases h

/-- distinct domains in normal form -/
structure Normal (domains : List String) : Prop where
  nodup : domains.Nodup
  fixed : ∀ d ∈ domains, normalize? d = some d

theorem normal_nil : Normal [] := ⟨List.nodup_nil, fun _ h => absurd h List.not_mem_nil⟩

theorem nodup_eraseDups (ds : List String) : ds.eraseDups.Nodup := by
  induction hn : ds.length using Nat.strongRecOn generalizing ds with
  | ind n ih =>
    cases ds with
    | nil => exact List.nodup_nil
    | cons d ds =>
      rw [List.eraseDups_cons, List.nodup_cons]
      refine ⟨fun hd => ?_, ih _ ?_ _ rfl⟩
      · have hf := (List.mem_filter.mp (List.mem_eraseDups.mp hd)).2
        rw [beq_self_eq_true] at hf
        cases hf
      · have hle := List.length_filter_le (fun b => !b == d) ds
        rw [List.length_cons] at hn
        omega

theorem eraseDups_eq_self {ds : List String} (h : ds.Nodup) : ds.eraseDups = ds := by
  induction ds with
  | nil => rfl
  | cons d ds ih =>
    obtain ⟨hd, h⟩ := List.nodup_cons.mp h
    rw [List.eraseDups_cons, List.filter_eq_self.mpr, ih h]
    intro b hb
    rw [Bool.not_eq_true', beq_eq_false_iff_ne]
    exact fun heq => hd (heq ▸ hb)

theorem normal_normalizeAll (domains : List String) : Normal (normalizeAll domains) where
  nodup := nodup_eraseDups _
  fixed d hd := by
    obtain ⟨d', -, hd'⟩ := List.mem_filterMap.mp (List.mem_eraseDups.mp hd)
    exact normalize?_idem hd'

namespace Normal

variable {domains : List String} (h : Normal domains)
include h

theorem normalizeAll_eq_self : normalizeAll domains = domains := by
  have hmap : domains.filterMap normalize? = domains := by
    rw [List.filterMap_congr (g := some) h.fixed, List.filterMap_some]
  rw [normalizeAll, hmap, eraseDups_eq_self h.nodup]

theorem erase (d : String) : Normal (domains.erase d) where
  nodup := h.nodup.erase d
  fixed d' hd' := h.fixed d' (List.mem_of_mem_erase hd')

theorem append {d : String} (hd : normalize? d = some d) (hnot : d ∉ domains) :
    Normal (domains ++ [d]) where
  nodup := List.nodup_append.mpr ⟨h.nodup, List.nodup_singleton d, fun a ha b hb hab =>
    hnot (List.mem_singleton.mp hb ▸ hab ▸ ha)⟩
  fixed d' hd' := by
    rcases List.mem_append.mp hd' with hd' | hd'
    · exact h.fixed d' hd'
    · rw [List.mem_singleton.mp hd']
      exact hd

end Normal

/-! ## rules -/

section
variable {domains : List String} (h : domains.length ≤ IdRange.sessionIds.size)
include h

theorem toNat_id_rule {i : Nat} (hi : i < domains.length) (d : String) :
    (rule i d).id.toNat = 900000 + i := by
  have hsize : IdRange.sessionIds.size = 100000 := rfl
  show (IdRange.sessionIds.start + i.toUInt32).toNat = _
  have hstart : IdRange.sessionIds.start.toNat = 900000 := rfl
  have hi' : i.toUInt32.toNat = i := by
    show i % 2 ^ 32 = i
    omega
  rw [UInt32.toNat_add, hstart, hi']
  omega

theorem rules_sorted : (rules domains).Pairwise fun a b => a.id < b.id := by
  rw [List.pairwise_iff_getElem]
  intro i j hi hj hij
  rw [length_rules] at hi hj
  simp only [rules, List.getElem_mapIdx]
  rw [UInt32.lt_iff_toNat_lt, toNat_id_rule h hi, toNat_id_rule h hj]
  omega

theorem contains_id_rules {r : Rule} (hr : r ∈ rules domains) :
    IdRange.sessionIds.contains r.id = true := by
  obtain ⟨i, hi, rfl⟩ := List.mem_mapIdx.mp hr
  rw [IdRange.contains_iff, toNat_id_rule h hi]
  have hsize : IdRange.sessionIds.size = 100000 := rfl
  have hstart : IdRange.sessionIds.start.toNat = 900000 := rfl
  have hstop : IdRange.sessionIds.stop.toNat = 1000000 := rfl
  omega

end

end Whitelist

namespace RuleStore

variable {s : RuleStore} {domains : List String}

theorem capacity_session_le (s : RuleStore) : s.capacity .session ≤ IdRange.sessionIds.size :=
  Nat.min_le_right _ _

theorem replaceAll_whitelist (h : (Whitelist.rules domains).length ≤ s.capacity .session) :
    ∃ prev s', s.replaceAll .session (Whitelist.rules domains) = .ok (prev, s') := by
  have hlen : domains.length ≤ IdRange.sessionIds.size := by
    rw [← Whitelist.length_rules]
    exact Nat.le_trans h s.capacity_session_le
  refine ⟨_, _, replaceAll_eq_ok_iff.mpr
    ⟨h, fun r hr => Whitelist.contains_id_rules hlen hr, ?_, rfl, rfl⟩⟩
  exact List.pairwise_map.mpr ((Whitelist.rules_sorted hlen).imp UInt32.ne_of_lt)

/-- the rules of a whitelist in the store are in the order of its domains -/
theorem rules_insertAll_whitelist (h : (Whitelist.rules domains).length ≤ s.capacity .session) :
    (RuleTable.insertAll ∅ (Whitelist.rules domains)).rules = Whitelist.rules domains := by
  rw [Whitelist.length_rules] at h
  exact RuleTable.rules_insertAll_of_sorted
    (Whitelist.rules_sorted (Nat.le_trans h s.capacity_session_le))

end RuleStore

end Blocklist
