import Blocklist.Proofs.OptionOrder
import Blocklist.Proofs.WhitelistRules

/-!
# Canonical whitelists

The normal form of a domain is described without the operations that compute it, and a list of
domains is normalized one domain after the other: each either adds its normal form at the end or
changes nothing. So a list that is saved in normal form and goes on later comes to the same as one
that was never saved.

* `Text.Stripped`                       a text without certain characters at its ends;
* `Whitelist.IsLabels`, `Whitelist.HostName`   the names that domains are normalized to;
* `Whitelist.IsNormalForm`, `Whitelist.normalize?_eq_some_iff_isNormalForm`   normal forms;
* `Whitelist.extend`, `Whitelist.normalizeAll_append`   one domain more, and a list more;
* `Whitelist.FirstForms`                normal forms in the order of their first domains;
* `Whitelist.normalization_canonical`   what normal forms are, that they stay, and that they may be
                                        taken early.
-/

namespace Blocklist

namespace Text

variable {p : Char → Bool} {cs core : List Char}

/-! ## the ends of a text -/

/-- `core` is `cs` without the characters satisfying `p` at its two ends. -/
structure Stripped (p : Char → Bool) (cs core : List Char) : Prop where
  cut : ∃ front back, cs = front ++ core ++ back ∧
    (∀ c ∈ front, p c = true) ∧ ∀ c ∈ back, p c = true
  head : ∀ c, core.head? = some c → p c = false
  last : ∀ c, core.getLast? = some c → p c = false

theorem stripped_iff : Stripped p cs core ↔ trimWhile p cs = core := by
  constructor
  · rintro ⟨⟨front, back, rfl, hfront, hback⟩, hhead, hlast⟩
    have hcore : trimWhile p (front ++ core) = trimWhile p core := by
      rw [trimWhile, List.dropWhile_append_of_pos hfront, ← trimWhile]
    rw [trimWhile_append_of_all _ hback, hcore, trimWhile_eq_self hhead hlast]
  · rintro rfl
    refine ⟨⟨cs.takeWhile p, (cs.dropWhile p).rtakeWhile p, ?_, fun c => List.mem_takeWhile_imp,
      fun c => List.mem_rtakeWhile_imp⟩, fun _ => head?_trimWhile, fun _ => getLast?_trimWhile⟩
    have hback : trimWhile p cs ++ (cs.dropWhile p).rtakeWhile p = cs.dropWhile p :=
      List.rdropWhile_append_rtakeWhile
    rw [List.append_assoc, hback, List.takeWhile_append_dropWhile]

/-! ## labels -/

theorem isHostChar_iff {c : Char} :
    isHostChar c = true ↔ c.isAlpha = true ∨ c.isDigit = true ∨ c = '-' ∨ c = '_' := by
  simp [isHostChar, Char.isAlphanum, or_assoc]

/-- ASCII characters take one byte each -/
theorem utf8ByteSize_of_isHostChar (h : ∀ c ∈ cs, c = '.' ∨ isHostChar c = true) :
    (String.ofList cs).utf8ByteSize = cs.length := by
  rw [String.utf8ByteSize_ofList]
  induction cs with
  | nil => rfl
  | cons c cs ih =>
    obtain ⟨hc, hcs⟩ := List.forall_mem_cons.mp h
    have hsize : c.utf8Size = 1 := by
      rcases hc with rfl | hc
      · rfl
      · have hlow := (toNat_of_isHostChar hc).2
        rw [Char.utf8Size_eq_one_iff, UInt32.le_iff_toNat_le]
        show c.toNat ≤ 127
        omega
    rw [String.utf8Len_cons, ih hcs, hsize, List.length_cons]

end Text

namespace Whitelist

variable {s d : String} {cs : List Char} {domains ds : List String}

/-! ## the normal form of a domain -/

/-- Labels with dots between them: none is empty, and all are of ASCII letters, digits, hyphens and
underscores. -/
def IsLabels (cs : List Char) : Prop :=
  ∃ labels : List (List Char), labels ≠ [] ∧ cs = ['.'].intercalate labels ∧
    ∀ label ∈ labels, label ≠ [] ∧
      ∀ c ∈ label, c.isAlpha = true ∨ c.isDigit = true ∨ c = '-' ∨ c = '_'

/-- The name of a host has labels, and not too many bytes in all. -/
structure HostName (name : String) : Prop where
  labels : IsLabels name.toList
  bytes : name.utf8ByteSize ≤ 253

theorem all_isLabel_iff : (Text.splitOn '.' cs).all isLabel = true ↔ IsLabels cs := by
  have hlabel (label : List Char) : isLabel label = true ↔ label ≠ [] ∧
      ∀ c ∈ label, c.isAlpha = true ∨ c.isDigit = true ∨ c = '-' ∨ c = '_' := by
    simp only [isLabel, Bool.and_eq_true, decide_eq_true_eq, List.all_eq_true, Text.isHostChar_iff]
  simp only [List.all_eq_true, hlabel, IsLabels]
  constructor
  · intro h
    refine ⟨Text.splitOn '.' cs, Text.splitOn_ne_nil '.' cs, ?_, h⟩
    rw [Text.splitOn_eq, List.intercalate_splitOn]
  · rintro ⟨labels, hne, rfl, h⟩
    have hdot : ∀ label ∈ labels, '.' ∉ label := fun label hl hdot =>
      absurd ((h label hl).2 '.' hdot) (by decide)
    rwa [Text.splitOn_eq, List.splitOn_intercalate '.' hdot hne]

theorem isName_iff : isName cs = true ↔ HostName (String.ofList cs) := by
  have hbytes (h : (Text.splitOn '.' cs).all isLabel = true) :
      (String.ofList cs).utf8ByteSize = cs.length := by
    refine Text.utf8ByteSize_of_isHostChar fun c hc => ?_
    rcases Text.mem_splitOn_of_mem '.' hc with hdot | ⟨label, hl, hcl⟩
    · exact .inl hdot
    · have hlabel := List.all_eq_true.mp h label hl
      rw [isLabel, Bool.and_eq_true, List.all_eq_true] at hlabel
      exact .inr (hlabel.2 c hcl)
  rw [isName, Bool.and_eq_true, decide_eq_true_eq]
  constructor
  · rintro ⟨hlength, hlabels⟩
    refine ⟨?_, (hbytes hlabels).le.trans hlength⟩
    rw [String.toList_ofList]
    exact all_isLabel_iff.mp hlabels
  · rintro ⟨hlabels, hlength⟩
    rw [String.toList_ofList] at hlabels
    have hall := all_isLabel_iff.mpr hlabels
    exact ⟨(hbytes hall).symm.le.trans hlength, hall⟩

/-- `d` is the name of a host, and what is left of `s` without blanks at its ends, then without dots
at its ends, and in lower case. -/
structure IsNormalForm (s d : String) : Prop where
  form : ∃ trimmed undotted, Text.Stripped Text.isBlank s.toList trimmed ∧
    Text.Stripped (· == '.') trimmed undotted ∧ d.toList = undotted.map Char.toLower
  name : HostName d

theorem normalize?_eq_some_iff_isNormalForm : normalize? s = some d ↔ IsNormalForm s d := by
  rw [normalize?]
  constructor
  · intro h
    split at h
    · next hname =>
      obtain rfl := Option.some.inj h
      refine ⟨⟨_, _, Text.stripped_iff.mpr rfl, Text.stripped_iff.mpr rfl, ?_⟩, isName_iff.mp hname⟩
      rw [String.toList_ofList]
      rfl
    · cases h
  · rintro ⟨⟨trimmed, undotted, htrim, hdots, hd⟩, hname⟩
    have hbare : bare s.toList = d.toList := by
      rw [bare, Text.trim, Text.stripped_iff.mp htrim, Text.stripped_iff.mp hdots, hd, Text.lower]
    have hisName : isName d.toList = true := by
      rw [isName_iff, String.ofList_toList]
      exact hname
    rw [hbare, if_pos hisName, String.ofList_toList]

/-! ## one domain after the other -/

/-- the list with the normal form of one more domain -/
def extend (ds : List String) (domain : String) : List String :=
  match normalize? domain with
  | none => ds
  | some d => if d ∈ ds then ds else ds ++ [d]

theorem extend_of_none (h : normalize? s = none) : extend ds s = ds := by
  rw [extend, h]

theorem extend_of_mem (h : normalize? s = some d) (hd : d ∈ ds) : extend ds s = ds := by
  rw [extend, h]
  exact if_pos hd

theorem extend_of_not_mem (h : normalize? s = some d) (hd : d ∉ ds) : extend ds s = ds ++ [d] := by
  rw [extend, h]
  exact if_neg hd

theorem mem_normalizeAll : d ∈ normalizeAll domains ↔ ∃ s ∈ domains, normalize? s = some d := by
  rw [normalizeAll, List.mem_eraseDups, List.mem_filterMap]

theorem normalizeAll_concat (domains : List String) (s : String) :
    normalizeAll (domains ++ [s]) = extend (normalizeAll domains) s := by
  rw [normalizeAll, List.filterMap_append, List.filterMap_cons, List.filterMap_nil]
  rcases h : normalize? s with _ | d
  · rw [extend_of_none h, List.append_nil, normalizeAll]
  · dsimp only
    rw [List.eraseDups_append, ← normalizeAll]
    by_cases hd : d ∈ normalizeAll domains
    · have hnone : [d].removeAll (domains.filterMap normalize?) = [] := by
        simpa [List.removeAll] using mem_normalizeAll.mp hd
      rw [extend_of_mem h hd, hnone, List.eraseDups_nil, List.append_nil]
    · have hnew : [d].removeAll (domains.filterMap normalize?) = [d] := by
        simpa [List.removeAll] using mt mem_normalizeAll.mpr hd
      rw [extend_of_not_mem h hd, hnew, eraseDups_eq_self (List.nodup_singleton d)]

theorem normalizeAll_append (a b : List String) :
    normalizeAll (a ++ b) = b.foldl extend (normalizeAll a) := by
  induction b using List.reverseRecOn with
  | nil => rw [List.append_nil, List.foldl_nil]
  | append_singleton b s ih =>
    rw [← List.append_assoc, normalizeAll_concat, ih, List.foldl_concat]

/-! ## the order of normal forms -/

/-- the place of the first domain with the normal form `d` -/
def firstPlace (domains : List String) (d : String) : Nat :=
  domains.findIdx fun s => normalize? s = some d

theorem firstPlace_lt_length (h : d ∈ normalizeAll domains) :
    firstPlace domains d < domains.length := by
  obtain ⟨s, hs, hd⟩ := mem_normalizeAll.mp h
  exact List.findIdx_lt_length_of_exists ⟨s, hs, decide_eq_true hd⟩

/-- domains that follow have no effect on the first place of a form that is there -/
theorem firstPlace_append_of_mem (h : d ∈ normalizeAll domains) (rest : List String) :
    firstPlace (domains ++ rest) d = firstPlace domains d := by
  rw [firstPlace, List.findIdx_append]
  exact if_pos (firstPlace_lt_length h)

theorem length_le_firstPlace (h : d ∉ normalizeAll domains) (rest : List String) :
    domains.length ≤ firstPlace (domains ++ rest) d := by
  have hnone : ¬ firstPlace domains d < domains.length := fun hlt => by
    obtain ⟨s, hs, hd⟩ := List.findIdx_lt_length.mp hlt
    exact h (mem_normalizeAll.mpr ⟨s, hs, of_decide_eq_true hd⟩)
  rw [firstPlace] at hnone
  rw [firstPlace, List.findIdx_append, if_neg hnone]
  exact Nat.le_add_left _ _

/-- The normal forms of the domains, in the order of the first domain of each. -/
structure FirstForms (domains ds : List String) : Prop where
  mem_iff : ∀ d, d ∈ ds ↔ ∃ s ∈ domains, normalize? s = some d
  distinct : ds.Nodup
  ordered : ds.Pairwise fun d d' => firstPlace domains d < firstPlace domains d'

/-- a form that is new comes after those that are there -/
theorem ordered_normalizeAll (domains : List String) :
    (normalizeAll domains).Pairwise fun d d' => firstPlace domains d < firstPlace domains d' := by
  induction domains using List.reverseRecOn with
  | nil => exact List.Pairwise.nil
  | append_singleton domains s ih =>
    have hkept : (normalizeAll domains).Pairwise fun d d' =>
        firstPlace (domains ++ [s]) d < firstPlace (domains ++ [s]) d' := by
      refine ih.imp_of_mem fun hd hd' hlt => ?_
      rwa [firstPlace_append_of_mem hd, firstPlace_append_of_mem hd']
    rw [normalizeAll_concat]
    rcases h : normalize? s with _ | d
    · rwa [extend_of_none h]
    · by_cases hd : d ∈ normalizeAll domains
      · rwa [extend_of_mem h hd]
      · rw [extend_of_not_mem h hd, List.pairwise_append]
        refine ⟨hkept, List.pairwise_singleton _ d, fun d₁ hd₁ d₂ hd₂ => ?_⟩
        rw [List.mem_singleton.mp hd₂, firstPlace_append_of_mem hd₁]
        exact Nat.lt_of_lt_of_le (firstPlace_lt_length hd₁) (length_le_firstPlace hd [s])

theorem firstForms_normalizeAll (domains : List String) :
    FirstForms domains (normalizeAll domains) where
  mem_iff _ := mem_normalizeAll
  distinct := (normal_normalizeAll domains).nodup
  ordered := ordered_normalizeAll domains

/-! ## canonical forms -/

theorem normalizeAll_normalizeAll (domains : List String) :
    normalizeAll (normalizeAll domains) = normalizeAll domains :=
  (normal_normalizeAll domains).normalizeAll_eq_self

/-- The normal form of a domain is what is left of it between blanks and dots, in lower case, if
that is the name of a host, and it is its own normal form. A list is normalized to the normal forms
of its domains in the order of their first occurrences. Normalizing leaves these as they are, whether
there are more domains behind them or not. -/
theorem normalization_canonical :
    (∀ s d, normalize? s = some d ↔ IsNormalForm s d) ∧
    (∀ s d, normalize? s = some d → normalize? d = some d) ∧
    (∀ a, FirstForms a (normalizeAll a)) ∧
    (∀ a, normalizeAll (normalizeAll a) = normalizeAll a) ∧
    ∀ a b, normalizeAll (a ++ b) = normalizeAll (normalizeAll a ++ b) := by
  refine ⟨fun s d => normalize?_eq_some_iff_isNormalForm, fun s d => normalize?_idem,
    firstForms_normalizeAll, normalizeAll_normalizeAll, fun a b => ?_⟩
  rw [normalizeAll_append, normalizeAll_append, normalizeAll_normalizeAll]

/-- blanks of other scripts, dots and capitals around one name, texts that are none, and the name
again behind a saved list -/
theorem normalization_canonical_spellings :
    let s := "\u3000..Sub-1.Example_Site.COM. "
    let d := "sub-1.example_site.com"
    let a := [s, "b.org", "a..b", d, "ex\u00E4mple.com", " B.ORG"]
    let b := ["localhost", "B.org."]
    (normalize? s = some d ∧ IsNormalForm s d ∧ normalize? d = some d) ∧
    normalizeAll a = [d, "b.org"] ∧ FirstForms a [d, "b.org"] ∧
    normalizeAll [d, "b.org"] = [d, "b.org"] ∧
    normalizeAll (a ++ b) = [d, "b.org", "localhost"] ∧
    normalizeAll ([d, "b.org"] ++ b) = [d, "b.org", "localhost"] := by
  intro s d a b
  obtain ⟨form, idem, first, fixed, early⟩ := normalization_canonical
  have hs : normalize? s = some d := by decide +kernel
  have ha : normalizeAll a = [d, "b.org"] := by decide +kernel
  have hfirst := first a
  have hfixed := fixed a
  have hearly := early a b
  rw [ha] at hfirst hfixed hearly
  have hlonger : normalizeAll (a ++ b) = [d, "b.org", "localhost"] := by decide +kernel
  exact ⟨⟨hs, (form s d).mp hs, idem s d hs⟩, ha, hfirst, hfixed, hlonger, hearly ▸ hlonger⟩

end Whitelist

end Blocklist
