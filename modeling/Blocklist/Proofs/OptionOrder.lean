import Blocklist.Proofs.LineAccounts

/-!
# Options in any order

The order in which options are written has no bearing on whether they are accepted, on the resource
types and on case. Lists of domains keep their order, and of parties the last one counts; where
there is one list of domains at most and one party at most, the order has no bearing at all. A line
that only lists its options in another order is then a repetition.

* `Options.joined`               segments of options as one text;
* `Options.OneParty`, `Options.OneList`   options whose order has no bearing;
* `Options.Describes.eq_of_perm`          the options of pieces in another order;
* `Filter.parse_of_perm`         a line with its options in another order;
* `FilterList.permuted_options`  what comes of options and of lines in another order.
-/

namespace Blocklist

namespace Text

variable {p : Char → Bool} {a b w : List Char} {c sep : Char}

/-! ## the ends of a text -/

theorem rdropWhile_append_of_all (a : List Char) (h : ∀ c ∈ b, p c = true) :
    (a ++ b).rdropWhile p = a.rdropWhile p := by
  rw [List.rdropWhile, List.reverse_append, List.dropWhile_append_of_pos, List.rdropWhile]
  exact fun c hc => h c (List.mem_reverse.mp hc)

theorem trimWhile_append_of_all (a : List Char) (h : ∀ c ∈ b, p c = true) :
    trimWhile p (a ++ b) = trimWhile p a := by
  show (List.dropWhile p (a ++ b)).rdropWhile p = (List.dropWhile p a).rdropWhile p
  rw [List.dropWhile_append]
  split
  · rename_i hempty
    rw [List.isEmpty_iff.mp hempty, List.dropWhile_eq_nil_iff.mpr h]
  · exact rdropWhile_append_of_all _ h

theorem dropWhile_append_cons (h : p c = false) (a b : List Char) :
    (a ++ c :: b).dropWhile p = a.dropWhile p ++ c :: b := by
  rw [List.dropWhile_append]
  split
  · rename_i hempty
    rw [List.isEmpty_iff.mp hempty, List.dropWhile_cons_of_neg (Bool.eq_false_iff.mp h),
      List.nil_append]
  · rfl

/-- each side of a character that stays is trimmed by itself -/
theorem trimWhile_append_cons (h : p c = false) (a b : List Char) :
    trimWhile p (a ++ c :: b) = a.dropWhile p ++ c :: b.rdropWhile p := by
  rw [trimWhile, dropWhile_append_cons h, List.reverse_append, List.reverse_cons, List.append_assoc,
    List.singleton_append, dropWhile_append_cons h, List.reverse_append, List.reverse_cons,
    List.reverse_reverse, List.append_assoc, List.singleton_append, List.rdropWhile]

/-- what follows the last separator belongs to the last piece -/
theorem splitOn_append_of_not_mem (h : sep ∉ b) (a : List Char) :
    ∃ init last, splitOn sep a = init ++ [last] ∧ splitOn sep (a ++ b) = init ++ [last ++ b] := by
  induction a with
  | nil => exact ⟨[], [], rfl, splitOn_of_not_mem h⟩
  | cons c a ih =>
    obtain ⟨init, last, ha, hab⟩ := ih
    by_cases hc : c = sep
    · rw [List.cons_append, hc, splitOn_cons_self, splitOn_cons_self, ha, hab]
      exact ⟨[] :: init, last, rfl, rfl⟩
    · rw [List.cons_append, splitOn_cons_of_ne hc, splitOn_cons_of_ne hc, ha, hab]
      cases init with
      | nil => exact ⟨[], c :: last, rfl, rfl⟩
      | cons l init => exact ⟨(c :: l) :: init, last, rfl, rfl⟩

/-! ## occurrences -/

theorem prefix_of_prefix_append_cons (hc : c ∉ w) (h : w <+: a ++ c :: b) : w <+: a := by
  have hfront : a ++ [c] <+: a ++ c :: b := ⟨b, by simp⟩
  rcases List.prefix_or_prefix_of_prefix h hfront with hw | hw
  · exact (List.prefix_concat_iff.mp hw).resolve_left fun heq =>
      hc (heq ▸ List.mem_append_right a List.mem_cons_self)
  · exact absurd (hw.subset (List.mem_append_right a List.mem_cons_self)) hc

/-- a text that a character is not in occurs before it or after it -/
theorem infix_append_cons_iff (hc : c ∉ w) : w <:+: a ++ c :: b ↔ w <:+: a ∨ w <:+: b := by
  constructor
  · intro h
    induction a with
    | nil =>
      rcases List.infix_cons_iff.mp h with h | h
      · have hnil : w <+: [] := prefix_of_prefix_append_cons hc h
        exact .inl hnil.isInfix
      · exact .inr h
    | cons d a ih =>
      rcases List.infix_cons_iff.mp h with h | h
      · exact .inl (prefix_of_prefix_append_cons hc (List.cons_append ▸ h)).isInfix
      · exact (ih h).imp_left (List.infix_cons_iff.mpr ∘ .inr)
  · rintro (h | h)
    · exact h.trans (List.prefix_append _ _).isInfix
    · exact h.trans ((List.suffix_cons c b).trans (List.suffix_append a _)).isInfix

/-- Characters that do not occur in a text have no part in its occurrences. -/
theorem infix_append_iff_of_forall (hw : w ≠ []) (h : ∀ c ∈ a, c ∉ w) :
    w <:+: a ++ b ↔ w <:+: b := by
  induction a with
  | nil => rfl
  | cons c a ih =>
    obtain ⟨hc, ha⟩ := List.forall_mem_cons.mp h
    have hnone : ¬ w <:+: [] := fun hnil => hw (List.infix_nil.mp hnil)
    rw [List.cons_append, ← List.nil_append (c :: (a ++ b)), infix_append_cons_iff hc, ih ha,
      or_iff_right hnone]

theorem infix_dropWhile_iff (hw : w ≠ []) (h : ∀ c ∈ w, p c = false) (cs : List Char) :
    w <:+: cs.dropWhile p ↔ w <:+: cs := by
  have hfront : ∀ c ∈ cs.takeWhile p, c ∉ w := fun c hc hmem => by
    have hp := List.mem_takeWhile_imp hc
    rw [h c hmem] at hp
    cases hp
  rw [← infix_append_iff_of_forall hw hfront, List.takeWhile_append_dropWhile]

theorem infix_trimWhile_iff (hw : w ≠ []) (h : ∀ c ∈ w, p c = false) (cs : List Char) :
    w <:+: trimWhile p cs ↔ w <:+: cs := by
  have hreverse : ∀ c ∈ w.reverse, p c = false := fun c hc => h c (List.mem_reverse.mp hc)
  rw [trimWhile, ← List.reverse_infix, List.reverse_reverse,
    infix_dropWhile_iff (mt List.reverse_eq_nil_iff.mp hw) hreverse, List.reverse_infix,
    infix_dropWhile_iff hw h]

end Text

namespace Options

variable {pieces pieces' : List (List Char)} {o o' : Options} {t : ResourceType}

/-! ## pieces in another order -/

/-- all keywords of parties name the same party -/
def OneParty (pieces : List (List Char)) : Prop :=
  ∀ a ∈ pieces, ∀ b ∈ pieces, ∀ p q, Segment.NamesParty a p → Segment.NamesParty b q → p = q

/-- at most one of the pieces is a list of domains -/
def OneList (pieces : List (List Char)) : Prop :=
  pieces.countP (fun piece => "domain=".toList <+: piece) ≤ 1

theorem oneParty_iff : OneParty pieces ↔
    ∀ p ∈ (segments pieces).filterMap Segment.party?,
      ∀ q ∈ (segments pieces).filterMap Segment.party?, p = q := by
  rw [segments, List.filterMap_filterMap]
  simp only [List.mem_filterMap, party?_ofText?_iff, OneParty]
  constructor
  · rintro h p ⟨a, ha, hp⟩ q ⟨b, hb, hq⟩
    exact h a ha b hb p q hp hq
  · intro h a ha b hb p q hp hq
    exact h p ⟨a, ha, hp⟩ q ⟨b, hb, hq⟩

instance (pieces : List (List Char)) : Decidable (OneParty pieces) :=
  decidable_of_iff _ oneParty_iff.symm

instance (pieces : List (List Char)) : Decidable (OneList pieces) :=
  inferInstanceAs (Decidable (_ ≤ 1))

theorem names_of_perm (h : pieces.Perm pieces') (negated : Bool) (t : ResourceType) :
    Names pieces negated t ↔ Names pieces' negated t := by
  simp only [Names, h.mem_iff]

theorem leaves_of_perm (h : pieces.Perm pieces') : Leaves pieces t ↔ Leaves pieces' t := by
  simp only [Leaves, names_of_perm h]

theorem grammatical_of_perm {text text' : List Char}
    (h : (Options.pieces text).Perm (Options.pieces text')) :
    Grammatical text ↔ Grammatical text' := by
  simp only [Grammatical, h.mem_iff, leaves_of_perm h]

theorem excludedParts_perm {parts parts' : List (List Char)} (h : parts.Perm parts') :
    (Segment.excludedParts parts).Perm (Segment.excludedParts parts') :=
  ((h.filter _).map _).filter _

/-- lists of domains are read in their order, so one list alone is read the same anywhere -/
theorem OneList.flatMap_domainParts (hone : OneList pieces) (h : pieces.Perm pieces') :
    pieces.flatMap Segment.domainParts = pieces'.flatMap Segment.domainParts := by
  have hlists (pieces : List (List Char)) : pieces.flatMap Segment.domainParts =
      (pieces.filter fun piece => "domain=".toList <+: piece).flatMap Segment.domainParts := by
    induction pieces with
    | nil => rfl
    | cons piece pieces ih =>
      rw [List.flatMap_cons, ih, List.filter_cons]
      split
      · rw [List.flatMap_cons]
      · rename_i hnot
        rw [Segment.domainParts, if_neg (mt decide_eq_true hnot), List.nil_append]
  have hfilter := h.filter fun piece => "domain=".toList <+: piece
  rw [OneList, List.countP_eq_length_filter] at hone
  rw [hlists pieces, hlists pieces']
  generalize pieces.filter _ = lists at hone hfilter
  rcases Nat.le_one_iff_eq_zero_or_eq_one.mp hone with hzero | hsingle
  · obtain rfl := List.eq_nil_of_length_eq_zero hzero
    rw [hfilter.nil_eq]
  · obtain ⟨piece, rfl⟩ := List.length_eq_one_iff.mp hsingle
    rw [List.singleton_perm.mp hfilter]

namespace Describes

/-- With one party at most, a party is meant if some piece names it. -/
theorem party_iff (h : Describes pieces o) (hone : OneParty pieces) (p : Party) :
    o.party = some p ↔ ∃ piece ∈ pieces, Segment.NamesParty piece p := by
  rw [h.party]
  constructor
  · rintro ⟨before, piece, after, rfl, hpiece, -⟩
    exact ⟨piece, List.mem_append_right _ List.mem_cons_self, hpiece⟩
  · rintro ⟨piece, hpiece, hp⟩
    have hmem : p ∈ (segments pieces).filterMap Segment.party? := by
      rw [segments, List.filterMap_filterMap]
      exact List.mem_filterMap.mpr ⟨piece, hpiece, party?_ofText?_iff.mpr hp⟩
    obtain ⟨q, hq⟩ := Option.ne_none_iff_exists'.mp
      (mt List.getLast?_eq_none_iff.mp (List.ne_nil_of_mem hmem))
    obtain ⟨before, last, after, heq, hlast, hafter⟩ := party_eq_some_iff.mp hq
    have hlastmem : last ∈ pieces := heq ▸ List.mem_append_right _ List.mem_cons_self
    cases hone piece hpiece last hlastmem p q hp hlast
    exact ⟨before, last, after, heq, hlast, hafter⟩

variable (h : Describes pieces o) (h' : Describes pieces' o') (hperm : pieces.Perm pieces')
include h h' hperm

theorem types_of_perm : o.resourceTypes = o'.resourceTypes := by
  rw [ResourceTypes.ext_iff]
  intro t
  rw [h.types, h'.types, leaves_of_perm hperm]

theorem matchCase_of_perm : o.matchCase = o'.matchCase := by
  rw [Bool.eq_iff_iff, h.matchCase, h'.matchCase]
  simp only [hperm.mem_iff]

theorem initiators_of_perm : o.initiators.Perm o'.initiators := by
  rw [h.initiators, h'.initiators]
  exact ((hperm.flatMap_right _).filter _).map _

theorem excluded_of_perm : o.excludedInitiators.Perm o'.excludedInitiators := by
  rw [h.excluded, h'.excluded]
  exact (excludedParts_perm (hperm.flatMap_right _)).map _

theorem party_of_perm (hone : OneParty pieces) : o.party = o'.party := by
  have hone' : OneParty pieces' := fun a ha b hb =>
    hone a (hperm.mem_iff.mpr ha) b (hperm.mem_iff.mpr hb)
  refine Option.ext fun p => ?_
  rw [h.party_iff hone, h'.party_iff hone']
  simp only [hperm.mem_iff]

theorem eq_of_perm (hparty : OneParty pieces) (hlist : OneList pieces) : o = o' := by
  have hdomains := hlist.flatMap_domainParts hperm
  have htypes := h.types_of_perm h' hperm
  have hcase := h.matchCase_of_perm h' hperm
  have hp := h.party_of_perm h' hperm hparty
  have hinitiators : o.initiators = o'.initiators := by rw [h.initiators, h'.initiators, hdomains]
  have hexcluded : o.excludedInitiators = o'.excludedInitiators := by
    rw [h.excluded, h'.excluded, hdomains]
  cases o
  cases o'
  congr

end Describes

/-! ## segments -/

/-- segments of options as one text -/
def joined (segs : List (List Char)) : List Char := [','].intercalate segs

variable {text : List Char} {segs segs' : List (List Char)}

theorem pieces_joined (hcomma : ∀ seg ∈ segs, ',' ∉ seg) (hne : segs ≠ []) :
    Options.pieces (joined segs) = segs.map fun seg => Text.lower (Text.trim seg) := by
  rw [Options.pieces, rawPieces, joined, List.splitOn_intercalate ',' hcomma hne, List.map_map]
  rfl

theorem pieces_joined_perm (hcomma : ∀ seg ∈ segs, ',' ∉ seg) (hperm : segs.Perm segs') :
    (Options.pieces (joined segs)).Perm (Options.pieces (joined segs')) := by
  cases segs with
  | nil => rw [hperm.nil_eq]
  | cons seg segs =>
    have hne : segs' ≠ [] := fun h => by
      rw [h] at hperm
      cases hperm.eq_nil
    have hcomma' : ∀ seg ∈ segs', ',' ∉ seg := fun seg hseg => hcomma seg (hperm.mem_iff.mpr hseg)
    rw [pieces_joined hcomma (List.cons_ne_nil seg segs), pieces_joined hcomma' hne]
    exact hperm.map _

/-- Blanks at the end of a text of options belong to its last piece. -/
theorem pieces_rdropWhile (text : List Char) :
    Options.pieces (text.rdropWhile Text.isBlank) = Options.pieces text := by
  have hblank : ∀ c ∈ text.rtakeWhile Text.isBlank, Text.isBlank c = true :=
    fun c => List.mem_rtakeWhile_imp
  have hcomma : ',' ∉ text.rtakeWhile Text.isBlank := fun h => absurd (hblank ',' h) (by decide)
  obtain ⟨init, last, hfront, hall⟩ :=
    Text.splitOn_append_of_not_mem hcomma (text.rdropWhile Text.isBlank)
  rw [List.rdropWhile_append_rtakeWhile] at hall
  have htrim : Text.trim (last ++ text.rtakeWhile Text.isBlank) = Text.trim last :=
    Text.trimWhile_append_of_all last hblank
  simp only [Options.pieces, rawPieces, ← Text.splitOn_eq, hfront, hall, List.map_append,
    List.map_cons, List.map_nil, htrim]

theorem joined_cons_cons (seg seg' : List Char) (segs : List (List Char)) :
    joined (seg :: seg' :: segs) = seg ++ ',' :: joined (seg' :: segs) := by
  rw [joined, List.intercalate_cons_cons, List.append_assoc]
  rfl

theorem joined_singleton (seg : List Char) : joined [seg] = seg := List.intercalate_singleton

/-- what is not cut by commas occurs in one of the segments -/
theorem infix_joined_iff {w : List Char} (hw : w ≠ []) (hcomma : ',' ∉ w) :
    w <:+: joined segs ↔ ∃ seg ∈ segs, w <:+: seg := by
  induction segs with
  | nil => exact ⟨fun h => absurd (List.infix_nil.mp h) hw, nofun⟩
  | cons seg segs ih =>
    rw [List.exists_mem_cons_iff]
    cases segs with
    | nil =>
      rw [joined_singleton]
      exact ⟨.inl, fun h => h.resolve_right nofun⟩
    | cons seg' segs => rw [joined_cons_cons, Text.infix_append_cons_iff hcomma, ih]

theorem head?_joined {c : Char} (hc : c ≠ ',') (h : (joined segs).head? = some c) :
    ∃ seg ∈ segs, seg.head? = some c := by
  cases segs with
  | nil => cases h
  | cons seg segs =>
    refine ⟨seg, List.mem_cons_self, ?_⟩
    cases segs with
    | nil => rwa [joined_singleton] at h
    | cons seg' segs =>
      rw [joined_cons_cons] at h
      cases seg with
      | nil => exact absurd (Option.some.inj h).symm hc
      | cons d seg => exact h

end Options

namespace Segment

/-- no option begins as a mark of element hiding ends -/
theorem IsOption.head?_ne {cs : List Char} (h : IsOption cs) : cs.head? ≠ some '#' := by
  cases h with
  | blank => exact nofun
  | domains value => exact fun h => absurd (Option.some.inj h) (by decide)
  | resource negated hname =>
    have hall : ∀ negated, ∀ entry ∈ resourceKeywords,
        (keywordText negated entry.1).head? ≠ some '#' := by decide
    exact hall negated _ hname
  | party negated hname =>
    have hall : ∀ negated, ∀ entry ∈ partyKeywords,
        (keywordText negated entry.1).head? ≠ some '#' := by decide
    exact hall negated _ hname
  | matchCase hname =>
    have hall : ∀ name ∈ matchCaseKeywords, name.toList.head? ≠ some '#' := by decide
    exact hall _ hname
  | important => decide

theorem head?_ne_of_isOption {seg : List Char} (h : IsOption (Text.lower (Text.trim seg))) :
    seg.head? ≠ some '#' := by
  intro hhead
  obtain ⟨cs, rfl⟩ := List.head?_eq_some_iff.mp hhead
  have htrim : Text.trim ('#' :: cs) = '#' :: cs.rdropWhile Text.isBlank :=
    Text.trimWhile_append_cons (by decide) [] cs
  rw [htrim] at h
  exact h.head?_ne rfl

end Segment

/-! ## lines -/

namespace Pattern

/-- a text after which a `$` begins the options -/
structure Opens (head : List Char) : Prop where
  escaped : Escaped head
  free : head.getLast? ≠ some '\\'

instance (head : List Char) : Decidable (Opens head) :=
  decidable_of_iff (Escaped head ∧ head.getLast? ≠ some '\\')
    ⟨fun h => ⟨h.1, h.2⟩, fun h => ⟨h.escaped, h.free⟩⟩

theorem Opens.of_append {front head : List Char} (h : Opens (front ++ head))
    (hfront : front.getLast? ≠ some '\\') : Opens head := by
  constructor
  · rintro before after rfl
    have hlast := h.escaped (front ++ before) after (List.append_assoc ..).symm
    rw [List.getLast?_append] at hlast
    cases hbefore : before.getLast? with
    | none => exact absurd (by rwa [hbefore] at hlast) hfront
    | some c => rwa [hbefore] at hlast
  · intro hlast
    refine h.free ?_
    rw [List.getLast?_append, hlast]
    rfl

end Pattern

namespace Filter

variable {head : List Char} {segs segs' : List (List Char)}

/-! ## marks of element hiding -/

/-- the marks of element hiding -/
theorem hidesElements_iff {line : List Char} :
    HidesElements line ↔ ['#', '#'] <:+: line ∨ ['#', '@', '#'] <:+: line ∨
      ['#', '?', '#'] <:+: line ∨ ['#', '$', '#'] <:+: line := by
  simp only [HidesElements, List.mem_cons, List.not_mem_nil, or_false, exists_eq_or_imp,
    exists_eq_left]
  rfl

theorem hidesElements_trim_iff (line : List Char) :
    HidesElements (Text.trim line) ↔ HidesElements line := by
  have hmark (mark : List Char) (hne : mark ≠ []) (h : (mark.all fun c => !Text.isBlank c) = true) :
      mark <:+: Text.trim line ↔ mark <:+: line := by
    refine Text.infix_trimWhile_iff hne (fun c hc => ?_) line
    rw [← Bool.not_eq_true']
    exact List.all_eq_true.mp h c hc
  rw [hidesElements_iff, hidesElements_iff, hmark _ (by decide) (by decide),
    hmark _ (by decide) (by decide), hmark _ (by decide) (by decide),
    hmark _ (by decide) (by decide)]

theorem hidesElements_joined_iff :
    HidesElements (Options.joined segs) ↔ ∃ seg ∈ segs, HidesElements seg := by
  have hmark (mark : List Char) (hne : mark ≠ []) (h : ',' ∉ mark) :
      mark <:+: Options.joined segs ↔ ∃ seg ∈ segs, mark <:+: seg := Options.infix_joined_iff hne h
  rw [hidesElements_iff, hmark _ (by decide) (by decide), hmark _ (by decide) (by decide),
    hmark _ (by decide) (by decide), hmark _ (by decide) (by decide)]
  simp only [hidesElements_iff, and_or_left, exists_or]

/-- A `$` is a part of a mark itself, so a mark can stand across the start of the options. -/
theorem infix_append_dollar {a b : List Char} (h : ['#', '$', '#'] <:+: a ++ '$' :: b) :
    ['#', '$', '#'] <:+: a ∨ ['#', '$', '#'] <:+: b ∨ b.head? = some '#' := by
  induction a with
  | nil =>
    rcases List.infix_cons_iff.mp h with ⟨rest, heq⟩ | h
    · exact absurd (List.cons.inj heq).1 (by decide)
    · exact .inr (.inl h)
  | cons c a ih =>
    rcases List.infix_cons_iff.mp h with ⟨rest, heq⟩ | h
    · match a with
      | [] =>
        have hb : b = '#' :: rest := (List.cons.inj (List.cons.inj heq).2).2.symm
        rw [hb]
        exact .inr (.inr rfl)
      | [d] =>
        have hdollar : '#' = '$' := (List.cons.inj (List.cons.inj (List.cons.inj heq).2).2).1
        exact absurd hdollar (by decide)
      | d :: e :: a =>
        refine .inl ⟨[], a, ?_⟩
        obtain ⟨hc, heq⟩ := List.cons.inj heq
        obtain ⟨hd, heq⟩ := List.cons.inj heq
        rw [← hc, ← hd, ← (List.cons.inj heq).1]
        rfl
    · exact (ih h).imp_left (List.infix_cons_iff.mpr ∘ .inr)

theorem hidesElements_append_dollar {a b : List Char} (h : HidesElements (a ++ '$' :: b)) :
    HidesElements a ∨ HidesElements b ∨ b.head? = some '#' := by
  rw [hidesElements_iff, Text.infix_append_cons_iff (by decide),
    Text.infix_append_cons_iff (by decide), Text.infix_append_cons_iff (by decide)] at h
  rw [hidesElements_iff, hidesElements_iff]
  have hdollar := infix_append_dollar (a := a) (b := b)
  tauto

theorem hidesElements_of_infix {a b : List Char} (hab : a <:+: b) (h : HidesElements a) :
    HidesElements b := by
  obtain ⟨mark, hmark, hinfix⟩ := h
  exact ⟨mark, hmark, hinfix.trans hab⟩

/-- Options in another order hide no elements unless the line did before. -/
theorem hidesElements_of_perm (hperm : segs.Perm segs')
    (hoptions : ∀ seg ∈ segs, Segment.IsOption (Text.lower (Text.trim seg)))
    (h : HidesElements (head ++ '$' :: Options.joined segs')) :
    HidesElements (head ++ '$' :: Options.joined segs) := by
  rcases hidesElements_append_dollar h with h | h | h
  · exact hidesElements_of_infix (List.prefix_append _ _).isInfix h
  · have hjoined : HidesElements (Options.joined segs) := by
      rw [hidesElements_joined_iff] at h ⊢
      simpa only [hperm.mem_iff] using h
    exact hidesElements_of_infix
      ((List.suffix_cons '$' _).trans (List.suffix_append head _)).isInfix hjoined
  · obtain ⟨seg, hseg, hhash⟩ := Options.head?_joined (by decide) h
    exact absurd hhash (Segment.head?_ne_of_isOption (hoptions seg (hperm.mem_iff.mpr hseg)))

/-! ## a line and its options -/

theorem mark_prefix_iff {a b : List Char} : ['@', '@'] <+: a ++ '$' :: b ↔ ['@', '@'] <+: a :=
  ⟨Text.prefix_of_prefix_append_cons (by decide), fun h => h.trans (List.prefix_append _ _)⟩

theorem unmarked_append_dollar (a b : List Char) :
    unmarked (a ++ '$' :: b) = unmarked a ++ '$' :: b := by
  rw [unmarked, unmarked]
  by_cases h : ['@', '@'] <+: a
  · rw [if_pos (mark_prefix_iff.mpr h), if_pos h]
    obtain ⟨rest, rfl⟩ := h
    rfl
  · rw [if_neg (mt mark_prefix_iff.mp h), if_neg h]

theorem splitException_fst_append_dollar (a b : List Char) :
    (splitException (a ++ '$' :: b)).1 = (splitException a).1 := by
  rw [Bool.eq_iff_iff, splitException_fst, splitException_fst, mark_prefix_iff]

theorem isComment_append_dollar (a b : List Char) :
    isComment (a ++ '$' :: b) = isComment (a ++ ['$']) := by
  cases a <;> rfl

theorem opens_unmarked (h : Pattern.Opens head) : Pattern.Opens (unmarked head) := by
  rw [unmarked]
  split
  · rename_i hmark
    obtain ⟨rest, rfl⟩ := hmark
    exact h.of_append (by decide)
  · exact h

theorem opens_dropWhile (h : Pattern.Opens head) : Pattern.Opens (head.dropWhile Text.isBlank) := by
  rw [← List.takeWhile_append_dropWhile (p := Text.isBlank) (l := head)] at h
  refine h.of_append fun hlast => ?_
  have hblank := List.mem_takeWhile_imp (List.mem_of_getLast? hlast)
  exact absurd hblank (by decide)

theorem parts_append_dollar (h : Pattern.Opens head) (text : List Char) :
    parts (head ++ '$' :: text) = (unmarked head, some text) := by
  have hopens := opens_unmarked h
  rw [← cut_unmarked_iff, unmarked_append_dollar]
  exact .parted rfl hopens.escaped hopens.free

/-- the pattern of a line does not depend on its options -/
theorem target_append_dollar (h : Pattern.Opens head) (text : List Char) :
    target (head ++ '$' :: text) = Pattern.splitAnchor (Text.trim (unmarked head)) := by
  rw [target, parts_append_dollar h]

theorem url_append_dollar (h : Pattern.Opens head) (text : List Char) :
    url (head ++ '$' :: text) =
      Pattern.urlFilter (Pattern.splitAnchor (Text.trim (unmarked head))).2 := by
  rw [url, target_append_dollar h]

/-- With the same options, what follows the pattern has no bearing on what the line does. -/
theorem effect_ruleOf_append_dollar (h : Pattern.Opens head) (text text' : List Char) (o : Options)
    (id : RuleId) :
    (ruleOf (head ++ '$' :: text') o id).effect = (ruleOf (head ++ '$' :: text) o id).effect := by
  simp only [Rule.effect, ruleOf, rule, splitException_fst_append_dollar, target_append_dollar h,
    url_append_dollar h]

theorem trim_append_dollar (head text : List Char) :
    Text.trim (head ++ '$' :: text) =
      head.dropWhile Text.isBlank ++ '$' :: text.rdropWhile Text.isBlank :=
  Text.trimWhile_append_cons (by decide) head text

theorem Accepted.parse_options {text : List Char} {o : Options} (hhead : Pattern.Opens head)
    (h : Accepted (head ++ '$' :: text) o) : Options.parse text = .ok o := by
  have hoptions := h.options
  rwa [parts_append_dollar hhead] at hoptions

/-- other options after the same pattern -/
theorem Accepted.with_options {text text' : List Char} {o o' : Options} (hhead : Pattern.Opens head)
    (h : Accepted (head ++ '$' :: text) o) (hhides : ¬ HidesElements (head ++ '$' :: text'))
    (hoptions : Options.parse text' = .ok o') : Accepted (head ++ '$' :: text') o' where
  ne_nil := List.append_ne_nil_of_right_ne_nil _ (List.cons_ne_nil _ _)
  not_cosmetic := by
    rw [Bool.eq_false_iff, Ne, isCosmetic_iff]
    exact hhides
  not_comment := by
    have hcomment := h.not_comment
    rwa [isComment_append_dollar] at hcomment ⊢
  options := by
    rw [parts_append_dollar hhead]
    exact hoptions
  pattern := by
    have hpattern := h.pattern
    rwa [target_append_dollar hhead, url_append_dollar hhead] at hpattern ⊢

/-- A line that is a rule is one with its options in another order, and does the same if their
order has no bearing. -/
theorem parse_of_perm (hhead : Pattern.Opens head) (hcomma : ∀ seg ∈ segs, ',' ∉ seg)
    (hperm : segs.Perm segs') {id : RuleId} {r : Rule}
    (h : parse (head ++ '$' :: Options.joined segs) id = .ok r) :
    ∃ r', parse (head ++ '$' :: Options.joined segs') id = .ok r' ∧
      (Options.OneParty (Options.pieces (Options.joined segs)) →
        Options.OneList (Options.pieces (Options.joined segs)) → r'.effect = r.effect) := by
  obtain ⟨o, ho, rfl⟩ := parse_eq_ok_iff.mp h
  have hfront := opens_dropWhile hhead
  have hhides : ¬ HidesElements (head ++ '$' :: Options.joined segs) := by
    rw [← hidesElements_trim_iff, ← isCosmetic_iff, ho.not_cosmetic]
    exact Bool.false_ne_true
  rw [trim_append_dollar] at ho ⊢
  -- the options of both lines, without the blanks at the ends of the lines
  have hpieces : (Options.pieces ((Options.joined segs).rdropWhile Text.isBlank)).Perm
      (Options.pieces ((Options.joined segs').rdropWhile Text.isBlank)) := by
    rw [Options.pieces_rdropWhile, Options.pieces_rdropWhile]
    exact Options.pieces_joined_perm hcomma hperm
  have hoptions := ho.parse_options hfront
  have hgrammatical := Options.exists_parse_iff.mp ⟨o, hoptions⟩
  obtain ⟨o', hoptions'⟩ :=
    Options.exists_parse_iff.mpr ((Options.grammatical_of_perm hpieces).mp hgrammatical)
  have hsegs : ∀ seg ∈ segs, Segment.IsOption (Text.lower (Text.trim seg)) := by
    intro seg hseg
    refine hgrammatical.1 _ ?_
    rw [Options.pieces_rdropWhile, Options.pieces_joined hcomma (List.ne_nil_of_mem hseg)]
    exact List.mem_map_of_mem hseg
  have hhides' : ¬ HidesElements (head ++ '$' :: Options.joined segs') :=
    mt (hidesElements_of_perm hperm hsegs) hhides
  rw [← hidesElements_trim_iff, trim_append_dollar] at hhides'
  have ho' := ho.with_options hfront hhides' hoptions'
  rw [← trim_append_dollar] at ho'
  refine ⟨_, parse_eq_ok_iff.mpr ⟨o', ho', rfl⟩, fun hparty hlist => ?_⟩
  rw [← Options.pieces_rdropWhile] at hparty hlist
  have hsame := (Options.describes_of_parse hoptions).eq_of_perm
    (Options.describes_of_parse hoptions') hpieces hparty hlist
  rw [← hsame, trim_append_dollar]
  exact effect_ruleOf_append_dollar hfront _ _ o id

end Filter

namespace FilterList

/-! ## repetitions -/

/-- The second line only repeats the first. In a text of the two the first is the one rule. In any
text that has the first, the second one below it is a repetition and changes nothing else. -/
structure Repetition (line line' : List Char) : Prop where
  pair : '\n' ∉ line → '\n' ∉ line' → ∀ window : IdRange, 0 < window.size →
    (compile (line ++ '\n' :: line') window).tally = { lines := 2, rules := 1, duplicates := 1 }
  below : ∀ (text text' : List Char) (before between after : List (List Char)) (window : IdRange),
    Text.lines text = before ++ line :: (between ++ after) →
    Text.lines text' = before ++ line :: (between ++ line' :: after) →
    (compile text' window).tally =
      { (compile text window).tally with
        lines := (compile text window).tally.lines + 1
        duplicates := (compile text window).tally.duplicates + 1 }

theorem repetition_of_effect {line line' : List Char} {id : RuleId} {r r' : Rule}
    (h : Filter.parse line id = .ok r) (h' : Filter.parse line' id = .ok r')
    (heffect : r'.effect = r.effect) : Repetition line line' := by
  have hfirst := Filter.effect?_of_parse id h
  have hsecond := Filter.effect?_of_parse id h'
  rw [heffect] at hsecond
  constructor
  case pair =>
    intro hline hline' window hroom
    have hne : line' ≠ [] := by
      rintro rfl
      cases h'
    have haccounts := accounts_compile id (line ++ '\n' :: line') window
    rw [Text.lines_append_newline hline, Text.lines_of_not_mem hline' hne] at haccounts
    have hone : Tally.Accounts id window.size ([line] ++ []) { lines := 1, rules := 1 } :=
      (Tally.Accounts.new id window.size).fresh hfirst List.not_mem_nil rfl rfl rfl
        (Nat.min_eq_left hroom).symm rfl
    exact (hone.insert List.mem_cons_self hfirst hsecond).unique haccounts
  case below =>
    intro text text' before between after window hlines hlines'
    have haccounts := accounts_compile id text window
    have haccounts' := accounts_compile id text' window
    rw [hlines, ← List.cons_append, ← List.append_assoc] at haccounts
    rw [hlines', ← List.cons_append, ← List.append_assoc] at haccounts'
    have hmem : line ∈ before ++ line :: between ++ after :=
      List.mem_append_left _ (List.mem_append_right _ List.mem_cons_self)
    exact (haccounts.insert hmem hfirst hsecond).unique haccounts'

/-- The order of options has no bearing on whether they are accepted, on resource types and on
case; domains are listed in another order, and the party is the same if only one is named. With one
party and one list of domains at most, a line with its options in another order is a repetition. -/
theorem permuted_options {segs segs' : List (List Char)} (hperm : segs.Perm segs')
    (hcomma : ∀ seg ∈ segs, ',' ∉ seg) :
    let text := Options.joined segs
    let text' := Options.joined segs'
    ((∃ o, Options.parse text = .ok o) ↔ ∃ o', Options.parse text' = .ok o') ∧
    (∀ o o', Options.parse text = .ok o → Options.parse text' = .ok o' →
      o.resourceTypes = o'.resourceTypes ∧ o.matchCase = o'.matchCase ∧
      o.initiators.Perm o'.initiators ∧ o.excludedInitiators.Perm o'.excludedInitiators ∧
      (Options.OneParty (Options.pieces text) → o.party = o'.party)) ∧
    ∀ head id r, Pattern.Opens head → Options.OneParty (Options.pieces text) →
      Options.OneList (Options.pieces text) → Filter.parse (head ++ '$' :: text) id = .ok r →
      (∃ r', Filter.parse (head ++ '$' :: text') id = .ok r' ∧ r'.effect = r.effect) ∧
        Repetition (head ++ '$' :: text) (head ++ '$' :: text') := by
  have hpieces := Options.pieces_joined_perm hcomma hperm
  refine ⟨?_, fun o o' ho ho' => ?_, fun head id r hhead hparty hlist h => ?_⟩
  · rw [Options.exists_parse_iff, Options.exists_parse_iff]
    exact Options.grammatical_of_perm hpieces
  · have hdescribes := Options.describes_of_parse ho
    have hdescribes' := Options.describes_of_parse ho'
    exact ⟨hdescribes.types_of_perm hdescribes' hpieces,
      hdescribes.matchCase_of_perm hdescribes' hpieces,
      hdescribes.initiators_of_perm hdescribes' hpieces,
      hdescribes.excluded_of_perm hdescribes' hpieces,
      hdescribes.party_of_perm hdescribes' hpieces⟩
  · obtain ⟨r', h', heffect⟩ := Filter.parse_of_perm hhead hcomma hperm h
    have hsame := heffect hparty hlist
    exact ⟨⟨r', h', hsame⟩, repetition_of_effect h h' hsame⟩

/-- an exception with an escaped dollar, and its options from last to first -/
theorem permuted_options_reversed :
    let segs := ["Script", " 3p", "domain=A.org|~b.org", "", "~Font", "~1P"].map String.toList
    let text := Options.joined segs
    let text' := Options.joined segs.reverse
    let head := " @@/a\\$b/*".toList
    segs.Perm segs.reverse ∧ (∀ seg ∈ segs, ',' ∉ seg) ∧ Pattern.Opens head ∧
    Options.OneParty (Options.pieces text) ∧ Options.OneList (Options.pieces text) ∧
    (∃ o o', Options.parse text = .ok o ∧ Options.parse text' = .ok o' ∧
      o.resourceTypes = o'.resourceTypes ∧ o.party = o'.party) ∧
    (∃ r, Filter.parse (head ++ '$' :: text) 7 = .ok r) ∧
    Repetition (head ++ '$' :: text) (head ++ '$' :: text') := by
  intro segs text text' head
  have hperm : segs.Perm segs.reverse := (List.reverse_perm segs).symm
  have hcomma : ∀ seg ∈ segs, ',' ∉ seg := by decide
  have hopens : Pattern.Opens head := by decide +kernel
  have hparty : Options.OneParty (Options.pieces text) := by decide +kernel
  have hlist : Options.OneList (Options.pieces text) := by decide +kernel
  have hline : (Filter.parse (head ++ '$' :: text) 7).isOk = true := by decide +kernel
  have hoptions : Options.parse text = .ok
      { resourceTypes := ResourceTypes.ofList [.script], party := some .third,
        initiators := ["a.org"], excludedInitiators := ["b.org"] } := by
    decide +kernel
  have h := permuted_options hperm hcomma
  obtain ⟨o', hoptions'⟩ := h.1.mp ⟨_, hoptions⟩
  obtain ⟨htypes, -, -, -, hsame⟩ := h.2.1 _ o' hoptions hoptions'
  obtain ⟨r, hr⟩ : ∃ r, Filter.parse (head ++ '$' :: text) 7 = .ok r := by
    cases hr : Filter.parse (head ++ '$' :: text) 7 with
    | ok r => exact ⟨r, rfl⟩
    | error e =>
      rw [hr] at hline
      cases hline
  exact ⟨hperm, hcomma, hopens, hparty, hlist,
    ⟨_, o', hoptions, hoptions', htypes, hsame hparty⟩, ⟨r, hr⟩,
    (h.2.2 head 7 r hopens hparty hlist hr).2⟩

end FilterList

end Blocklist
