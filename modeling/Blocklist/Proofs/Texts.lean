import Mathlib
import Blocklist.Text

/-!
# Facts about texts

What is left of a text that is trimmed, cut or written in lower case.

* `Text.trimWhile_eq_self`, `Text.head?_trimWhile`, `Text.getLast?_trimWhile`   the ends of a text;
* `Text.isBlank_of_head?`, `Text.isBlank_of_getLast?`   the ends of a text that is trimmed;
* `Text.mem_splitOn_of_mem`, `Text.mem_of_mem_splitOn`   its characters and those of its pieces;
* `Text.lines_intercalate`      lines put together and taken apart;
* `Text.eq_of_toLower_eq`, `Text.lower_lower`   letters in lower case;
* `Text.isHostChar_cases`, `Text.isBlank_of_isHostChar`   characters of host names.
-/

namespace Blocklist.Text

/-! ## texts as strings -/

theorem ofList_ne_empty {cs : List Char} (h : cs ≠ []) : String.ofList cs ≠ "" :=
  fun hempty => h (String.ofList_eq_empty_iff.mp hempty)

/-! ## trimming -/

theorem dropWhile_eq_self {p : Char → Bool} {cs : List Char}
    (h : ∀ c, cs.head? = some c → p c = false) :
    cs.dropWhile p = cs := by
  cases cs with
  | nil => rfl
  | cons c cs =>
    rw [List.dropWhile_cons_of_neg]
    rw [h c rfl]
    exact Bool.false_ne_true

theorem trimWhile_eq_self {p : Char → Bool} {cs : List Char}
    (hhead : ∀ c, cs.head? = some c → p c = false)
    (hlast : ∀ c, cs.getLast? = some c → p c = false) : trimWhile p cs = cs := by
  rw [trimWhile, dropWhile_eq_self hhead, dropWhile_eq_self, List.reverse_reverse]
  rw [List.head?_reverse]
  exact hlast

theorem mem_of_mem_trimWhile {p : Char → Bool} {c : Char} {cs : List Char}
    (h : c ∈ trimWhile p cs) : c ∈ cs := by
  rw [trimWhile, List.mem_reverse] at h
  exact (List.dropWhile_subset p) (List.mem_reverse.mp ((List.dropWhile_subset p) h))

theorem getLast?_trimWhile {p : Char → Bool} {c : Char} {cs : List Char}
    (h : (trimWhile p cs).getLast? = some c) : p c = false := by
  rw [trimWhile, List.getLast?_reverse] at h
  have hhead := List.head?_dropWhile_not p (cs.dropWhile p).reverse
  rw [h] at hhead
  exact hhead

theorem head?_trimWhile {p : Char → Bool} {c : Char} {cs : List Char}
    (h : (trimWhile p cs).head? = some c) : p c = false := by
  -- a text that is not empty begins as it did before its end was trimmed
  have hprefix : trimWhile p cs <+: cs.dropWhile p := List.rdropWhile_prefix p _
  obtain ⟨rest, hrest⟩ := hprefix
  obtain ⟨front, hfront⟩ := List.head?_eq_some_iff.mp h
  have hhead := List.head?_dropWhile_not p cs
  rw [← hrest, hfront] at hhead
  exact hhead

theorem trimWhile_trimWhile (p : Char → Bool) (cs : List Char) :
    trimWhile p (trimWhile p cs) = trimWhile p cs :=
  trimWhile_eq_self (fun _ => head?_trimWhile) (fun _ => getLast?_trimWhile)

/-- a text that is trimmed begins without a blank -/
theorem isBlank_of_head? {c : Char} {cs : List Char} (h : trim cs = cs) (hc : cs.head? = some c) :
    isBlank c = false := by
  rw [← h] at hc
  exact head?_trimWhile hc

/-- a text that is trimmed ends without a blank -/
theorem isBlank_of_getLast? {c : Char} {cs : List Char} (h : trim cs = cs)
    (hc : cs.getLast? = some c) : isBlank c = false := by
  rw [← h] at hc
  exact getLast?_trimWhile hc

/-! ## pieces -/

theorem mem_splitOn_of_mem (sep : Char) {c : Char} {cs : List Char} (h : c ∈ cs) :
    c = sep ∨ ∃ piece ∈ splitOn sep cs, c ∈ piece := by
  induction cs with
  | nil => cases h
  | cons d cs ih =>
    by_cases hd : d = sep
    · subst hd
      rw [splitOn_cons_self]
      rcases List.mem_cons.mp h with rfl | h
      · exact .inl rfl
      · rcases ih h with rfl | ⟨piece, hp, hc⟩
        · exact .inl rfl
        · exact .inr ⟨piece, List.mem_cons_of_mem _ hp, hc⟩
    · rw [splitOn_cons_of_ne hd]
      cases hs : splitOn sep cs with
      | nil =>
        rw [hs] at ih
        rcases List.mem_cons.mp h with rfl | h
        · exact .inr ⟨[c], List.mem_cons_self, List.mem_cons_self⟩
        · rcases ih h with rfl | ⟨piece, hp, -⟩
          · exact .inl rfl
          · cases hp
      | cons l ls =>
        rw [hs] at ih
        rcases List.mem_cons.mp h with rfl | h
        · exact .inr ⟨c :: l, List.mem_cons_self, List.mem_cons_self⟩
        · rcases ih h with rfl | ⟨piece, hp, hc⟩
          · exact .inl rfl
          · rcases List.mem_cons.mp hp with rfl | hp
            · exact .inr ⟨d :: piece, List.mem_cons_self, List.mem_cons_of_mem _ hc⟩
            · exact .inr ⟨piece, List.mem_cons_of_mem _ hp, hc⟩

theorem mem_of_mem_splitOn {sep c : Char} {piece cs : List Char} (hpiece : piece ∈ splitOn sep cs)
    (hc : c ∈ piece) : c ∈ cs ∧ c ≠ sep := by
  induction cs generalizing piece with
  | nil =>
    rw [splitOn_nil, List.mem_singleton] at hpiece
    rw [hpiece] at hc
    cases hc
  | cons d cs ih =>
    by_cases hd : d = sep
    · rw [hd, splitOn_cons_self] at hpiece
      rcases List.mem_cons.mp hpiece with rfl | hpiece
      · cases hc
      · exact (ih hpiece hc).imp_left (List.mem_cons_of_mem d)
    · rw [splitOn_cons_of_ne hd] at hpiece
      obtain ⟨l, ls, hls⟩ := List.exists_cons_of_ne_nil (splitOn_ne_nil sep cs)
      rw [hls] at hpiece ih
      rcases List.mem_cons.mp hpiece with rfl | hpiece
      · rcases List.mem_cons.mp hc with rfl | hc
        · exact ⟨List.mem_cons_self, hd⟩
        · exact (ih List.mem_cons_self hc).imp_left (List.mem_cons_of_mem d)
      · exact (ih (List.mem_cons_of_mem l hpiece) hc).imp_left (List.mem_cons_of_mem d)

/-! ## lines -/

theorem newline_not_mem_of_mem_lines {l cs : List Char} (h : l ∈ lines cs) : '\n' ∉ l := by
  induction cs generalizing l with
  | nil => cases h
  | cons c cs ih =>
    by_cases hc : c = '\n'
    · rw [hc, lines_cons_newline] at h
      rcases List.mem_cons.mp h with rfl | h
      · exact List.not_mem_nil
      · exact ih h
    · rw [lines_cons_of_ne hc] at h
      cases hls : lines cs with
      | nil =>
        rw [hls] at h
        rw [List.mem_singleton.mp h, List.mem_singleton]
        exact Ne.symm hc
      | cons l' ls =>
        rw [hls] at h ih
        rcases List.mem_cons.mp h with rfl | h
        · rw [List.mem_cons, not_or]
          exact ⟨Ne.symm hc, ih List.mem_cons_self⟩
        · exact ih (List.mem_cons_of_mem l' h)

/-- a line that is ended -/
theorem lines_append_newline {l : List Char} (h : '\n' ∉ l) (cs : List Char) :
    lines (l ++ '\n' :: cs) = l :: lines cs := by
  induction l with
  | nil => exact lines_cons_newline cs
  | cons c l ih =>
    rw [List.mem_cons, not_or] at h
    rw [List.cons_append, lines_cons_of_ne (Ne.symm h.1), ih h.2]
    rfl

/-- a line that is not ended -/
theorem lines_of_not_mem {l : List Char} (h : '\n' ∉ l) (hne : l ≠ []) : lines l = [l] := by
  induction l with
  | nil => exact absurd rfl hne
  | cons c l ih =>
    rw [List.mem_cons, not_or] at h
    rw [lines_cons_of_ne (Ne.symm h.1)]
    cases l with
    | nil => rfl
    | cons d l =>
      rw [ih h.2 (List.cons_ne_nil d l)]
      rfl

/-- Lines that are put together come apart again, if none of them is empty. -/
theorem lines_intercalate {ls : List (List Char)} (h : ∀ l ∈ ls, '\n' ∉ l ∧ l ≠ []) :
    lines (['\n'].intercalate ls) = ls := by
  induction ls with
  | nil => exact lines_nil
  | cons l ls ih =>
    obtain ⟨hl, hls⟩ := List.forall_mem_cons.mp h
    cases ls with
    | nil =>
      rw [List.intercalate_singleton]
      exact lines_of_not_mem hl.1 hl.2
    | cons l' ls =>
      rw [List.intercalate_cons_cons, List.append_assoc, List.singleton_append,
        lines_append_newline hl.1, ih hls]

/-! ## letters -/

theorem isUpper_iff {c : Char} : c.isUpper = true ↔ 65 ≤ c.toNat ∧ c.toNat ≤ 90 := by
  simp [Char.isUpper, UInt32.le_iff_toNat_le, ← Char.toNat_val]

theorem isLower_iff {c : Char} : c.isLower = true ↔ 97 ≤ c.toNat ∧ c.toNat ≤ 122 := by
  simp [Char.isLower, UInt32.le_iff_toNat_le, ← Char.toNat_val]

theorem isAlpha_of_isUpper {c : Char} (h : c.isUpper = true) : c.isAlpha = true := by
  rw [Char.isAlpha, h, Bool.true_or]

/-- only letters come from other characters -/
theorem eq_of_toLower_eq {c d : Char} (hd : d.isAlpha = false) (h : c.toLower = d) : c = d := by
  have hc : c.isAlpha = false := by rw [← Char.isAlpha_toLower_eq_isAlpha, h, hd]
  have hupper : ¬ c.isUpper = true := by
    intro hupper
    rw [isAlpha_of_isUpper hupper] at hc
    cases hc
  rw [← h, Char.toLower_eq_of_not_isUpper hupper]

theorem lower_lower (cs : List Char) : lower (lower cs) = lower cs := by
  rw [lower, lower, List.map_map]
  exact List.map_congr_left fun c _ => Char.toLower_toLower_eq_toLower c

/-! ## characters of host names -/

theorem isHostChar_cases {c : Char} (h : isHostChar c = true) :
    c.isUpper = true ∨ c.isLower = true ∨ c.isDigit = true ∨ c = '-' ∨ c = '_' := by
  simpa [isHostChar, Char.isAlphanum, Char.isAlpha, or_assoc] using h

theorem toNat_of_isHostChar {c : Char} (h : isHostChar c = true) :
    0x20 < c.toNat ∧ c.toNat < 0x80 := by
  rcases isHostChar_cases h with h | h | h | rfl | rfl
  · have hrange := isUpper_iff.mp h
    omega
  · have hrange := isLower_iff.mp h
    omega
  · have hrange : 48 ≤ c.toNat ∧ c.toNat ≤ 57 := Char.isDigit_iff_toNat.mp h
    omega
  · decide
  · decide

theorem isBlank_of_isHostChar {c : Char} (h : isHostChar c = true) : isBlank c = false := by
  obtain ⟨hlow, hhigh⟩ := toNat_of_isHostChar h
  rw [isBlank, List.any_eq_false]
  intro r hr
  rw [Bool.and_eq_true, decide_eq_true_eq, decide_eq_true_eq]
  simp only [blankRanges, List.mem_cons, List.not_mem_nil, or_false] at hr
  rcases hr with rfl | rfl | rfl | rfl | rfl | rfl | rfl | rfl | rfl | rfl <;> dsimp only <;> omega

end Blocklist.Text
