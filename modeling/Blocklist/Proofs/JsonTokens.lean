import Blocklist.Json.Token

/-!
# Tokens are read as they are written

The text of a token, with a text after it that does not go on with it, is read as that token. This
holds of the marks, the words, the strings, and the integers of 64 bits. Decimal numbers are
rounded when they are read, so it does not hold of them.

* `Digits.ofNat_eq_zero_cons`   no zero stands in front of another digit;
* `Token.Ends`                  a text that does not go on with a number;
* `Token.next?_intText`, `Token.next?_quoted`   numbers and strings;
* `Token.Spells`                a text that consists of tokens and blanks;
* `Token.Spells.readAll?`       its tokens are read.
-/

namespace Blocklist

theorem Digits.ofNat_eq_zero_cons {n : Nat} {ds : List Char} (h : ofNat n = '0' :: ds) :
    ds = [] := by
  induction n using Nat.strongRecOn generalizing ds with
  | ind n ih =>
    rw [ofNat] at h
    split at h
    · injection h with _ h
      exact h.symm
    · next hn =>
      obtain ⟨c, cs, hcs⟩ := List.exists_cons_of_ne_nil (ofNat_ne_nil (n / 10))
      rw [hcs, List.cons_append] at h
      injection h with hc _
      rw [hc] at hcs
      have hnil := ih (n / 10) (by omega) hcs
      have hzero : toNat (ofNat (n / 10)) = 0 := by
        rw [hcs, hnil]
        rfl
      rw [toNat_ofNat] at hzero
      omega

namespace Json.Token

/-! ## numbers -/

/-- the text does not go on with a number -/
def Ends (cs : List Char) : Prop :=
  ∀ c, cs.head? = some c → c.isDigit = Bool.false ∧ c ≠ '.' ∧ c ≠ 'e' ∧ c ≠ 'E'

theorem ends_nil : Ends [] := nofun

theorem ends_cons {c : Char} (h : c.isDigit = Bool.false ∧ c ≠ '.' ∧ c ≠ 'e' ∧ c ≠ 'E')
    (cs : List Char) : Ends (c :: cs) := by
  intro c' hc'
  cases hc'
  exact h

section
variable {cs : List Char} (ends : Ends cs)
include ends

theorem digits?_append {ds : List Char} (hne : ds ≠ [])
    (hds : ∀ c ∈ ds, c.isDigit = Bool.true) : digits? (ds ++ cs) = some (ds, cs) := by
  have hnone : cs.takeWhile Char.isDigit = [] ∧ cs.dropWhile Char.isDigit = cs := by
    cases cs with
    | nil => exact ⟨rfl, rfl⟩
    | cons c cs =>
      have hc := (ends c rfl).1
      rw [List.takeWhile_cons, List.dropWhile_cons, hc]
      exact ⟨rfl, rfl⟩
  rw [digits?, List.takeWhile_append_of_pos hds, List.dropWhile_append_of_pos hds, hnone.1, hnone.2,
    List.append_nil]
  cases ds with
  | nil => exact absurd rfl hne
  | cons d ds => rfl

theorem whole?_ofNat (n : Nat) : whole? (Digits.ofNat n ++ cs) = some (Digits.ofNat n, cs) := by
  rw [whole?, digits?_append ends (Digits.ofNat_ne_nil n) fun c => Digits.isDigit_of_mem_ofNat]
  split
  · next heq =>
    -- a zero in front of another digit
    injection heq with heq
    injection heq with heq _
    cases Digits.ofNat_eq_zero_cons heq
  · rfl

theorem fraction?_of_ends : fraction? cs = some (none, cs) := by
  cases cs with
  | nil => rfl
  | cons c cs =>
    have hc := (ends c rfl).2.1
    rw [fraction?]
    rintro cs' heq
    injection heq with heq _
    exact hc heq

theorem exponent?_of_ends : exponent? cs = some (none, cs) := by
  cases cs with
  | nil => rfl
  | cons c cs =>
    obtain ⟨-, -, he, hE⟩ := ends c rfl
    rw [exponent?.eq_def]
    exact if_neg (not_or.mpr ⟨he, hE⟩)

end

theorem le_foldl_digits (n : Nat) (ds : List Char) :
    n ≤ ds.foldl (fun n c => 10 * n + Digits.value c) n := by
  induction ds generalizing n with
  | nil => exact Nat.le_refl n
  | cons d ds ih =>
    have hstep : n ≤ 10 * n + Digits.value d := by omega
    exact Nat.le_trans hstep (ih _)

/-- digits that fit are all taken up -/
theorem takeUp_of_le {n : Nat} {ds : List Char}
    (h : (ds.foldl (fun n c => 10 * n + Digits.value c) n : Nat) ≤ maxInt) :
    takeUp n ds = (ds.foldl (fun n c => 10 * n + Digits.value c) n, []) := by
  induction ds generalizing n with
  | nil => rfl
  | cons d ds ih =>
    have hle := le_foldl_digits (10 * n + Digits.value d) ds
    have hfits : ¬ maxInt < (10 * n + Digits.value d : Nat) := by
      rw [List.foldl_cons] at h
      omega
    rw [takeUp, if_neg hfits]
    exact ih h

theorem takeUp_ofNat {n : Nat} (h : (n : Int) ≤ maxInt) : takeUp 0 (Digits.ofNat n) = (n, []) := by
  have hfold : (Digits.ofNat n).foldl (fun n c => 10 * n + Digits.value c) 0 = n :=
    Digits.toNat_ofNat n
  rw [takeUp_of_le (by rw [hfold]; exact h), hfold]

/-- an integer of 64 bits, of either sign -/
def InRange (n : Int) : Prop := minInt ≤ n ∧ n ≤ maxInt

theorem unsigned?_ofNat {cs : List Char} (ends : Ends cs) (n : Nat) (negative : Bool) :
    unsigned? negative (Digits.ofNat n ++ cs) =
      some (number negative (Digits.ofNat n) none none, cs) := by
  rw [unsigned?, whole?_ofNat ends]
  simp only [Option.bind_eq_bind, Option.bind_some, fraction?_of_ends ends,
    exponent?_of_ends ends]
  rfl

theorem number_ofNat {negative : Bool} {n : Nat} {i : Int} (h : (n : Int) ≤ maxInt)
    (hi : (if negative then -(n : Int) else n) = i) (hsign : ¬ (negative = Bool.true ∧ n = 0))
    (hmin : minInt ≤ i) : number negative (Digits.ofNat n) none none = int i := by
  rw [number, takeUp_ofNat h]
  dsimp only
  rw [hi, if_neg (not_or.mpr ⟨hsign, Int.not_lt.mpr hmin⟩)]

theorem next?_digit {c : Char} (h : c.isDigit = Bool.true) (cs : List Char) :
    next? (c :: cs) = unsigned? Bool.false (c :: cs) := by
  rw [next?.eq_def]
  split <;> simp_all

theorem next?_intText {n : Int} (h : InRange n) {cs : List Char} (ends : Ends cs) :
    next? (intText n ++ cs) = some (int n, cs) := by
  obtain ⟨hmin, hmax⟩ := h
  have hrange : minInt = -0x8000000000000000 ∧ maxInt = 0xffffffffffffffff := ⟨rfl, rfl⟩
  have hle : (n.natAbs : Int) ≤ maxInt := by omega
  rw [intText]
  split
  · next hneg =>
    have hsign : -(n.natAbs : Int) = n := by omega
    show unsigned? Bool.true (Digits.ofNat n.natAbs ++ cs) = _
    rw [unsigned?_ofNat ends, number_ofNat hle ((if_pos rfl).trans hsign) (by omega) hmin]
  · next hpos =>
    have hsign : (n.natAbs : Int) = n := by omega
    obtain ⟨d, ds, hds⟩ := List.exists_cons_of_ne_nil (Digits.ofNat_ne_nil n.natAbs)
    have hd : d.isDigit = Bool.true :=
      Digits.isDigit_of_mem_ofNat (n := n.natAbs) (hds ▸ List.mem_cons_self)
    have hnext : next? (Digits.ofNat n.natAbs ++ cs) =
        unsigned? Bool.false (Digits.ofNat n.natAbs ++ cs) := by
      rw [hds]
      exact next?_digit hd (ds ++ cs)
    rw [hnext, unsigned?_ofNat ends, number_ofNat hle ((if_neg Bool.false_ne_true).trans hsign)
      (fun h => Bool.false_ne_true h.1) hmin]

/-! ## strings -/

theorem hex4?_control {n : Nat} (h : n < 0x20) :
    hex4? '0' '0' (Digits.hexChar (n / 16)) (Digits.hexChar (n % 16)) = some n := by
  have hall : ∀ n < 0x20,
      hex4? '0' '0' (Digits.hexChar (n / 16)) (Digits.hexChar (n % 16)) = some n := by
    decide
  exact hall n h

theorem stringTail?_escape (c : Char) (units : List Nat) (cs : List Char) :
    stringTail? units (escape c ++ cs) = stringTail? (c.toNat :: units) cs := by
  have plain (hquote : c ≠ '"') (hbackslash : c ≠ '\\') (hcontrol : ¬ c.toNat < 0x20) :
      stringTail? units (c :: cs) = stringTail? (c.toNat :: units) cs := by
    rw [stringTail?, if_neg (not_or.mpr ⟨hcontrol, hbackslash⟩)]
    · exact hquote
    · exact fun _ _ _ _ _ h _ => hbackslash h
    · exact fun _ _ h _ => hbackslash h
  have letter {l : Char} (hl : l ≠ 'u') (h : escaped? l = some c) :
      stringTail? units ('\\' :: l :: cs) = stringTail? (c.toNat :: units) cs := by
    rw [stringTail?, h]
    exact fun _ _ _ _ _ h _ => hl h
  unfold escape
  split
  · next h => exact letter (by decide) (by rw [h]; rfl)
  · next hquote =>
    split
    · next h => exact letter (by decide) (by rw [h]; rfl)
    · next hbackslash =>
      -- the five control characters that have a letter of their own
      iterate 5 (split; next h => exact letter (by decide) (by rw [h]; rfl))
      split
      · next hcontrol =>
        show stringTail? units ('\\' :: 'u' :: '0' :: '0' :: _ :: _ :: cs) = _
        rw [stringTail?, hex4?_control hcontrol]
      · next hcontrol => exact plain hquote hbackslash hcontrol

theorem stringTail?_flatMap (units : List Nat) (cs rest : List Char) :
    stringTail? units (cs.flatMap escape ++ '"' :: rest) =
      some ((join? [] ((cs.map Char.toNat).reverse ++ units)).map String.ofList, rest) := by
  induction cs generalizing units with
  | nil => rfl
  | cons c cs ih =>
    rw [List.flatMap_cons, List.append_assoc, stringTail?_escape, ih, List.map_cons,
      List.reverse_cons, List.append_assoc]
    rfl

/-- no character is half a surrogate pair -/
theorem join?_cons_toNat (text : List Char) (c : Char) (units : List Nat) :
    join? text (c.toNat :: units) = join? (c :: text) units := by
  have hvalid : c.toNat < 0xD800 ∨ 0xDFFF < c.toNat ∧ c.toNat < 0x110000 := c.valid
  have hlow : isLow c.toNat = Bool.false := by
    simp only [isLow, Bool.and_eq_false_iff, decide_eq_false_iff_not]
    omega
  have hhigh : isHigh c.toNat = Bool.false := by
    simp only [isHigh, Bool.and_eq_false_iff, decide_eq_false_iff_not]
    omega
  rw [join?.eq_def]
  dsimp only
  rw [if_neg (by rw [hlow]; exact Bool.false_ne_true),
    if_neg (by rw [hhigh]; exact Bool.false_ne_true), Char.ofNat_toNat]

theorem join?_map_toNat (cs text : List Char) :
    join? text (cs.map Char.toNat) = some (cs.reverse ++ text) := by
  induction cs generalizing text with
  | nil => rfl
  | cons c cs ih =>
    rw [List.map_cons, join?_cons_toNat, ih, List.reverse_cons, List.append_assoc]
    rfl

theorem next?_quoted (s : String) (rest : List Char) :
    next? (quoted s.toList ++ rest) = some (str (some s), rest) := by
  have htail := stringTail?_flatMap [] s.toList rest
  rw [List.append_nil, ← List.map_reverse, join?_map_toNat, List.reverse_reverse, List.append_nil,
    Option.map_some, String.ofList_toList] at htail
  rw [quoted, List.append_assoc]
  show (stringTail? [] (s.toList.flatMap escape ++ '"' :: rest)).map _ = _
  rw [htail]
  rfl

/-! ## texts -/

/-- a text that consists of tokens, with blanks between them -/
inductive Spells : List Char → List Token → Prop where
  | nil : Spells [] []
  | blank {c : Char} {cs : List Char} {ts : List Token} (space : isSpace c = Bool.true)
      (rest : Spells cs ts) : Spells (c :: cs) ts
  | token {c : Char} {cs rest : List Char} {t : Token} {ts : List Token}
      (black : isSpace c = Bool.false) (reads : next? (c :: cs) = some (t, rest))
      (shorter : rest.length ≤ cs.length) (spells : Spells rest ts) : Spells (c :: cs) (t :: ts)

theorem Spells.readFrom? {cs : List Char} {ts : List Token} (h : Spells cs ts) {fuel : Nat}
    (hfuel : cs.length ≤ fuel) (done : List Token) :
    readFrom? done fuel cs = some (done.reverse ++ ts) := by
  induction h generalizing fuel done with
  | nil => cases fuel <;> simp [Token.readFrom?]
  | @blank c cs ts space rest ih =>
    obtain ⟨n, rfl⟩ : ∃ n, fuel = n + 1 := ⟨fuel - 1, by rw [List.length_cons] at hfuel; omega⟩
    have hdrop : (c :: cs).dropWhile isSpace = cs.dropWhile isSpace := by
      rw [List.dropWhile_cons, space]
      rfl
    rw [Token.readFrom?, hdrop, ← ih (Nat.le_of_succ_le hfuel) done, Token.readFrom?]
  | @token c cs rest t ts black reads shorter spells ih =>
    obtain ⟨n, rfl⟩ : ∃ n, fuel = n + 1 := ⟨fuel - 1, by rw [List.length_cons] at hfuel; omega⟩
    have hdrop : (c :: cs).dropWhile isSpace = c :: cs := by
      rw [List.dropWhile_cons, black]
      rfl
    have hrest : rest.length ≤ n := Nat.le_trans shorter (Nat.le_of_succ_le_succ hfuel)
    rw [Token.readFrom?, hdrop]
    simp only [reads]
    rw [ih hrest, List.reverse_cons, List.append_assoc]
    rfl

theorem Spells.readAll? {cs : List Char} {ts : List Token} (h : Spells cs ts) :
    readAll? cs = some ts := h.readFrom? (Nat.le_refl _) []

end Json.Token

end Blocklist
