import Blocklist.Json.Printer
import Blocklist.Json.Reader
import Blocklist.Proofs.JsonTokens

/-!
# Values are read as they are written

The text of a value, over several lines or on one, is read as that value, if it has no decimal
numbers and its integers have 64 bits.

* `Json.Exact`         the values this holds of;
* `Json.tokens`        the tokens of a value;
* `Json.Exact.reads`   they are read as the value;
* `Json.Exact.spells`, `Json.Exact.spells_compact`   the texts of the value consist of them;
* `Json.parse?_prettyAt`, `Json.ofBytes?_pretty`, `Json.ofString?_compact`   both together, for
                       texts and for bytes.
-/

namespace Blocklist.Json

/-- without decimal numbers, with integers of 64 bits -/
inductive Exact : Json → Prop where
  | null : Exact .null
  | bool (b : Bool) : Exact (.bool b)
  | int {n : Int} (h : Token.InRange n) : Exact (.int n)
  | str (s : String) : Exact (.str s)
  | arr {vs : List Json} (h : ∀ v ∈ vs, Exact v) : Exact (.arr vs)
  | obj {fs : List (String × Json)} (h : ∀ f ∈ fs, Exact f.2) : Exact (.obj fs)

/-! ## tokens of values -/

mutual

def tokens : Json → List Token
  | null => [.null]
  | bool true => [.true]
  | bool false => [.false]
  | int n => [.int n]
  | decimal d => [.decimal d]
  | str s => [.str (some s)]
  | unreadable => [.str none]
  | arr [] => [.openBracket, .closeBracket]
  | arr (v :: vs) => .openBracket :: (tokens v ++ itemTokens vs)
  | obj [] => [.openBrace, .closeBrace]
  | obj ((name, v) :: fs) =>
    .openBrace :: .str (some name) :: .colon :: (tokens v ++ fieldTokens fs)

/-- the tokens of an array from the end of an item on -/
def itemTokens : List Json → List Token
  | [] => [.closeBracket]
  | v :: vs => .comma :: (tokens v ++ itemTokens vs)

/-- the tokens of an object from the end of a field on -/
def fieldTokens : List (String × Json) → List Token
  | [] => [.closeBrace]
  | (name, v) :: fs => .comma :: .str (some name) :: .colon :: (tokens v ++ fieldTokens fs)

end

/-- a value does not begin where an array ends -/
theorem tokens_append_ne (j : Json) (rest ts : List Token) :
    tokens j ++ rest ≠ .closeBracket :: ts := by
  intro h
  rw [tokens.eq_def] at h
  split at h <;> cases h

/-! ## reading the tokens -/

/-- the tokens of the value are read as the value, with enough fuel -/
def Reads (j : Json) : Prop :=
  ∀ (n : Nat) (ts : List Token), (tokens j).length ≤ n →
    readValue? n (tokens j ++ ts) = some (j, ts)

theorem readItems?_itemTokens {v : Json} {vs : List Json} (hv : Reads v) (h : ∀ v ∈ vs, Reads v)
    {n : Nat} (hn : (tokens v).length + (itemTokens vs).length ≤ n) (done : List Json)
    (ts : List Token) :
    readItems? n done (tokens v ++ itemTokens vs ++ ts) =
      some (arr (done.reverse ++ v :: vs), ts) := by
  induction vs generalizing v n done with
  | nil =>
    rw [itemTokens, List.length_singleton] at hn
    obtain ⟨m, rfl⟩ : ∃ m, n = m + 1 := ⟨n - 1, by omega⟩
    rw [itemTokens, List.append_assoc, readItems?, hv m _ (by omega)]
    show some (arr (v :: done).reverse, ts) = _
    rw [List.reverse_cons]
  | cons v' vs ih =>
    rw [itemTokens, List.length_cons, List.length_append] at hn
    obtain ⟨m, rfl⟩ : ∃ m, n = m + 1 := ⟨n - 1, by omega⟩
    obtain ⟨hv', hvs⟩ := List.forall_mem_cons.mp h
    rw [itemTokens, List.append_assoc, readItems?, hv m _ (by omega)]
    show readItems? m (v :: done) (tokens v' ++ itemTokens vs ++ ts) = _
    rw [ih hv' hvs (by omega), List.reverse_cons, List.append_assoc]
    rfl

theorem ofFields_some (fs : List (String × Json)) :
    ofFields (fs.map fun f => (some f.1, f.2)) = obj fs := by
  have hread : (fs.map fun f => (some f.1, f.2)).mapM
      (fun f : Option String × Json => f.1.map fun name => (name, f.2)) = some fs := by
    induction fs with
    | nil => rfl
    | cons f fs ih => simp [ih]
  rw [ofFields, hread]

theorem readFields?_fieldTokens {name : String} {v : Json} {fs : List (String × Json)}
    (hv : Reads v) (h : ∀ f ∈ fs, Reads f.2) {n : Nat}
    (hn : (tokens v).length + (fieldTokens fs).length ≤ n) (done : List (String × Json))
    (ts : List Token) :
    readFields? n (done.map fun f => (some f.1, f.2))
        (.str (some name) :: .colon :: (tokens v ++ fieldTokens fs ++ ts)) =
      some (obj (done.reverse ++ (name, v) :: fs), ts) := by
  induction fs generalizing name v n done with
  | nil =>
    rw [fieldTokens, List.length_singleton] at hn
    obtain ⟨m, rfl⟩ : ∃ m, n = m + 1 := ⟨n - 1, by omega⟩
    rw [fieldTokens, List.append_assoc, readFields?, hv m _ (by omega)]
    show some (ofFields (((name, v) :: done).map fun f => (some f.1, f.2)).reverse, ts) = _
    rw [← List.map_reverse, ofFields_some, List.reverse_cons]
  | cons f fs ih =>
    rw [fieldTokens, List.length_cons, List.length_cons, List.length_cons, List.length_append] at hn
    obtain ⟨m, rfl⟩ : ∃ m, n = m + 1 := ⟨n - 1, by omega⟩
    obtain ⟨hf, hfs⟩ := List.forall_mem_cons.mp h
    rw [fieldTokens, List.append_assoc, readFields?, hv m _ (by omega)]
    show readFields? m (((name, v) :: done).map fun f => (some f.1, f.2))
      (.str (some f.1) :: .colon :: (tokens f.2 ++ fieldTokens fs ++ ts)) = _
    rw [ih hf hfs (by omega), List.reverse_cons, List.append_assoc]
    rfl

/-- one step of the reader takes the first token -/
theorem reads_of_step {j : Json} {t : Token} {u : List Token} (htokens : tokens j = t :: u)
    (hread : ∀ n ts, u.length ≤ n → readValue? (n + 1) (t :: (u ++ ts)) = some (j, ts)) :
    Reads j := by
  intro n ts hn
  rw [htokens, List.length_cons] at hn
  obtain ⟨m, rfl⟩ : ∃ m, n = m + 1 := ⟨n - 1, by omega⟩
  rw [htokens]
  exact hread m ts (Nat.le_of_succ_le_succ hn)

theorem Exact.reads {j : Json} (h : Exact j) : Reads j := by
  induction h with
  | null => exact reads_of_step (u := []) (by rw [tokens]) fun _ _ _ => rfl
  | bool b =>
    cases b with
    | true => exact reads_of_step (u := []) (by rw [tokens]) fun _ _ _ => rfl
    | false => exact reads_of_step (u := []) (by rw [tokens]) fun _ _ _ => rfl
  | int h => exact reads_of_step (u := []) (by rw [tokens]) fun _ _ _ => rfl
  | str s => exact reads_of_step (u := []) (by rw [tokens]) fun _ _ _ => rfl
  | @arr vs h ih =>
    cases vs with
    | nil => exact reads_of_step (u := [.closeBracket]) (by rw [tokens]) fun _ _ _ => rfl
    | cons v vs =>
      obtain ⟨hv, hvs⟩ := List.forall_mem_cons.mp ih
      refine reads_of_step (u := tokens v ++ itemTokens vs) (by rw [tokens]) fun n ts hn => ?_
      rw [List.length_append] at hn
      rw [readValue?]
      · exact readItems?_itemTokens hv hvs hn [] ts
      · rw [List.append_assoc]
        exact tokens_append_ne v _
  | @obj fs h ih =>
    cases fs with
    | nil => exact reads_of_step (u := [.closeBrace]) (by rw [tokens]) fun _ _ _ => rfl
    | cons f fs =>
      obtain ⟨hf, hfs⟩ := List.forall_mem_cons.mp ih
      refine reads_of_step (u := .str (some f.1) :: .colon :: (tokens f.2 ++ fieldTokens fs))
        (by rw [tokens]) fun n ts hn => ?_
      rw [List.length_cons, List.length_cons, List.length_append] at hn
      exact readFields?_fieldTokens hf hfs (by omega) [] ts

theorem ofTokens?_tokens {j : Json} (h : Exact j) : ofTokens? (tokens j) = some j := by
  have hread := h.reads (2 * (tokens j).length) [] (by omega)
  rw [List.append_nil] at hread
  rw [ofTokens?, hread]

/-! ## the text of a value -/

open Token (Spells Ends)

theorem spells_newline {cs : List Char} {ts : List Token} (h : Spells cs ts) (n : Nat) :
    Spells (newline n ++ cs) ts := by
  refine .blank rfl ?_
  induction 2 * n with
  | zero => exact h
  | succ k ih => exact .blank rfl ih

theorem ends_newline (n : Nat) (cs : List Char) : Ends (newline n ++ cs) :=
  Token.ends_cons ⟨rfl, by decide, by decide, by decide⟩ _

theorem spells_quoted {cs : List Char} {ts : List Token} (h : Spells cs ts) (s : String) :
    Spells (Token.quoted s.toList ++ cs) (.str (some s) :: ts) :=
  .token rfl (Token.next?_quoted s cs) (by
    show cs.length ≤ (s.toList.flatMap Token.escape ++ ['"'] ++ cs).length
    rw [List.length_append]
    omega) h

theorem spells_word {c : Char} (word : List Char) {cs : List Char} {t : Token} {ts : List Token}
    (black : Token.isSpace c = false) (reads : Token.next? (c :: (word ++ cs)) = some (t, cs))
    (h : Spells cs ts) : Spells (c :: (word ++ cs)) (t :: ts) := by
  refine .token black reads ?_ h
  rw [List.length_append]
  omega

theorem spells_intText {n : Int} (hn : Token.InRange n) {cs : List Char} {ts : List Token}
    (ends : Ends cs) (h : Spells cs ts) : Spells (Token.intText n ++ cs) (.int n :: ts) := by
  have hnext := Token.next?_intText hn ends
  obtain ⟨c, word, hword, hblack⟩ : ∃ c word, Token.intText n = c :: word ∧
      Token.isSpace c = false := by
    rw [Token.intText]
    split
    · exact ⟨_, _, rfl, rfl⟩
    · obtain ⟨d, ds, hds⟩ := List.exists_cons_of_ne_nil (Digits.ofNat_ne_nil n.natAbs)
      have hd : d.isDigit = true :=
        Digits.isDigit_of_mem_ofNat (n := n.natAbs) (hds ▸ List.mem_cons_self)
      refine ⟨d, ds, hds, ?_⟩
      have hspace : ∀ c : Char, c.isDigit = false → d ≠ c := by
        rintro c hc rfl
        rw [hd] at hc
        cases hc
      simp only [Token.isSpace, hspace ' ' rfl, hspace '\t' rfl, hspace '\n' rfl, hspace '\r' rfl,
        decide_false, Bool.or_self]
  rw [hword] at hnext ⊢
  exact spells_word word hblack hnext h

theorem spells_field {cs : List Char} {ts : List Token} (h : Spells cs ts) (name : String) :
    Spells (Token.quoted name.toList ++ ':' :: ' ' :: cs) (.str (some name) :: .colon :: ts) := by
  have hcolon : Spells (':' :: ' ' :: cs) (.colon :: ts) :=
    .token rfl rfl (Nat.le_refl _) (.blank rfl h)
  exact spells_quoted hcolon name

/-- the text of the value consists of its tokens -/
def Spelled (j : Json) : Prop :=
  ∀ (depth : Nat) {cs : List Char} {ts : List Token}, Ends cs → Spells cs ts →
    Spells (prettyAt depth j ++ cs) (tokens j ++ ts)

section
variable {cs : List Char} {ts : List Token} (outer inner : Nat)

theorem ends_items (vs : List Json) :
    Ends (prettyItems inner vs ++ (newline outer ++ ']' :: cs)) := by
  cases vs with
  | nil =>
    rw [prettyItems]
    exact ends_newline outer _
  | cons v vs =>
    rw [prettyItems]
    exact Token.ends_cons ⟨rfl, by decide, by decide, by decide⟩ _

theorem spells_items {vs : List Json} (h : ∀ v ∈ vs, Spelled v) (hcs : Spells cs ts) :
    Spells (prettyItems inner vs ++ (newline outer ++ ']' :: cs)) (itemTokens vs ++ ts) := by
  induction vs with
  | nil =>
    rw [prettyItems, itemTokens]
    exact spells_newline (.token rfl rfl (Nat.le_refl _) hcs) outer
  | cons v vs ih =>
    obtain ⟨hv, hvs⟩ := List.forall_mem_cons.mp h
    have hrest := hv inner (ends_items outer inner vs) (ih hvs)
    rw [prettyItems, itemTokens]
    simp only [List.append_assoc, List.cons_append]
    exact .token rfl rfl (Nat.le_refl _) (spells_newline hrest inner)

theorem ends_fields (fs : List (String × Json)) :
    Ends (prettyFields inner fs ++ (newline outer ++ '\x7d' :: cs)) := by
  cases fs with
  | nil =>
    rw [prettyFields]
    exact ends_newline outer _
  | cons f fs =>
    rw [prettyFields]
    exact Token.ends_cons ⟨rfl, by decide, by decide, by decide⟩ _

theorem spells_fields {fs : List (String × Json)} (h : ∀ f ∈ fs, Spelled f.2)
    (hcs : Spells cs ts) :
    Spells (prettyFields inner fs ++ (newline outer ++ '\x7d' :: cs)) (fieldTokens fs ++ ts) := by
  induction fs with
  | nil =>
    rw [prettyFields, fieldTokens]
    exact spells_newline (.token rfl rfl (Nat.le_refl _) hcs) outer
  | cons f fs ih =>
    obtain ⟨hf, hfs⟩ := List.forall_mem_cons.mp h
    have hrest := hf inner (ends_fields outer inner fs) (ih hfs)
    have hfield := spells_field hrest f.1
    rw [prettyFields, fieldTokens]
    simp only [List.append_assoc, List.cons_append]
    exact .token rfl rfl (Nat.le_refl _) (spells_newline hfield inner)

end

theorem Exact.spells {j : Json} (h : Exact j) : Spelled j := by
  intro depth cs ts ends hcs
  induction h generalizing depth cs ts with
  | null =>
    rw [prettyAt, tokens]
    exact spells_word ['u', 'l', 'l'] rfl rfl hcs
  | bool b =>
    cases b with
    | true =>
      rw [prettyAt, tokens]
      exact spells_word ['r', 'u', 'e'] rfl rfl hcs
    | false =>
      rw [prettyAt, tokens]
      exact spells_word ['a', 'l', 's', 'e'] rfl rfl hcs
  | int h =>
    rw [prettyAt, tokens]
    exact spells_intText h ends hcs
  | str s =>
    rw [prettyAt, tokens]
    exact spells_quoted hcs s
  | @arr vs h ih =>
    cases vs with
    | nil =>
      rw [prettyAt, tokens]
      exact .token rfl rfl (Nat.le_refl _) (.token rfl rfl (Nat.le_refl _) hcs)
    | cons v vs =>
      obtain ⟨hv, hvs⟩ := List.forall_mem_cons.mp ih
      have hrest := hv (depth + 1) (ends_items depth (depth + 1) vs)
        (spells_items depth (depth + 1) (fun v hv depth _ _ => hvs v hv depth) hcs)
      rw [prettyAt, tokens]
      simp only [List.append_assoc, List.cons_append]
      exact .token rfl rfl (Nat.le_refl _) (spells_newline hrest (depth + 1))
  | @obj fs h ih =>
    cases fs with
    | nil =>
      rw [prettyAt, tokens]
      exact .token rfl rfl (Nat.le_refl _) (.token rfl rfl (Nat.le_refl _) hcs)
    | cons f fs =>
      obtain ⟨hf, hfs⟩ := List.forall_mem_cons.mp ih
      have hrest := hf (depth + 1) (ends_fields depth (depth + 1) fs)
        (spells_fields depth (depth + 1) (fun f hf depth _ _ => hfs f hf depth) hcs)
      rw [prettyAt, tokens]
      simp only [List.append_assoc, List.cons_append]
      exact .token rfl rfl (Nat.le_refl _) (spells_newline (spells_field hrest f.1) (depth + 1))

theorem parse?_of_spells {j : Json} (h : Exact j) {cs : List Char} (hcs : Spells cs (tokens j)) :
    parse? cs = some j := by
  rw [parse?, hcs.readAll?, Option.bind_some, ofTokens?_tokens h]

theorem parse?_prettyAt {j : Json} (h : Exact j) (depth : Nat) :
    parse? (prettyAt depth j) = some j := by
  have hspells := h.spells depth Token.ends_nil .nil
  rw [List.append_nil, List.append_nil] at hspells
  exact parse?_of_spells h hspells

theorem ofString?_pretty {j : Json} (h : Exact j) : ofString? j.pretty = some j := by
  rw [ofString?, pretty, String.toList_ofList, parse?_prettyAt h]

theorem fromUTF8?_toUTF8 (s : String) : String.fromUTF8? s.toUTF8 = some s :=
  dif_pos s.isValidUTF8

theorem ofBytes?_pretty {j : Json} (h : Exact j) : ofBytes? j.pretty.toUTF8 = some j := by
  rw [ofBytes?, fromUTF8?_toUTF8]
  exact ofString?_pretty h

/-! ## the text on one line -/

/-- the text of the value on one line consists of its tokens -/
def SpelledOnLine (j : Json) : Prop :=
  ∀ {cs : List Char} {ts : List Token}, Ends cs → Spells cs ts →
    Spells (compactText j ++ cs) (tokens j ++ ts)

section
variable {cs : List Char} {ts : List Token}

theorem ends_compactItems (vs : List Json) : Ends (compactItems vs ++ ']' :: cs) := by
  cases vs with
  | nil =>
    rw [compactItems]
    exact Token.ends_cons ⟨rfl, by decide, by decide, by decide⟩ _
  | cons v vs =>
    rw [compactItems]
    exact Token.ends_cons ⟨rfl, by decide, by decide, by decide⟩ _

theorem spells_compactItems {vs : List Json} (h : ∀ v ∈ vs, SpelledOnLine v) (hcs : Spells cs ts) :
    Spells (compactItems vs ++ ']' :: cs) (itemTokens vs ++ ts) := by
  induction vs with
  | nil =>
    rw [compactItems, itemTokens]
    exact .token rfl rfl (Nat.le_refl _) hcs
  | cons v vs ih =>
    obtain ⟨hv, hvs⟩ := List.forall_mem_cons.mp h
    have hrest := hv (ends_compactItems vs) (ih hvs)
    rw [compactItems, itemTokens]
    simp only [List.append_assoc, List.cons_append]
    exact .token rfl rfl (Nat.le_refl _) hrest

theorem spells_compactField (h : Spells cs ts) (name : String) :
    Spells (Token.quoted name.toList ++ ':' :: cs) (.str (some name) :: .colon :: ts) := by
  have hcolon : Spells (':' :: cs) (.colon :: ts) := .token rfl rfl (Nat.le_refl _) h
  exact spells_quoted hcolon name

theorem ends_compactFields (fs : List (String × Json)) :
    Ends (compactFields fs ++ '\x7d' :: cs) := by
  cases fs with
  | nil =>
    rw [compactFields]
    exact Token.ends_cons ⟨rfl, by decide, by decide, by decide⟩ _
  | cons f fs =>
    rw [compactFields]
    exact Token.ends_cons ⟨rfl, by decide, by decide, by decide⟩ _

theorem spells_compactFields {fs : List (String × Json)} (h : ∀ f ∈ fs, SpelledOnLine f.2)
    (hcs : Spells cs ts) : Spells (compactFields fs ++ '\x7d' :: cs) (fieldTokens fs ++ ts) := by
  induction fs with
  | nil =>
    rw [compactFields, fieldTokens]
    exact .token rfl rfl (Nat.le_refl _) hcs
  | cons f fs ih =>
    obtain ⟨hf, hfs⟩ := List.forall_mem_cons.mp h
    have hrest := hf (ends_compactFields fs) (ih hfs)
    rw [compactFields, fieldTokens]
    simp only [List.append_assoc, List.cons_append]
    exact .token rfl rfl (Nat.le_refl _) (spells_compactField hrest f.1)

end

theorem Exact.spells_compact {j : Json} (h : Exact j) : SpelledOnLine j := by
  intro cs ts ends hcs
  induction h generalizing cs ts with
  | null =>
    rw [compactText, tokens]
    exact spells_word ['u', 'l', 'l'] rfl rfl hcs
  | bool b =>
    cases b with
    | true =>
      rw [compactText, tokens]
      exact spells_word ['r', 'u', 'e'] rfl rfl hcs
    | false =>
      rw [compactText, tokens]
      exact spells_word ['a', 'l', 's', 'e'] rfl rfl hcs
  | int h =>
    rw [compactText, tokens]
    exact spells_intText h ends hcs
  | str s =>
    rw [compactText, tokens]
    exact spells_quoted hcs s
  | @arr vs h ih =>
    cases vs with
    | nil =>
      rw [compactText, tokens]
      exact .token rfl rfl (Nat.le_refl _) (.token rfl rfl (Nat.le_refl _) hcs)
    | cons v vs =>
      obtain ⟨hv, hvs⟩ := List.forall_mem_cons.mp ih
      have hrest := hv (ends_compactItems vs) (spells_compactItems (fun v hv _ _ => hvs v hv) hcs)
      rw [compactText, tokens]
      simp only [List.append_assoc, List.cons_append]
      exact .token rfl rfl (Nat.le_refl _) hrest
  | @obj fs h ih =>
    cases fs with
    | nil =>
      rw [compactText, tokens]
      exact .token rfl rfl (Nat.le_refl _) (.token rfl rfl (Nat.le_refl _) hcs)
    | cons f fs =>
      obtain ⟨hf, hfs⟩ := List.forall_mem_cons.mp ih
      have hrest := hf (ends_compactFields fs) (spells_compactFields (fun f hf _ _ => hfs f hf) hcs)
      rw [compactText, tokens]
      simp only [List.append_assoc, List.cons_append]
      exact .token rfl rfl (Nat.le_refl _) (spells_compactField hrest f.1)

theorem ofString?_compact {j : Json} (h : Exact j) : ofString? j.compact = some j := by
  have hspells := h.spells_compact Token.ends_nil .nil
  rw [List.append_nil, List.append_nil] at hspells
  rw [ofString?, compact, String.toList_ofList, parse?_of_spells h hspells]

end Blocklist.Json
