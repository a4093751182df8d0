import Blocklist.Text.Blank

/-!
# Cutting texts

Texts are handled as lists of characters; `String` appears only in what is read and answered.

* `splitOn sep cs`    the pieces of `cs` between the occurrences of `sep`, at least one;
* `lines cs`          the lines of `cs`: pieces ended by a line feed, and what follows the last one
                      unless it is empty;
* `after? w cs`       what follows `w` at the start of `cs`;
* `hasInfix w cs`     `w` occurs in `cs`;
* `lower cs`          `cs` with the letters `A` to `Z` in lower case.
-/

namespace Blocklist.Text

/-! ## pieces -/

/-- put a character in front of the first piece -/
def consHead (c : Char) : List (List Char) → List (List Char)
  | [] => [[c]]
  | l :: ls => (c :: l) :: ls

def splitOn (sep : Char) (cs : List Char) : List (List Char) :=
  cs.foldr (fun c ls => if c = sep then [] :: ls else consHead c ls) [[]]

theorem splitOn_nil (sep : Char) : splitOn sep [] = [[]] := rfl

theorem splitOn_cons_self (sep : Char) (cs : List Char) :
    splitOn sep (sep :: cs) = [] :: splitOn sep cs := by
  simp [splitOn]

theorem splitOn_cons_of_ne {sep c : Char} (h : c ≠ sep) (cs : List Char) :
    splitOn sep (c :: cs) = consHead c (splitOn sep cs) := by
  simp [splitOn, h]

theorem splitOn_ne_nil (sep : Char) (cs : List Char) : splitOn sep cs ≠ [] := by
  cases cs with
  | nil => exact List.cons_ne_nil _ _
  | cons c cs =>
    by_cases h : c = sep
    · rw [h, splitOn_cons_self]
      exact List.cons_ne_nil _ _
    · rw [splitOn_cons_of_ne h]
      cases splitOn sep cs <;> exact List.cons_ne_nil _ _

theorem consHead_append {ls : List (List Char)} (h : ls ≠ []) (c : Char)
    (ls' : List (List Char)) : consHead c (ls ++ ls') = consHead c ls ++ ls' := by
  cases ls with
  | nil => exact absurd rfl h
  | cons l ls => rfl

theorem splitOn_append (sep : Char) (a b : List Char) :
    splitOn sep (a ++ sep :: b) = splitOn sep a ++ splitOn sep b := by
  induction a with
  | nil => exact splitOn_cons_self sep b
  | cons c a ih =>
    rw [List.cons_append]
    by_cases h : c = sep
    · rw [h, splitOn_cons_self, splitOn_cons_self, ih]
      rfl
    · rw [splitOn_cons_of_ne h, splitOn_cons_of_ne h, ih, consHead_append (splitOn_ne_nil sep a)]

theorem splitOn_of_not_mem {sep : Char} {cs : List Char} (h : sep ∉ cs) :
    splitOn sep cs = [cs] := by
  induction cs with
  | nil => rfl
  | cons c cs ih =>
    rw [List.mem_cons, not_or] at h
    rw [splitOn_cons_of_ne (Ne.symm h.1), ih h.2]
    rfl

def lines (cs : List Char) : List (List Char) :=
  cs.foldr (fun c ls => if c = '\n' then [] :: ls else consHead c ls) []

theorem lines_nil : lines [] = [] := rfl

theorem lines_cons_newline (cs : List Char) : lines ('\n' :: cs) = [] :: lines cs := by
  simp [lines]

theorem lines_cons_of_ne {c : Char} (h : c ≠ '\n') (cs : List Char) :
    lines (c :: cs) = consHead c (lines cs) := by
  simp [lines, h]

/-! ## prefixes and occurrences -/

def after? : List Char → List Char → Option (List Char)
  | [], cs => some cs
  | w :: ws, c :: cs => if w = c then after? ws cs else none
  | _ :: _, [] => none

theorem after?_eq_some_iff {w cs rest : List Char} : after? w cs = some rest ↔ cs = w ++ rest := by
  induction w generalizing cs with
  | nil => simp [after?, eq_comm]
  | cons a w ih =>
    cases cs with
    | nil => simp [after?]
    | cons c cs =>
      by_cases h : a = c
      · simp [after?, h, ih]
      · simp [after?, h, Ne.symm h]

/-- the text without one `c` at its start, if it has one -/
def dropOne (c : Char) : List Char → List Char
  | [] => []
  | d :: cs => if d = c then cs else d :: cs

/-- the text without one `c` at its end, if it has one -/
def dropLastOne (c : Char) (cs : List Char) : List Char :=
  (dropOne c cs.reverse).reverse

def hasInfix (w : List Char) : List Char → Bool
  | [] => w.isEmpty
  | c :: cs => w.isPrefixOf (c :: cs) || hasInfix w cs

theorem hasInfix_iff {w cs : List Char} : hasInfix w cs = true ↔ ∃ a b, cs = a ++ w ++ b := by
  induction cs with
  | nil =>
    cases w <;> simp [hasInfix]
  | cons c cs ih =>
    rw [hasInfix, Bool.or_eq_true, ih, List.isPrefixOf_iff_prefix]
    constructor
    · rintro (⟨b, h⟩ | ⟨a, b, rfl⟩)
      · exact ⟨[], b, h.symm⟩
      · exact ⟨c :: a, b, rfl⟩
    · rintro ⟨a, b, h⟩
      cases a with
      | nil => exact .inl ⟨b, h.symm⟩
      | cons x a =>
        injection h with _ h
        exact .inr ⟨a, b, h⟩

/-! ## letters -/

def lower (cs : List Char) : List Char := cs.map Char.toLower

theorem lower_nil : lower [] = [] := rfl

/-- the characters of host names: ASCII letters and digits, the hyphen and the underscore -/
def isHostChar (c : Char) : Bool := c.isAlphanum || c == '-' || c == '_'

end Blocklist.Text
