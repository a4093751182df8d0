/-!
# Digits

* `Digits.ofNat`   the decimal digits of a number, without leading zeros;
* `Digits.toNat`   the number that decimal digits stand for;
* `Digits.hexChar`, `Digits.hexValue?`   one hexadecimal digit, written in lower case and read in
                                         both cases.
-/

namespace Blocklist.Digits

def value (c : Char) : Nat := c.toNat - '0'.toNat

def char (d : Nat) : Char := Char.ofNat ('0'.toNat + d)

theorem value_char {d : Nat} (h : d < 10) : value (char d) = d := by
  have : ∀ d < 10, value (char d) = d := by decide
  exact this d h

theorem isDigit_char {d : Nat} (h : d < 10) : (char d).isDigit = true := by
  have : ∀ d < 10, (char d).isDigit = true := by decide
  exact this d h

def ofNat (n : Nat) : List Char :=
  if n < 10 then [char n] else ofNat (n / 10) ++ [char (n % 10)]

def toNat (cs : List Char) : Nat := cs.foldl (fun n c => 10 * n + value c) 0

theorem toNat_concat (cs : List Char) (c : Char) : toNat (cs ++ [c]) = 10 * toNat cs + value c := by
  simp [toNat]

theorem ofNat_ne_nil (n : Nat) : ofNat n ≠ [] := by
  rw [ofNat]
  split <;> simp

theorem toNat_ofNat (n : Nat) : toNat (ofNat n) = n := by
  induction n using Nat.strongRecOn with
  | ind n ih =>
    rw [ofNat]
    split
    · next h => simp [toNat, value_char h]
    · next h =>
      rw [toNat_concat, ih (n / 10) (by omega), value_char (by omega)]
      omega

theorem isDigit_of_mem_ofNat {n : Nat} {c : Char} (h : c ∈ ofNat n) : c.isDigit = true := by
  induction n using Nat.strongRecOn with
  | ind n ih =>
    rw [ofNat] at h
    split at h
    · next hn =>
      rw [List.mem_singleton] at h
      rw [h]
      exact isDigit_char hn
    · next hn =>
      rcases List.mem_append.mp h with h | h
      · exact ih (n / 10) (by omega) h
      · rw [List.mem_singleton] at h
        rw [h]
        exact isDigit_char (by omega)

/-! ## hexadecimal -/

def hexChar (d : Nat) : Char := if d < 10 then char d else Char.ofNat ('a'.toNat + d - 10)

def hexValue? (c : Char) : Option Nat :=
  if '0' ≤ c ∧ c ≤ '9' then some (value c)
  else if 'a' ≤ c ∧ c ≤ 'f' then some (c.toNat - 'a'.toNat + 10)
  else if 'A' ≤ c ∧ c ≤ 'F' then some (c.toNat - 'A'.toNat + 10)
  else none

end Blocklist.Digits
