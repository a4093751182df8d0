/-!
# Punycode

A text as ASCII: its ASCII characters, a hyphen if there are any, and then numbers that say where
the others are inserted, the lowest code points first. A pair of a code point and a place in the
text so far counts as one number, and what is written is how far it is from the pair before. The
digits of a number are `a` to `z` and `0` to `9`, the lowest digit first.

* `Punycode.encode cs`   the code of a text;
* `Punycode.decode cs`   the text of a code, if it is one.
-/

namespace Blocklist.Punycode

/-! ## digits -/

def digit (d : Nat) : Char :=
  if d < 26 then Char.ofNat ('a'.toNat + d) else Char.ofNat ('0'.toNat + (d - 26))

def digitValue? (c : Char) : Option Nat :=
  if c.isLower then some (c.toNat - 'a'.toNat)
  else if c.isUpper then some (c.toNat - 'A'.toNat)
  else if c.isDigit then some (c.toNat - '0'.toNat + 26)
  else none

/-- The lower digits have lower thresholds; a digit below its threshold ends the number. -/
def threshold (bias place : Nat) : Nat := min 26 (max 1 (36 * (place + 1) - bias))

theorem threshold_pos (bias place : Nat) : 1 ≤ threshold bias place := by
  unfold threshold
  omega

def settle (delta k : Nat) : Nat :=
  if 455 < delta then settle (delta / 35) (k + 36) else k + 36 * delta / (delta + 38)

/-- The next number is expected to be as large as the last one, which made `count` characters. -/
def adapt (delta count : Nat) (isFirst : Bool) : Nat :=
  let delta := if isFirst then delta / 700 else delta / 2
  settle (delta + delta / count) 0

/-! ## writing -/

/-- the digits of a number from a place on -/
def number (bias place n : Nat) : List Char :=
  let t := threshold bias place
  if n < t then [digit n]
  else digit (t + (n - t) % (36 - t)) :: number bias (place + 1) ((n - t) / (36 - t))
termination_by n
decreasing_by
  have := threshold_pos bias place
  exact Nat.lt_of_le_of_lt (Nat.div_le_self ..) (by omega)

structure Writer where
  digits : List Char := []
  /-- how far the next pair is from the last one -/
  delta : Nat := 0
  bias : Nat := 72
  /-- how many characters there are so far, and at the start -/
  count : Nat
  start : Nat

/-- pass a character of the text where the code point `n` is inserted -/
def Writer.pass (n : Nat) (w : Writer) (c : Char) : Writer :=
  if c.toNat < n then { w with delta := w.delta + 1 }
  else if c.toNat = n then
    { w with
      digits := w.digits ++ number w.bias 0 w.delta
      delta := 0
      bias := adapt w.delta (w.count + 1) (w.count = w.start)
      count := w.count + 1 }
  else w

/-- insert code points one after the other, all of them `next` or higher -/
def Writer.insert (cs : List Char) (w : Writer) (next : Nat) : List Nat → Writer
  | [] => w
  | n :: ns =>
    let w := cs.foldl (Writer.pass n) { w with delta := w.delta + (n - next) * (w.count + 1) }
    Writer.insert cs { w with delta := w.delta + 1 } (n + 1) ns

def isAscii (c : Char) : Bool := c.toNat < 128

def encode (cs : List Char) : List Char :=
  let ascii := cs.filter isAscii
  let codes := ((cs.filter (! isAscii ·)).map Char.toNat).eraseDups.mergeSort
  let w : Writer := { count := ascii.length, start := ascii.length }
  ascii ++ (if ascii = [] then [] else ['-']) ++ (w.insert cs 128 codes).digits

/-! ## reading -/

structure Reader where
  text : List Char
  /-- the pair of the last character that was inserted -/
  code : Nat := 128
  index : Nat := 0
  bias : Nat := 72
  /-- the number that is being read, and what its next digit counts -/
  delta : Nat := 0
  weight : Nat := 1
  place : Nat := 0

/-- Numbers have 32 bits, and a code point is that of a character. -/
def Reader.read (r : Reader) (c : Char) : Option Reader := do
  let d ← digitValue? c
  let t := threshold r.bias r.place
  let delta := r.delta + d * r.weight
  if t ≤ d then
    let weight := r.weight * (36 - t)
    if 0x100000000 ≤ weight then none else some { r with delta, weight, place := r.place + 1 }
  else
    let count := r.text.length + 1
    let code := r.code + (r.index + delta) / count
    let index := (r.index + delta) % count
    if 0x100000000 ≤ r.index + delta ∨ ¬ code.isValidChar then none
    else some {
      text := r.text.insertIdx index (Char.ofNat code)
      code, index := index + 1
      bias := adapt delta count (r.index = 0) }

/-- The hyphen is the last one, and some text is before it. -/
def decode (cs : List Char) : Option (List Char) := do
  let digits := (cs.reverse.takeWhile (· ≠ '-')).reverse
  let ascii := (cs.reverse.dropWhile (· ≠ '-')).reverse
  if ascii = ['-'] ∨ ! ascii.all isAscii then none
  else
    let r ← digits.foldlM Reader.read { text := ascii.dropLast }
    if r.place = 0 then some r.text else none

end Blocklist.Punycode
