import Blocklist.Unicode.CombiningClass
import Blocklist.Unicode.Decomposition

/-!
# The normal form

Texts that differ only in how letters and marks are put together have one normal form: the
characters are taken apart, the marks on a letter ordered by their classes, and what can be composed
is.

* `Hangul.parts? c`, `Hangul.compose? a b`   the parts of a Hangul syllable, and the syllable of two
                  parts, or of one that is open and its last part;
* `decompose c`   the parts of a character;
* `ordered cs`    the marks in order;
* `composed cs`   the letters together with their marks;
* `normal cs`     the normal form.
-/

namespace Blocklist.Unicode

/-! ## Hangul

A syllable consists of a leading consonant, a vowel and perhaps a trailing consonant. The syllables
are numbered in that order, so they need no table. -/

namespace Hangul

def syllable : Nat := 0xAC00
def leading : Nat := 0x1100
def vowel : Nat := 0x1161
/-- the code point before the first trailing consonant -/
def trailing : Nat := 0x11A7

/-- the number of `c` among `count` code points from `first` on -/
def index? (first count : Nat) (c : Char) : Option Nat :=
  if first ≤ c.toNat ∧ c.toNat < first + count then some (c.toNat - first) else none

def parts? (c : Char) : Option (List Char) :=
  (index? syllable (19 * 21 * 28) c).map fun i =>
    let l := Char.ofNat (leading + i / (21 * 28))
    let v := Char.ofNat (vowel + i / 28 % 21)
    if i % 28 = 0 then [l, v] else [l, v, Char.ofNat (trailing + i % 28)]

def compose? (a b : Char) : Option Char :=
  match index? leading 19 a, index? vowel 21 b with
  | some l, some v => some (Char.ofNat (syllable + (l * 21 + v) * 28))
  | _, _ =>
    match index? syllable (19 * 21 * 28) a, index? trailing 28 b with
    | some i, some t =>
      if i % 28 = 0 ∧ 0 < t then some (Char.ofNat (syllable + i + t)) else none
    | _, _ => none

end Hangul

/-! ## parts and marks -/

def decompose (c : Char) : List Char :=
  ((Hangul.parts? c <|> composites.image? c) <|> others.image? c).getD [c]

/-- A mark goes behind those of lower classes, up to the next letter. -/
def insertMark (c : Char) : List Char → List Char
  | [] => [c]
  | d :: ds =>
    if combiningClass d ≠ 0 ∧ combiningClass d < combiningClass c then d :: insertMark c ds
    else c :: d :: ds

def ordered (cs : List Char) : List Char := cs.foldr insertMark []

/-- the character that consists of the parts of one and another part -/
def compose? (a b : Char) : Option Char :=
  Hangul.compose? a b <|> composites.preimage? (decompose a ++ [b])

/-- The letter `a` has marks that were not composed with it. A mark behind them that is of their
class, or a letter, cannot reach it. -/
def composeFrom (a : Char) (marks : List Char) : List Char → List Char
  | [] => a :: marks
  | c :: cs =>
    let reaches := marks.all fun m => combiningClass m < combiningClass c
    match if reaches then compose? a c else none with
    | some b => composeFrom b marks cs
    | none =>
      if combiningClass c = 0 then a :: marks ++ composeFrom c [] cs
      else composeFrom a (marks ++ [c]) cs

def composed : List Char → List Char
  | [] => []
  | c :: cs => composeFrom c [] cs

/-- There is nothing to compose below U+0300, where the marks begin. -/
def normal (cs : List Char) : List Char :=
  if cs.all (·.toNat < 0x300) then cs else composed (ordered (cs.flatMap decompose))

end Blocklist.Unicode
