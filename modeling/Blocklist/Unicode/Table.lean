import Blocklist.Json.Digits
import Blocklist.Text

/-!
# Tables of code points

A table is written as words, the numbers in them in hexadecimal digits. `a` is a code point, `a-b`
the run from one to another and `a-b/2` every second one of it. `a=x` or `a=x.y` says what `a`
stands for; in a run `a-b=x` the others stand for those after `x`, just as far away.

* `Table.ofText s`       the table written `s`;
* `Table.has t c`        `c` is in the table;
* `Table.image? t c`     what `c` stands for;
* `Table.preimage? t cs` the character that stands for several.
-/

namespace Blocklist.Unicode

structure Run where
  first : Nat
  last : Nat
  step : Nat
  image : List Nat
  deriving DecidableEq, Repr

namespace Run

def hex (cs : List Char) : Nat :=
  cs.foldl (fun n c => 16 * n + (Digits.hexValue? c).getD 0) 0

/-- what is before the first `sep`, and what is after it -/
def cut (sep : Char) (cs : List Char) : List Char × List Char :=
  (cs.takeWhile (· ≠ sep), (cs.dropWhile (· ≠ sep)).drop 1)

def ofWord (word : List Char) : Run :=
  let (key, image) := cut '=' word
  let (span, step) := cut '/' key
  let (first, last) := cut '-' span
  { first := hex first
    last := hex (if last = [] then first else last)
    step := if step = [] then 1 else hex step
    image := if image = [] then [] else (Text.splitOn '.' image).map hex }

def has (r : Run) (c : Char) : Bool :=
  r.first ≤ c.toNat && c.toNat ≤ r.last && (c.toNat - r.first) % r.step = 0

def imageOf (r : Run) (c : Char) : List Char :=
  match r.image with
  | [x] => [Char.ofNat (x + (c.toNat - r.first))]
  | xs => xs.map Char.ofNat

end Run

abbrev Table := List Run

namespace Table

def ofText (s : String) : Table :=
  let words := Text.splitOn ' ' (s.toList.map fun c => if c = '\n' then ' ' else c)
  (words.filter (· ≠ [])).map Run.ofWord

def has (t : Table) (c : Char) : Bool := t.any (·.has c)

def image? (t : Table) (c : Char) : Option (List Char) :=
  (t.find? (·.has c)).map (·.imageOf c)

def preimage? (t : Table) (cs : List Char) : Option Char :=
  (t.find? (·.image = cs.map Char.toNat)).map fun r => Char.ofNat r.first

end Table

end Blocklist.Unicode
