/-!
# White space

The characters of the Unicode property `White_Space`, as a table of ranges, and the operation that
takes them off both ends of a text.

* `isBlank c`        `c` is a white space character;
* `trimWhile p cs`   `cs` without the characters satisfying `p` at its two ends;
* `trim cs`          `cs` without the white space at its two ends;
* `trimmed s`        the same for a string.
-/

namespace Blocklist.Text

/-- first and last code point of each run of white space characters -/
def blankRanges : List (Nat × Nat) :=
  [(0x09, 0x0D), (0x20, 0x20), (0x85, 0x85), (0xA0, 0xA0), (0x1680, 0x1680), (0x2000, 0x200A),
   (0x2028, 0x2029), (0x202F, 0x202F), (0x205F, 0x205F), (0x3000, 0x3000)]

def isBlank (c : Char) : Bool :=
  blankRanges.any fun r => r.1 ≤ c.toNat && c.toNat ≤ r.2

/-! ## trimming -/

def trimWhile (p : Char → Bool) (cs : List Char) : List Char :=
  ((cs.dropWhile p).reverse.dropWhile p).reverse

def trim (cs : List Char) : List Char := trimWhile isBlank cs

def trimmed (s : String) : String := String.ofList (trim s.toList)

end Blocklist.Text
