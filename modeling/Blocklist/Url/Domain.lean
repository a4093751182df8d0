import Blocklist.Unicode.Direction
import Blocklist.Unicode.Normal
import Blocklist.Url.Domain.Mapping
import Blocklist.Url.Percent
import Blocklist.Url.Punycode

/-!
# Domains

The labels of a domain are between dots. A label that is not ASCII is written `xn--` and its code.

* `Domain.mapped? cs`   what the characters of a domain stand for;
* `Domain.joinsNext c`, `Domain.joinsPrevious c`   letters that are written together with another;
* `Domain.isLabel`      a label that can be written;
* `Domain.isDirected`   a label that can be read where some text goes from right to left;
* `Domain.ofText? cs`   the domain in ASCII.
-/

namespace Blocklist.Domain

open Unicode

/-! ## characters -/

def mapChar? (c : Char) : Option (List Char) :=
  if Punycode.isAscii c then some [c.toLower]
  else if ignored.has c then some []
  else if disallowed.has c then none
  else some ((changed.image? c).getD [c])

def mapped? (cs : List Char) : Option (List Char) :=
  (cs.mapM mapChar?).map fun css => normal css.flatten

/-- the ASCII characters of no domain -/
def isForbidden (c : Char) : Bool :=
  c.toNat ≤ 0x20 || c.toNat = 0x7F ||
    c ∈ ['#', '%', '/', ':', '<', '>', '?', '@', '[', '\\', ']', '^', '|']

/-! ## joining letters

In some scripts a letter is written together with the one before it, the one after it or both. Runs
go on through characters that no domain can hold. -/

def dualJoining : Table := Table.ofText "
  620 626 628 62a-62e 633-63f 641-647 649-64a 66e-66f 679-687 69a-6bf 6c1-6c2 6cc 6ce 6d0-6d1
  6fa-6fc 6ff 712-714 71a-71d 71f-727 729 72b 72d-72e 74e-758 75c-76a 76d-770 772 775-777 77a-77f
  7ca-7ea 841-845 848 84a-853 855 860 862-865 868 886 889-88d 88f 8a0-8a9 8af-8b0 8b3-8b8 8ba-8c8
  1807 1820-1878 1887-18a8 18aa a840-a871 10ac0-10ac4 10ad3-10ad6 10ad8-10adc 10ade-10ae0
  10aeb-10aee 10b80 10b82 10b86-10b88 10b8a-10b8b 10b8d 10b90 10bad-10bae 10d01-10d21 10d23
  10ec3-10ec4 10ec6-10ec7 10f30-10f32 10f34-10f44 10f51-10f53 10f70-10f73 10f76-10f81 10fb0
  10fb2-10fb3 10fb8 10fbb-10fbc 10fbe-10fbf 10fc1 10fc4 10fca 1e922-1e943"

def joiningNext : Table := Table.ofText "
  a872 10acd 10ad7 10d00 10fcb"

def joiningPrevious : Table := Table.ofText "
  622-625 627 629 62f-632 648 671-673 688-699 6c0 6c3-6cb 6cd 6cf 6d2-6d3 6d5 6ee-6ef 710 715-719
  71e 728 72a 72c 72f 74d 759-75b 76b-76c 771 773-774 778-779 840 846-847 849 854 856-858 867
  869-882 88e 8aa-8ac 8ae 8b1-8b2 8b9 10ac5 10ac7 10ac9-10aca 10ace-10ad2 10add 10ae1 10ae4 10aef
  10b81 10b83-10b85 10b89 10b8c 10b8e-10b8f 10b91 10ba9-10bac 10d22 10ec2 10f33 10f54 10f74-10f75
  10fb4-10fb6 10fb9-10fba 10fbd 10fc2-10fc3 10fc9"

def joinsNext (c : Char) : Bool := dualJoining.has c || joiningNext.has c

def joinsPrevious (c : Char) : Bool := dualJoining.has c || joiningPrevious.has c

/-- Letters are joined across these. The nasal mark of Adlam counts as a letter, but not here. -/
def isTransparent (c : Char) : Bool := isNonspacing c || c = Char.ofNat 0x1E94B

/-! ## labels -/

/-- the label that a text is the code of -/
def decoded? (label : List Char) : Option (List Char) :=
  match Text.after? "xn--".toList label with
  | none => some label
  | some code =>
    if 2000 < code.length ∨ code.getLast? ∈ [none, some '-'] then none
    else
      (Punycode.decode code).bind fun cs =>
        if mapped? cs = some cs ∧ '.' ∉ cs then some cs else none

/-- A joiner follows a mark that takes the vowel away; one that keeps letters apart may also stand
between two that would be joined. `before` is in reverse. -/
def joinersFit (before : List Char) : List Char → Bool
  | [] => true
  | c :: cs =>
    let afterVirama := before.head?.any isVirama
    let next (cs : List Char) : Option Char := (cs.dropWhile isTransparent).head?
    let fits :=
      if c = '\u200D' then afterVirama
      else if c = '\u200C' then
        afterVirama || ((next before).any joinsNext && (next cs).any joinsPrevious)
      else true
    fits && joinersFit (c :: before) cs

def isLabel (cs : List Char) : Bool :=
  ! cs.any isForbidden &&
    (cs.all Punycode.isAscii ||
      (! cs.head?.any isMark && joinersFit [] cs && decide (cs.length ≤ 1000)))

def labelText (cs : List Char) : List Char :=
  if cs.all Punycode.isAscii then cs else "xn--".toList ++ Punycode.encode cs

/-! ## directions -/

/-- the characters that make a domain one in which text goes from right to left -/
def goesLeft (c : Char) : Bool := Direction.of c ∈ [.rightToLeft, .arabicNumber]

/-- A label has one direction, that of its first character. The last one, marks apart, is of that
direction or a number, and numbers of two kinds are not together. -/
def isDirected (cs : List Char) : Bool :=
  let ds := cs.map Direction.of
  let last := (ds.reverse.dropWhile (· = .nonspacingMark)).head?
  match ds.head? with
  | none => true
  | some .leftToRight =>
    last ∈ [some .leftToRight, some .europeanNumber] &&
      ds.all (· ∈ [.leftToRight, .europeanNumber, .nonspacingMark, .neutral])
  | some .rightToLeft =>
    last ∈ [some .rightToLeft, some .europeanNumber, some .arabicNumber] &&
      ! .leftToRight ∈ ds && ! (.europeanNumber ∈ ds && .arabicNumber ∈ ds)
  | some _ => false

/-! ## domains -/

def ofText? (cs : List Char) : Option (List Char) := do
  let labels ← (Text.splitOn '.' (← mapped? cs)).mapM decoded?
  let isDirected := ! (labels.any (·.any goesLeft)) || labels.all isDirected
  if labels.all isLabel ∧ isDirected then some (['.'].intercalate (labels.map labelText)) else none

end Blocklist.Domain
