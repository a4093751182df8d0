import Blocklist.Json.Binary64
import Blocklist.Json.Digits

/-!
# JSON tokens

The grammar of JSON texts has two levels: tokens, with blanks between them, and values made of
tokens.

* `Token`                  the marks, the words, numbers and strings;
* `Token.next?`            the first token of a text and the rest;
* `Token.readAll?`         the tokens of a text;
* `Token.text`             a token as it is written.

A number with neither point nor exponent is an integer if it is in the range of 64-bit words; the
number `-0` is none. Of any other number the first digits count, as many as fit a 64-bit word. A
string whose escapes hold half a surrogate pair is a token without a text.
-/

namespace Blocklist.Json

inductive Token where
  | openBracket | closeBracket | openBrace | closeBrace | comma | colon
  | null | true | false
  | int (n : Int)
  | decimal (d : Decimal)
  | str (s : Option String)
  deriving DecidableEq, Repr

namespace Token

def isSpace (c : Char) : Bool := c = ' ' || c = '\t' || c = '\n' || c = '\r'

/-! ## numbers -/

def minInt : Int := -0x8000000000000000
def maxInt : Int := 0xffffffffffffffff

/-- The number that `n` grows to with further digits while it fits a 64-bit word, and the digits
from the first one that does not fit. -/
def takeUp (n : Nat) : List Char → Nat × List Char
  | [] => (n, [])
  | c :: cs =>
    let n' := 10 * n + Digits.value c
    if maxInt < n' then (n, c :: cs) else takeUp n' cs

/-- The token of a number: its sign, the digits before and after its point, its exponent. Digits for
which a 64-bit word has no room count as zeros, except that those after the point may still follow
the ones taken before it. -/
def number (negative : Bool) (whole : List Char) (fraction : Option (List Char))
    (exponent : Option Int) : Token :=
  let (n, excess) := takeUp 0 whole
  match fraction, exponent, excess with
  | none, none, [] =>
    let i : Int := if negative then -n else n
    if (negative ∧ n = 0) ∨ i < minInt then decimal ⟨negative, n, 0⟩ else int i
  | _, _, _ =>
    let fraction := fraction.getD []
    let (digits, left) := takeUp n fraction
    let places : Int := (fraction.length - left.length : Nat)
    decimal ⟨negative, digits, exponent.getD 0 + excess.length - places⟩

/-- the digits at the start of a text, at least one -/
def digits? (cs : List Char) : Option (List Char × List Char) :=
  match cs.takeWhile Char.isDigit with
  | [] => none
  | d :: ds => some (d :: ds, cs.dropWhile Char.isDigit)

/-- the digits before the point: no zero stands in front of another digit -/
def whole? (cs : List Char) : Option (List Char × List Char) :=
  match digits? cs with
  | some ('0' :: _ :: _, _) => none
  | r => r

def fraction? : List Char → Option (Option (List Char) × List Char)
  | '.' :: cs => (digits? cs).map fun r => (some r.1, r.2)
  | cs => some (none, cs)

def exponentDigits? (negative : Bool) (cs : List Char) : Option (Option Int × List Char) :=
  (digits? cs).map fun r =>
    (some (if negative then -(Digits.toNat r.1 : Int) else Digits.toNat r.1), r.2)

def exponent? : List Char → Option (Option Int × List Char)
  | c :: cs =>
    if c = 'e' ∨ c = 'E' then
      match cs with
      | '+' :: cs => exponentDigits? Bool.false cs
      | '-' :: cs => exponentDigits? Bool.true cs
      | cs => exponentDigits? Bool.false cs
    else some (none, c :: cs)
  | [] => some (none, [])

def unsigned? (negative : Bool) (cs : List Char) : Option (Token × List Char) := do
  let (whole, cs) ← whole? cs
  let (fraction, cs) ← fraction? cs
  let (exponent, cs) ← exponent? cs
  return (number negative whole fraction exponent, cs)

/-! ## strings -/

def hex4? (a b c d : Char) : Option Nat := do
  let high := (← Digits.hexValue? a) * 16 + (← Digits.hexValue? b)
  let low := (← Digits.hexValue? c) * 16 + (← Digits.hexValue? d)
  return high * 256 + low

def isHigh (u : Nat) : Bool := 0xD800 ≤ u && u < 0xDC00
def isLow (u : Nat) : Bool := 0xDC00 ≤ u && u < 0xE000

/-- the character a single letter after a backslash stands for -/
def escaped? : Char → Option Char
  | '"' => some '"'
  | '\\' => some '\\'
  | '/' => some '/'
  | 'b' => some '\x08'
  | 'f' => some '\x0c'
  | 'n' => some '\n'
  | 'r' => some '\r'
  | 't' => some '\t'
  | _ => none

/-- The text of code units given last one first: two halves of a surrogate pair make one character,
and no half stands alone. -/
def join? (text : List Char) : List Nat → Option (List Char)
  | [] => some text
  | u :: units =>
    if isLow u then
      match units with
      | h :: units =>
        if isHigh h then
          join? (Char.ofNat (0x10000 + (h - 0xD800) * 0x400 + (u - 0xDC00)) :: text) units
        else none
      | [] => none
    else if isHigh u then none
    else join? (Char.ofNat u :: text) units

/-- the rest of a string after its opening quote; `units` are the code units so far, the last one
first -/
def stringTail? (units : List Nat) : List Char → Option (Option String × List Char)
  | [] => none
  | '"' :: cs => some ((join? [] units).map String.ofList, cs)
  | '\\' :: 'u' :: a :: b :: c :: d :: cs =>
    match hex4? a b c d with
    | some u => stringTail? (u :: units) cs
    | none => none
  | '\\' :: c :: cs =>
    match escaped? c with
    | some c => stringTail? (c.toNat :: units) cs
    | none => none
  | c :: cs => if c.toNat < 0x20 ∨ c = '\\' then none else stringTail? (c.toNat :: units) cs

/-! ## tokens -/

/-- the token at the start of a text that begins with no blank -/
def next? : List Char → Option (Token × List Char)
  | '[' :: cs => some (openBracket, cs)
  | ']' :: cs => some (closeBracket, cs)
  | '{' :: cs => some (openBrace, cs)
  | '}' :: cs => some (closeBrace, cs)
  | ',' :: cs => some (comma, cs)
  | ':' :: cs => some (colon, cs)
  | 'n' :: 'u' :: 'l' :: 'l' :: cs => some (null, cs)
  | 't' :: 'r' :: 'u' :: 'e' :: cs => some (true, cs)
  | 'f' :: 'a' :: 'l' :: 's' :: 'e' :: cs => some (false, cs)
  | '"' :: cs => (stringTail? [] cs).map fun r => (str r.1, r.2)
  | '-' :: cs => unsigned? Bool.true cs
  | cs => unsigned? Bool.false cs

/-- the tokens of a text, after those already read (the last one first) -/
def readFrom? (tokens : List Token) : Nat → List Char → Option (List Token)
  | 0, cs => if cs.all isSpace then some tokens.reverse else none
  | fuel + 1, cs =>
    match cs.dropWhile isSpace with
    | [] => some tokens.reverse
    | c :: cs =>
      match next? (c :: cs) with
      | none => none
      | some (token, rest) => readFrom? (token :: tokens) fuel rest

def readAll? (cs : List Char) : Option (List Token) := readFrom? [] cs.length cs

/-! ## writing -/

/-- A quote, a backslash and the control characters are written with a backslash. -/
def escape (c : Char) : List Char :=
  if c = '"' then ['\\', '"']
  else if c = '\\' then ['\\', '\\']
  else if c = '\x08' then ['\\', 'b']
  else if c = '\x0c' then ['\\', 'f']
  else if c = '\n' then ['\\', 'n']
  else if c = '\r' then ['\\', 'r']
  else if c = '\t' then ['\\', 't']
  else if c.toNat < 0x20 then
    ['\\', 'u', '0', '0', Digits.hexChar (c.toNat / 16), Digits.hexChar (c.toNat % 16)]
  else [c]

def quoted (cs : List Char) : List Char := '"' :: cs.flatMap escape ++ ['"']

def intText (n : Int) : List Char :=
  if n < 0 then '-' :: Digits.ofNat n.natAbs else Digits.ofNat n.natAbs

def zeros (n : Nat) : List Char := List.replicate n '0'

/-- the exponent of a decimal number, always with its sign -/
def exponentText (e : Int) : List Char := 'e' :: (if e < 0 then [] else ['+']) ++ intText e

/-- The decimal number written with its digits `ds` and its point after the first `point` of them:
plainly if the point is not far from the digits, and else with an exponent. -/
def decimalBody (ds : List Char) (point : Int) : List Char :=
  let n : Int := ds.length
  if n ≤ point ∧ point ≤ 16 then ds ++ zeros (point - n).toNat ++ ['.', '0']
  else if 0 < point ∧ point ≤ 16 then ds.take point.toNat ++ '.' :: ds.drop point.toNat
  else if -5 < point ∧ point ≤ 0 then '0' :: '.' :: zeros (-point).toNat ++ ds
  else
    let fraction := if ds.length = 1 then [] else '.' :: ds.drop 1
    ds.take 1 ++ fraction ++ exponentText (point - 1)

def decimalText (d : Decimal) : List Char :=
  let body :=
    if d.digits = 0 then ['0', '.', '0']
    else
      let ds := Digits.ofNat d.digits
      decimalBody ds (ds.length + d.exponent)
  if d.negative then '-' :: body else body

def text : Token → List Char
  | openBracket => ['[']
  | closeBracket => [']']
  | openBrace => ['\x7b']
  | closeBrace => ['\x7d']
  | comma => [',']
  | colon => [':']
  | null => "null".toList
  | true => "true".toList
  | false => "false".toList
  | int n => intText n
  | decimal d => decimalText d
  | str s => quoted (s.getD "").toList

end Token

end Blocklist.Json
