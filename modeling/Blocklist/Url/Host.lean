import Blocklist.Url.Domain

/-!
# Hosts

The host of an address: a name, or a number of the Internet protocol in version 4 or 6.

* `Host`                       the three kinds;
* `Host.v4?`, `Host.v6?`       the numbers;
* `Host.ofDomain`, `Host.ofOpaque`   the hosts of addresses whose scheme is special, and of others;
* `Host.text`                  a host as it is written.
-/

namespace Blocklist

inductive UrlError where
  | noScheme
  | emptyHost
  | invalidPort
  | invalidV4
  | invalidV6
  | invalidCharacter
  | invalidDomain
  deriving DecidableEq, Repr

def UrlError.message : UrlError → String
  | noScheme => "relative URL without a base"
  | emptyHost => "empty host"
  | invalidPort => "invalid port number"
  | invalidV4 => "invalid IPv4 address"
  | invalidV6 => "invalid IPv6 address"
  | invalidCharacter => "invalid domain character"
  | invalidDomain => "invalid international domain name"

inductive Host where
  | name (cs : List Char)
  | v4 (address : Nat)
  /-- eight pieces of 16 bits -/
  | v6 (pieces : List Nat)
  deriving DecidableEq, Repr

namespace Host

/-! ## version 4 -/

/-- the number that digits stand for, without a digit 0 where there is none -/
def numeral? (base : Nat) (cs : List Char) : Option Nat :=
  cs.foldlM (fun n c =>
    (Digits.hexValue? c).bind fun d => if d < base then some (base * n + d) else none) 0

/-- A part of an address is decimal, octal after `0` or hexadecimal after `0x`. -/
def part? : List Char → Option Nat
  | [] => none
  | '0' :: 'x' :: cs => numeral? 16 cs
  | '0' :: 'X' :: cs => numeral? 16 cs
  | '0' :: cs => numeral? 8 cs
  | cs => numeral? 10 cs

/-- the parts of a name between its dots; the last one may be empty -/
def parts (cs : List Char) : List (List Char) :=
  let parts := Text.splitOn '.' cs
  if 1 < parts.length ∧ parts.getLast? = some [] then parts.dropLast else parts

/-- a name whose last part is a number is meant as an address -/
def endsInNumber (cs : List Char) : Bool :=
  match (parts cs).getLast? with
  | some p => (p ≠ [] && p.all Char.isDigit) || (part? p).isSome
  | none => false

/-- The parts are bytes but the last one, which has all bits that are left. -/
def v4? (cs : List Char) : Option Nat := do
  let numbers ← (parts cs).mapM part?
  let last ← numbers.getLast?
  let bytes := numbers.dropLast
  if 3 < bytes.length ∨ bytes.any (255 < ·) ∨ Nat.pow 256 (4 - bytes.length) ≤ last then none
  else return (bytes ++ List.replicate (4 - bytes.length) 0).foldl (256 * · + ·) 0 + last

def v4Text (address : Nat) : List Char :=
  ['.'].intercalate <|
    [0x1000000, 0x10000, 0x100, 1].map fun unit => Digits.ofNat (address / unit % 256)

/-! ## version 6 -/

/-- a byte in decimal digits, without zeros in front -/
def byte? (cs : List Char) : Option Nat :=
  match cs with
  | [] => none
  | '0' :: _ :: _ => none
  | _ => (numeral? 10 cs).bind fun n => if n ≤ 255 then some n else none

def piece? (cs : List Char) : Option Nat :=
  if cs = [] ∨ 4 < cs.length then none else numeral? 16 cs

/-- the two pieces of four bytes -/
def dotted? (cs : List Char) : Option (List Nat) :=
  match (Text.splitOn '.' cs).mapM byte? with
  | some [a, b, c, d] => some [256 * a + b, 256 * c + d]
  | _ => none

/-- the pieces between colons; at the end of the address the last two may be four bytes -/
def pieces? (isEnd : Bool) (cs : List Char) : Option (List Nat) :=
  if cs = [] then some []
  else
    let groups := Text.splitOn ':' cs
    let last := groups.getLastD []
    if isEnd ∧ '.' ∈ last then do
      return (← groups.dropLast.mapM piece?) ++ (← dotted? last)
    else groups.mapM piece?

/-- the text before the first `::` and the text after it -/
def atGap? : List Char → Option (List Char × List Char)
  | ':' :: ':' :: cs => some ([], cs)
  | c :: cs => (atGap? cs).map fun r => (c :: r.1, r.2)
  | [] => none

/-- `::` stands for the zeros that are missing, one at least. -/
def v6? (cs : List Char) : Option (List Nat) :=
  match atGap? cs with
  | none => (pieces? true cs).bind fun ps => if ps.length = 8 then some ps else none
  | some (left, right) => do
    let left ← pieces? false left
    let right ← pieces? true right
    if left.length + right.length < 8 then
      return left ++ List.replicate (8 - left.length - right.length) 0 ++ right
    else none

def zerosAt (pieces : List Nat) (i : Nat) : Nat := ((pieces.drop i).takeWhile (· = 0)).length

/-- where the longest run of zeros starts, the first one of several -/
def longestZeros (pieces : List Nat) : Nat :=
  (List.range pieces.length).foldl
    (fun best i => if zerosAt pieces best < zerosAt pieces i then i else best) 0

def groupsText (pieces : List Nat) : List Char :=
  [':'].intercalate (pieces.map fun p => Nat.toDigits 16 p)

/-- The longest run of zeros, if it is longer than one, is written `::`. -/
def v6Text (pieces : List Nat) : List Char :=
  let i := longestZeros pieces
  let n := zerosAt pieces i
  if n < 2 then groupsText pieces
  else groupsText (pieces.take i) ++ [':', ':'] ++ groupsText (pieces.drop (i + n))

/-! ## hosts -/

def text : Host → List Char
  | name cs => cs
  | v4 address => v4Text address
  | v6 pieces => '[' :: v6Text pieces ++ [']']

/-- the host in brackets, after the opening one -/
def ofBrackets (cs : List Char) : Except UrlError Host :=
  if cs.getLast? = some ']' then
    match v6? cs.dropLast with
    | some pieces => .ok (v6 pieces)
    | none => .error .invalidV6
  else .error .invalidV6

/-- the characters of no name -/
def isForbidden (c : Char) : Bool :=
  c ∈ ['\x00', '\t', '\n', '\r', ' ', '#', '/', ':', '<', '>', '?', '@', '[', '\\', ']', '^', '|']

def ofDomain : List Char → Except UrlError Host
  | '[' :: cs => ofBrackets cs
  | cs =>
    match (Percent.decoded? cs).bind Domain.ofText? with
    | none => .error .invalidDomain
    | some [] => .error .emptyHost
    | some domain =>
      if endsInNumber domain then
        match v4? domain with
        | some address => .ok (v4 address)
        | none => .error .invalidV4
      else .ok (name domain)

def ofOpaque : List Char → Except UrlError Host
  | '[' :: cs => ofBrackets cs
  | cs =>
    if cs.any isForbidden then .error .invalidCharacter
    else .ok (name (Percent.encode (fun _ => false) cs))

end Host

end Blocklist
