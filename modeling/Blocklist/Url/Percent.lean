import Blocklist.Json.Digits

/-!
# Percent encoding

A byte is written as `%` and two hexadecimal digits.

* `Percent.encode p cs`   `cs` with the characters that satisfy `p` encoded, byte by byte; control
                          characters and all that is not ASCII always are;
* `Percent.decode cs`     the bytes that `cs` stands for;
* `Percent.decoded? cs`   the text of those bytes, if they are UTF-8.
-/

namespace Blocklist.Percent

def isControl (c : Char) : Bool := c.toNat < 0x20 || 0x7F ≤ c.toNat

def bytes (c : Char) : List UInt8 := (String.singleton c).toUTF8.toList

/-- a hexadecimal digit, the letters in upper case -/
def digit (d : Nat) : Char := (Digits.hexChar d).toUpper

def encodeByte (b : UInt8) : List Char := ['%', digit (b.toNat / 16), digit (b.toNat % 16)]

def encode (p : Char → Bool) (cs : List Char) : List Char :=
  cs.flatMap fun c => if isControl c || p c then (bytes c).flatMap encodeByte else [c]

/-- A `%` that no two digits follow stands for itself. -/
def decode : List Char → List UInt8
  | [] => []
  | '%' :: a :: b :: cs =>
    match Digits.hexValue? a, Digits.hexValue? b with
    | some x, some y => (16 * x + y).toUInt8 :: decode cs
    | _, _ => bytes '%' ++ decode (a :: b :: cs)
  | c :: cs => bytes c ++ decode cs

def decoded? (cs : List Char) : Option (List Char) :=
  (String.fromUTF8? ⟨(decode cs).toArray⟩).map String.toList

/-! ## the characters encoded in the parts of an address -/

def inFragment (c : Char) : Bool := c ∈ [' ', '"', '<', '>', '`']

def inPath (c : Char) : Bool := inFragment c || c ∈ ['#', '?', '\x7b', '\x7d']

def inUserinfo (c : Char) : Bool :=
  inPath c || c ∈ ['/', ':', ';', '=', '@', '[', '\\', ']', '^', '|']

def inQuery (special : Bool) (c : Char) : Bool :=
  c ∈ [' ', '"', '#', '<', '>'] || (special && c = '\'')

end Blocklist.Percent
