/-!
# JSON values

* `Json`          a value; a number is an integer or a `Decimal`, the fields of an object keep
                  their order and may repeat;
* `Json.get?`     the value of a field, the last one of its name;
* `Json.ofStrings`, `Json.ofNat`   lists of strings and numbers as values.
-/

namespace Blocklist

/-- the number `± digits * 10 ^ exponent` -/
structure Decimal where
  negative : Bool
  digits : Nat
  exponent : Int
  deriving DecidableEq, Repr

inductive Json where
  | null
  | bool (b : Bool)
  | int (n : Int)
  /-- a number written with a point or an exponent, or out of the range of 64-bit integers -/
  | decimal (d : Decimal)
  | str (s : String)
  | arr (items : List Json)
  | obj (fields : List (String × Json))
  /-- A value that keeps to the grammar and cannot be read: a string in it, or the name of a field,
  holds one half of a surrogate pair or is no UTF-8. -/
  | unreadable
  deriving Repr, Inhabited

namespace Json

def ofNat (n : Nat) : Json := int n

def ofStrings (ss : List String) : Json := arr (ss.map str)

def get? (name : String) : Json → Option Json
  | obj fields => (fields.reverse.find? fun f => f.1 = name).map (·.2)
  | _ => none

def bool? : Json → Option Bool
  | bool b => some b
  | _ => none

def str? : Json → Option String
  | str s => some s
  | _ => none

def nat? : Json → Option Nat
  | int (.ofNat n) => some n
  | _ => none

def word32? (j : Json) : Option UInt32 :=
  j.nat?.bind fun n => if n < UInt32.size then some n.toUInt32 else none

def word64? (j : Json) : Option UInt64 :=
  j.nat?.bind fun n => if n < UInt64.size then some n.toUInt64 else none

def items? : Json → Option (List Json)
  | arr items => some items
  | _ => none

/-- a value, or nothing where there is `null` -/
def optional? {α : Type} (read : Json → Option α) : Json → Option (Option α)
  | null => some none
  | j => (read j).map some

/-- a list of values of one kind -/
def list? {α : Type} (read : Json → Option α) (j : Json) : Option (List α) :=
  j.items?.bind fun items => items.mapM read

def strings? (j : Json) : Option (List String) := j.list? str?

theorem word32?_ofNat_toNat (n : UInt32) : word32? (ofNat n.toNat) = some n := by
  have h : n.toNat < UInt32.size := n.toNat_lt
  simp [word32?, ofNat, nat?, h]

theorem word64?_ofNat_toNat (n : UInt64) : word64? (ofNat n.toNat) = some n := by
  have h : n.toNat < UInt64.size := n.toNat_lt
  simp [word64?, ofNat, nat?, h]

theorem strings?_ofStrings (ss : List String) : strings? (ofStrings ss) = some ss := by
  show (ss.map str).mapM str? = some ss
  induction ss with
  | nil => rfl
  | cons s ss ih => simp [str?, ih]

end Json

end Blocklist
