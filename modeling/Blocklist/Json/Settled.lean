import Blocklist.Json.Token
import Std.Data.ExtTreeMap

/-!
# Settled values

A value that is kept for later is settled: the fields of its objects are sorted by name and occur
once, the last one of a name counting; its decimal numbers are doubles in their shortest form; it
is nowhere nested deeper than 127 levels and all of it can be read.

* `Json.settle? depth j`   `j` settled, with `depth` levels of nesting left;
* `Json.ofItems`           the object of a table of values.
-/

namespace Blocklist

/-- values kept under names -/
abbrev Items := Std.ExtTreeMap String Json

namespace Json

def maxDepth : Nat := 127

def ofItems (items : Items) : Json := obj items.toList

mutual

def settle? (depth : Nat) : Json → Option Json
  | null => some null
  | bool b => some (bool b)
  | int n => some (int n)
  | decimal d => d.settle?.map decimal
  | str s => some (str s)
  | unreadable => none
  | arr vs => if depth = 0 then none else (settleItems? (depth - 1) vs).map arr
  | obj fs => if depth = 0 then none else (settleFields? (depth - 1) fs ∅).map ofItems

def settleItems? (depth : Nat) : List Json → Option (List Json)
  | [] => some []
  | v :: vs =>
    match settle? depth v with
    | none => none
    | some v => (settleItems? depth vs).map (v :: ·)

/-- the fields together with those already settled -/
def settleFields? (depth : Nat) : List (String × Json) → Items → Option Items
  | [], done => some done
  | (name, v) :: fs, done =>
    match settle? depth v with
    | none => none
    | some v => settleFields? depth fs (done.insert name v)

end

/-- the fields of a settled object -/
def settledItems? : Json → Option Items
  | obj fs => settleFields? (maxDepth - 1) fs ∅
  | _ => none

end Json

end Blocklist
