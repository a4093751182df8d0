import Blocklist.Json

/-!
# Decimal numbers as binary floating-point numbers

A decimal number that is kept is kept as a double: 53 binary digits, exponents from -1074 to 971. It
is written with the fewest decimal digits that lead back to the same double.

* `Binary64.round num den`     the double nearest to `num / den`, ties to even;
* `Binary64.ofDecimal?`        the double a decimal number is read as: its digits as a double,
                               scaled by a power of ten;
* `Binary64.toDecimal`         the shortest decimal number of a double;
* `Decimal.settle?`            a decimal number as it is written after it has been read.
-/

namespace Blocklist

/-- the number `mantissa * 2 ^ exponent` -/
structure Binary64 where
  mantissa : Nat
  exponent : Int
  deriving DecidableEq, Repr

namespace Binary64

def precision : Nat := 53
def minExponent : Int := -1074
def maxExponent : Int := 971

/-- the integer nearest to `num / den`, ties to even -/
def divRound (num den : Nat) : Nat :=
  let q := num / den
  let r := num % den
  if 2 * r < den then q
  else if 2 * r > den then q + 1
  else if q % 2 = 0 then q else q + 1

/-- `num * 2 ^ -e / den`, rounded to an integer -/
def scaleRound (num den : Nat) (e : Int) : Nat :=
  if e ≥ 0 then divRound num (den * Nat.pow 2 e.toNat)
  else divRound (num * Nat.pow 2 (-e).toNat) den

/-- the double nearest to `num / den`, or `none` if that is beyond the largest one -/
def round (num den : Nat) : Option Binary64 :=
  if num = 0 then some ⟨0, 0⟩
  else
    let e₀ : Int := num.log2 - den.log2 - precision
    let e := max e₀ minExponent
    let m := scaleRound num den e
    let e := if m ≥ Nat.pow 2 precision then max (e + 1) minExponent else e
    let m := scaleRound num den e
    let (m, e) :=
      if m = Nat.pow 2 precision then (Nat.pow 2 (precision - 1), e + 1) else (m, e)
    if e > maxExponent then none else some ⟨m, e⟩

/-- a double as a quotient -/
def num (x : Binary64) : Nat :=
  if x.exponent ≥ 0 then x.mantissa * Nat.pow 2 x.exponent.toNat else x.mantissa
def den (x : Binary64) : Nat := if x.exponent ≥ 0 then 1 else Nat.pow 2 (-x.exponent).toNat

def mul? (x y : Binary64) : Option Binary64 := round (x.num * y.num) (x.den * y.den)
def div? (x y : Binary64) : Option Binary64 := round (x.num * y.den) (x.den * y.num)

def maxPower : Nat := 308

/-- ten to a power up to `maxPower` -/
def power (k : Nat) : Binary64 := (round (Nat.pow 10 k) 1).getD ⟨1, 0⟩

/-- divide by ten to the power `k`, at most `maxPower` at a time -/
def shrink (x : Binary64) (k : Nat) : Nat → Option Binary64
  | 0 => some ⟨0, 0⟩
  | fuel + 1 =>
    if x.mantissa = 0 then some x
    else if k ≤ maxPower then x.div? (power k)
    else do shrink (← x.div? (power maxPower)) (k - maxPower) fuel

def ofDecimal? (d : Decimal) : Option Binary64 := do
  let x ← round d.digits 1
  if x.mantissa = 0 then return x
  if d.exponent ≥ 0 then
    if d.exponent ≤ maxPower then x.mul? (power d.exponent.toNat) else none
  else shrink x (-d.exponent).toNat 4

/-! ## shortest text -/

/-- `x * 10 ^ k` as a quotient -/
def scaled (x : Binary64) (k : Int) : Nat × Nat :=
  if k ≥ 0 then (x.num * Nat.pow 10 k.toNat, x.den) else (x.num, x.den * Nat.pow 10 (-k).toNat)

/-- the double nearest to `n * 10 ^ -k` -/
def unscaled (n : Nat) (k : Int) : Option Binary64 :=
  if k ≥ 0 then round n (Nat.pow 10 k.toNat) else round (n * Nat.pow 10 (-k).toNat) 1

/-- The neighbour of `x` with `k` places that leads back to it, the nearer one if both do. The two
halves of the interval of numbers nearest to a power of two differ in length, so the nearer
neighbour may fail where the other one does not. -/
def withPlaces? (x : Binary64) (k : Int) : Option Nat :=
  let (num, den) := scaled x k
  let near := divRound num den
  let far := if near = num / den then near + 1 else near - 1
  if unscaled near k = some x then some near
  else if unscaled far k = some x then some far
  else none

/-- the decimal number with the fewest places, from `k` on, that leads back to `x` -/
def shortest (x : Binary64) (k : Int) : Nat → Decimal
  | 0 =>
    let (num, den) := scaled x k
    ⟨false, divRound num den, -k⟩
  | fuel + 1 =>
    match withPlaces? x k with
    | some n => ⟨false, n, -k⟩
    | none => shortest x (k + 1) fuel

/-- without zeros at the end of the digits -/
def dropZeros (d : Decimal) : Nat → Decimal
  | 0 => d
  | fuel + 1 =>
    if d.digits ≠ 0 ∧ d.digits % 10 = 0 then
      dropZeros { d with digits := d.digits / 10, exponent := d.exponent + 1 } fuel
    else d

def toDecimal (x : Binary64) : Decimal :=
  if x.mantissa = 0 then ⟨false, 0, 0⟩
  else
    let magnitude : Int := (x.num.log2 : Int) - x.den.log2
    let places : Int := - (magnitude * 30103 / 100000) - 2
    dropZeros (shortest x places 24) 400

end Binary64

/-- a decimal number as it is kept, unless it is beyond the largest double -/
def Decimal.settle? (d : Decimal) : Option Decimal :=
  (Binary64.ofDecimal? d).map fun x => { x.toDecimal with negative := d.negative }

end Blocklist
