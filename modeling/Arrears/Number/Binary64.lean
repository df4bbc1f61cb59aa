import Arrears.Decimal.Basic

/-! Binary numbers of 64 bits: a mantissa of at most 53 bits and a power of two. A decimal number is
read as the nearest of them, a half going to the even mantissa. -/

set_option autoImplicit false

namespace Arrears

inductive Binary64 where
  | finite (negative : Bool) (mantissa : Nat) (exponent : Int)
  | infinite (negative : Bool)
  | nan
  deriving DecidableEq, Repr

namespace Binary64

def least : Int := -1074
def greatest : Int := 971

def nearest (numerator denominator : Nat) : Nat :=
  let quotient := numerator / denominator
  let rest := numerator % denominator
  if 2 * rest < denominator then quotient
  else if denominator < 2 * rest then quotient + 1
  else quotient + quotient % 2

def scale (numerator denominator : Nat) : Int :=
  let guess := (Nat.log2 numerator : Int) - Nat.log2 denominator - 53
  let full := denominator * Nat.pow 2 (guess + 53).toNat ≤ numerator * Nat.pow 2 (-(guess + 53)).toNat
  max least (if full then guess + 1 else guess)

def ofQuotient (negative : Bool) (numerator denominator : Nat) : Binary64 :=
  let exponent := scale numerator denominator
  let mantissa := nearest (numerator * Nat.pow 2 (-exponent).toNat) (denominator * Nat.pow 2 exponent.toNat)
  let (mantissa, exponent) :=
    if mantissa = Nat.pow 2 53 then (Nat.pow 2 52, exponent + 1) else (mantissa, exponent)
  if greatest < exponent then infinite negative else finite negative mantissa exponent

/-- Reads a decimal number. Beyond the given places of its first digit it is too large or too
small, whatever its digits. -/
def ofDecimal : Decimal → Binary64
  | .finite negative coefficient exponent =>
    if coefficient = 0 ∨ Decimal.leading coefficient exponent < -400 then finite negative 0 least
    else if 400 < Decimal.leading coefficient exponent then infinite negative
    else ofQuotient negative (coefficient * Nat.pow 10 exponent.toNat) (Nat.pow 10 (-exponent).toNat)
  | .infinite negative => infinite negative
  | .nan .. => nan

/-- The decimal number of the same value; there is one because ten is even. -/
def exact : Binary64 → Decimal
  | finite negative mantissa exponent =>
    .finite negative (mantissa * Nat.pow 2 exponent.toNat * Nat.pow 5 (-exponent).toNat) (min exponent 0)
  | infinite negative => .infinite negative
  | nan => .nan false false 0

def isZero : Binary64 → Bool
  | finite _ mantissa _ => mantissa == 0
  | _ => false

def ofDyadic (negative : Bool) (mantissa : Nat) (exponent : Int) : Binary64 :=
  if mantissa = 0 then finite negative 0 least
  else ofQuotient negative (mantissa * Nat.pow 2 exponent.toNat) (Nat.pow 2 (-exponent).toNat)

def ofNat (n : Nat) : Binary64 := ofDyadic false n 0

def neg : Binary64 → Binary64
  | finite negative mantissa exponent => finite (!negative) mantissa exponent
  | infinite negative => infinite (!negative)
  | nan => nan

-- The sum, rounded. One that is zero is negative only if both numbers are.
def add : Binary64 → Binary64 → Binary64
  | finite s m e, finite t n f =>
    let low := min e f
    let sum := Decimal.signed s (m * Nat.pow 2 (e - low).toNat) + Decimal.signed t (n * Nat.pow 2 (f - low).toNat)
    ofDyadic (if sum = 0 then s && t else decide (sum < 0)) sum.natAbs low
  | infinite s, infinite t => if s = t then infinite s else nan
  | infinite s, finite .. | finite .., infinite s => infinite s
  | nan, _ | _, nan => nan

def mul : Binary64 → Binary64 → Binary64
  | finite s m e, finite t n f => ofDyadic (s != t) (m * n) (e + f)
  | infinite s, infinite t => infinite (s != t)
  | infinite s, finite t n _ | finite t n _, infinite s => if n = 0 then nan else infinite (s != t)
  | nan, _ | _, nan => nan

end Binary64

end Arrears
