import Arrears.Number.Binary64

/-! The fewest decimal digits that read back as a given binary number. Each grid of decimal numbers
is tried in turn, the coarsest first, at the two points beside the number; the first grid with a
point that reads back wins, and of two points the nearer. -/

set_option autoImplicit false

namespace Arrears.Binary64

/-- The quarters of a unit of the mantissa between which numbers read back as this one. -/
structure Reach where
  below : Nat
  value : Nat
  above : Nat
  inclusive : Bool

/-- Half way to the neighbours. Below a power of two they lie twice as close. -/
def reach (mantissa : Nat) (exponent : Int) : Reach where
  below := if mantissa = Nat.pow 2 52 ∧ least < exponent then 4 * mantissa - 1 else 4 * mantissa - 2
  value := 4 * mantissa
  above := 4 * mantissa + 2
  inclusive := mantissa % 2 == 0

def firstPlace (numerator denominator : Nat) : Int :=
  if denominator ≤ numerator then (Decimal.digitCount (numerator / denominator) : Int) - 1
  else -(Decimal.digitCount ((denominator + numerator - 1) / numerator - 1) : Int)

/-- The better of two neighbouring points `low` and `low + 1` of a grid, if one reads back. A point
stands for `point * mesh`, and a quarter for `quarter * unit`. -/
def pick (reach : Reach) (unit mesh low : Nat) : Option Nat :=
  let reads (point : Nat) : Bool :=
    if reach.inclusive then
      decide (reach.below * unit ≤ point * mesh) && decide (point * mesh ≤ reach.above * unit)
    else decide (reach.below * unit < point * mesh) && decide (point * mesh < reach.above * unit)
  let before := reach.value * unit - low * mesh
  let after := (low + 1) * mesh - reach.value * unit
  match reads low, reads (low + 1) with
  | true, true => some (if before < after ∨ (before = after ∧ low % 2 = 0) then low else low + 1)
  | true, false => some low
  | false, true => some (low + 1)
  | false, false => none

def onGrid (mantissa : Nat) (exponent : Int) (place : Int) (count : Nat) : Option (Nat × Int) :=
  let last := place - count + 1
  let reach := reach mantissa exponent
  let unit := Nat.pow 2 (exponent - 2).toNat * Nat.pow 10 (-last).toNat
  let mesh := Nat.pow 2 (2 - exponent).toNat * Nat.pow 10 last.toNat
  (pick reach unit mesh (reach.value * unit / mesh)).map fun point =>
    if point = Nat.pow 10 count then (Nat.pow 10 (count - 1), last + 1) else (point, last)

/-- Digits and the place of the last one. Seventeen digits always read back. -/
def shortest (mantissa : Nat) (exponent : Int) : Nat × Int :=
  if mantissa = 0 then (0, 0) else
    let place := firstPlace (mantissa * Nat.pow 2 exponent.toNat) (Nat.pow 2 (-exponent).toNat)
    match (List.range 17).findSome? fun more => onGrid mantissa exponent place (more + 1) with
    | some found => found
    | none => (mantissa * Nat.pow 2 exponent.toNat * Nat.pow 5 (-exponent).toNat, min exponent 0)

end Arrears.Binary64
