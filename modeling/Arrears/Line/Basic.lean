import Arrears.Decimal.Arithmetic
import Arrears.Json.Basic

/-! Priced lines of a bill. A line charges a quantity of a unit at a tier; while a bill is put
together it also absorbs what was billed for the unit before. Unit, quantity and reference are
data that other parties may have written, so they are carried as they came. -/

set_option autoImplicit false

namespace Arrears

structure Line where
  tier : Int
  unit : Json
  price : Option Decimal
  quantity : Json
  amount : Decimal
  absorbed : Option Decimal
  reference : Json
  deriving Repr

namespace Line

def forBlocks (tier : Int) (unit : String) (price : Decimal) (quantity : Int) :
    Except Decimal.Fault Line := do
  let amount ← price.mul (.ofInt quantity)
  return ⟨tier, .str unit, some price, .int quantity, amount, none, .null⟩

/-- A line without a unit, for an item that was billed without lines. -/
def adjustment (price : Option Decimal) (quantity : Json) (amount : Decimal) (reference : Json) :
    Line :=
  ⟨0, .null, price, quantity, amount, some .zero, reference⟩

def reversal (billed : Line) (reference : Json) : Except Decimal.Fault Line := do
  let amount ← billed.amount.neg
  return { billed with amount, absorbed := none, reference }

def sameUnit (line billed : Line) : Bool := billed.unit.eqv line.unit

-- What a line has absorbed; a zero of any form counts as the plain one.
def absorbedSoFar (line : Line) : Decimal :=
  match line.absorbed with
  | some absorbed => if absorbed.isZero then .zero else absorbed
  | none => .zero

/-- Absorbs one billed line of the same unit. What fails half way leaves the first half done. -/
def take (line billed : Line) : Line × Except Decimal.Fault Unit :=
  match billed.amount.abs with
  | .error fault => (line, .error fault)
  | .ok taken =>
    match line.absorbedSoFar.add taken with
    | .error fault => (line, .error fault)
    | .ok absorbed =>
      match line.amount.sub taken with
      | .error fault => ({ line with absorbed := some absorbed }, .error fault)
      | .ok amount => ({ line with absorbed := some absorbed, amount }, .ok ())

def absorb (line : Line) : List Line → Line × Except Decimal.Fault (List Line)
  | [] => (line, .ok [])
  | billed :: rest =>
    if line.sameUnit billed then
      match line.take billed with
      | (line, .error fault) => (line, .error fault)
      | (line, .ok ()) => line.absorb rest
    else
      let (line, left) := line.absorb rest
      (line, left.map (billed :: ·))

def total (lines : List Line) : Except Decimal.Fault Decimal :=
  Decimal.sum (lines.map Line.amount)

end Line

end Arrears
