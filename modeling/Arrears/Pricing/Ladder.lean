import Arrears.Catalog.Lookup
import Arrears.Line.Basic

/-! Blocks of units. Either the units fill the ladder from below, each tier up to its last block
before the next is begun, or all of them count at the tier that the last one lands in. -/

set_option autoImplicit false

namespace Arrears

/-- The least number of blocks of a size that cover the units; there is none for size zero. A
negative size is divided by in the same way, towards the smaller number. -/
def blocksFor? (units size : Int) : Option Int :=
  if size = 0 then none
  else some (Int.fdiv units size + if Int.fmod units size = 0 then 0 else 1)

namespace TieredBlock

def blocksFor (block : TieredBlock) (units : Int) : Int :=
  units / block.size + if units % block.size = 0 then 0 else 1

def exceededBy (block : TieredBlock) (blocks : Int) : Bool :=
  block.max != unlimited && decide (block.max < blocks)

def leftOf (block : TieredBlock) (units : Int) : Int := units - block.max * block.size

theorem blocksFor?_size (block : TieredBlock) (units : Int) :
    blocksFor? units block.size = some (block.blocksFor units) := by
  have positive := block.size_pos
  have nonneg : (0 : Int) ≤ block.size := Int.natCast_nonneg _
  simp [blocksFor?, blocksFor, Int.fdiv_eq_ediv_of_nonneg _ nonneg, Int.fmod_eq_emod_of_nonneg _ nonneg,
    Nat.ne_of_gt positive]

end TieredBlock

namespace Ladder

/-- The blocks used of each tier while something is left: all of a tier that is exceeded, and what is
needed of one that is not. -/
def fill : List TieredBlock → Int → List (TieredBlock × Int)
  | [], _ => []
  | block :: higher, units =>
    let needed := block.blocksFor units
    let (blocks, left) :=
      if block.exceededBy needed then (block.max, block.leftOf units) else (needed, 0)
    (block, blocks) :: if left ≤ 0 then [] else fill higher left

/-- The tier that the last unit lands in, counted from one: the first that is not exceeded, or the
highest. -/
def landing : List TieredBlock → Int → Option (Nat × TieredBlock)
  | [], _ => none
  | block :: higher, units =>
    if block.exceededBy (block.blocksFor units) then
      match landing higher (block.leftOf units) with
      | some (tier, block) => some (tier + 1, block)
      | none => some (1, block)
    else some (1, block)

def charge (currency : String) (tier : Nat) (block : TieredBlock) (blocks : Int) : Except Error Line := do
  let price ← block.priceIn currency
  Line.forBlocks tier block.unit price blocks

def chargeAll (currency : String) (tier : Nat) : List (TieredBlock × Int) → Except Error (List Line)
  | [] => .ok []
  | (block, blocks) :: used => do
    let line ← charge currency tier block blocks
    let lines ← chargeAll currency (tier + 1) used
    return line :: lines

def allTiers (blocks : List TieredBlock) (units : Int) (currency : String) : Except Error (List Line) :=
  chargeAll currency 1 (fill blocks units)

def topTier? (blocks : List TieredBlock) (units : Int) (currency : String) :
    Option (Except Error Line) :=
  (landing blocks units).map fun (tier, block) =>
    charge currency tier block (block.blocksFor units)

end Ladder

end Arrears
