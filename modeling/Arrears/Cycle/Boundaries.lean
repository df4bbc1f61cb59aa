import Arrears.Cycle.Grid

/-! Where a billing interval stands on its grid at a target date. Billed in arrear, it is due at the
first cycle date after the target, or after its end if that comes first; billed in advance, at the
first cycle date after the target or at its end, whichever comes first. -/

set_option autoImplicit false

namespace Arrears

structure BillingInterval where
  start : Date
  stop : Option Date
  target : Date
  period : BillingPeriod
  mode : BillingMode
  grid : CycleGrid
  first : Date
  last : Option Date
  next : Date
  deriving DecidableEq, Repr

def Date.cutBy (date : Date) : Option Date → Date
  | some stop => if stop < date then stop else date
  | none => date

-- Last and next cycle date in arrear.
def CycleGrid.inArrear (grid : CycleGrid) (stop : Option Date) (target : Date) :
    Except Date.Fault (Option Date × Date) := do
  match grid.lastIndex? (target.cutBy stop) with
  | none => return (none, ← grid.dateAt 0)
  | some n =>
    let last ← grid.dateAt n
    return (some last, ← grid.dateAt (n + 1))

-- The next date in advance.
def CycleGrid.inAdvance (grid : CycleGrid) (stop : Option Date) (target : Date) :
    Except Date.Fault (Option Date × Date) := do
  let proposed ← grid.dateAt (grid.countUpTo target)
  return (none, proposed.cutBy stop)

namespace BillingInterval

def of (start : Date) (stop : Option Date) (target : Date) (cycleDay : Int) (period : BillingPeriod)
    (mode : BillingMode) : Except Error BillingInterval := do
  let grid ← CycleGrid.of start cycleDay period
  let first ← grid.dateAt 0
  let (last, next) ← match mode with
    | .inArrear => grid.inArrear stop target
    | .inAdvance => grid.inAdvance stop target
  return { start, stop, target, period, mode, grid, first, last, next }

def describe (interval : BillingInterval) : String :=
  "BillingIntervalDetail(start=" ++ interval.start.toText ++
    ", end=" ++ (interval.stop.map Date.toText).getD "None" ++
    ", target=" ++ interval.target.toText ++
    ", bcd=" ++ toString interval.grid.cycleDay ++
    ", period=" ++ interval.period.name ++ ", mode=" ++ interval.mode.name ++ ")"

end BillingInterval

end Arrears
