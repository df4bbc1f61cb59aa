import Arrears.Calendar.DateText
import Arrears.Catalog.Basic

/-! The grid of cycle dates of a start. A grid by months falls on the cycle day of each month, or on
its last day where it is shorter, from the first such day on or after the start. A grid by days
counts from the start. Both run on in both directions; only the dates of the calendar exist. -/

set_option autoImplicit false

namespace Arrears

namespace Cycle

def count : Cycle → Nat
  | days count => count
  | months count => count

end Cycle

theorem BillingPeriod.cycle_count_pos {period : BillingPeriod} {cycle : Cycle}
    (found : period.cycle? = some cycle) : 0 < cycle.count := by
  cases period <;> simp [BillingPeriod.cycle?] at found <;> subst found <;> decide

structure CycleGrid where
  start : Date
  cycle : Cycle
  cycleDay : Int
  count_pos : 0 < cycle.count
  day_pos : 0 < cycleDay
  day_le : cycleDay ≤ 31
  deriving DecidableEq, Repr

def alignedDay (index cycleDay : Int) : Int :=
  Calendar.monthStart index + min cycleDay (Calendar.monthLength index) - 1

namespace CycleGrid

def of (start : Date) (cycleDay : Int) (period : BillingPeriod) : Except Error CycleGrid :=
  if day : 1 ≤ cycleDay ∧ cycleDay ≤ 31 then
    match found : period.cycle? with
    | some cycle =>
      .ok ⟨start, cycle, cycleDay, BillingPeriod.cycle_count_pos found, day.1, day.2⟩
    | none => .error (.catalog (.unsupportedPeriod period))
  else .error (.lifecycle (.cycleDay cycleDay))

def firstMonth (grid : CycleGrid) : Int :=
  let index := grid.start.monthIndex
  if alignedDay index grid.cycleDay < grid.start.number then index + grid.cycle.count else index

def monthAt (grid : CycleGrid) (n : Int) : Int := grid.firstMonth + n * grid.cycle.count

/-- The day count of the cycle date `n` periods after the first. -/
def dayAt (grid : CycleGrid) (n : Int) : Int :=
  match grid.cycle with
  | .days count => grid.start.number + n * count
  | .months _ => alignedDay (grid.monthAt n) grid.cycleDay

/-- Why a cycle date does not exist. Counting months fails at the parts of the date, unless its
year needs more than 32 bits. -/
def faultAt (grid : CycleGrid) (n : Int) : Date.Fault :=
  match grid.cycle with
  | .days _ => .beyond
  | .months _ =>
    let year := grid.monthAt n / 12
    if -0x80000000 ≤ year ∧ year < 0x80000000 then .noSuchDate else .beyond

def dateAt (grid : CycleGrid) (n : Int) : Except Date.Fault Date :=
  match Date.ofNumber? (grid.dayAt n) with
  | some date => .ok date
  | none => .error (grid.faultAt n)

/-- The number of the last cycle date on or before a date; none before the first one. -/
def lastIndex? (grid : CycleGrid) (bound : Date) : Option Nat :=
  if bound.number < grid.dayAt 0 then none else
    match grid.cycle with
    | .days count => some ((bound.number - grid.start.number) / count).toNat
    | .months count =>
      let n := ((bound.monthIndex - grid.firstMonth) / count).toNat
      some (if grid.dayAt n ≤ bound.number then n else n - 1)

def countUpTo (grid : CycleGrid) (bound : Date) : Nat :=
  match grid.lastIndex? bound with
  | some n => n + 1
  | none => 0

/-- The cycle dates on or before a date. The next one must exist as well. -/
def datesUpTo (grid : CycleGrid) (bound : Date) : Except Date.Fault (List Date) := do
  let _ ← grid.dateAt (grid.countUpTo bound)
  (List.range (grid.countUpTo bound)).mapM fun (n : Nat) => grid.dateAt n

end CycleGrid

end Arrears
