import Arrears.Calendar.Date
import Arrears.Catalog.Basic

/-! Rolling up raw usage. The records come in order of their dates and are read once; each goes to
the interval between two transitions that it falls in, where the amounts of a unit are added up
or, for capacity, the largest of them counts. -/

set_option autoImplicit false

namespace Arrears

structure RawUsage where
  date : Date
  unit : String
  amount : Option Int
  deriving DecidableEq, Repr

structure RolledUnit where
  unit : String
  amount : Int
  deriving DecidableEq, Repr

/-- What was used from a date up to, and without, another. -/
structure RolledUsage where
  subscription : String
  start : Date
  stop : Date
  units : List RolledUnit
  deriving DecidableEq, Repr

namespace Rollup

def combine (usageType : UsageType) (current new : Int) : Int :=
  match usageType with
  | .capacity => max current new
  | .consumable => current + new

def updated (usageType : UsageType) (current new : Option Int) : Int :=
  combine usageType (current.getD 0) (new.getD 0)

def amounts (usageType : UsageType) (records : List RawUsage) : List (String × Int) :=
  records.foldl (fun totals record =>
    Assoc.alter record.unit (fun current => updated usageType current record.amount) totals) []

def units (usageType : UsageType) (records : List RawUsage) : List RolledUnit :=
  (amounts usageType records).map fun total => ⟨total.1, total.2⟩

def pairs (dates : List Date) : List (Date × Date) := dates.zip dates.tail

/-- Deals the records out to the intervals, which take those before their end one after another.
An interval without records gives nothing. -/
def deal (usageType : UsageType) (subscription : String) :
    List (Date × Date) → List RawUsage → List RolledUsage
  | [], _ => []
  | (start, stop) :: intervals, records =>
    let mine := records.takeWhile fun record => decide (record.date < stop)
    let later := deal usageType subscription intervals
      (records.dropWhile fun record => decide (record.date < stop))
    if mine.isEmpty then later
    else ⟨subscription, start, stop, units usageType mine⟩ :: later

/-- Usage between transitions. Nothing is rolled up when the first record that is not too early
already lies at or behind the last transition. -/
def rollUp (transitions : List Date) (records : List RawUsage) (usageType : UsageType)
    (subscription : String) : List RolledUsage :=
  match transitions.head?, transitions.getLast? with
  | some first, some last =>
    match records.dropWhile fun record => decide (record.date < first) with
    | [] => []
    | record :: records =>
      if last ≤ record.date then []
      else deal usageType subscription (pairs transitions) (record :: records)
  | _, _ => []

end Rollup

end Arrears
