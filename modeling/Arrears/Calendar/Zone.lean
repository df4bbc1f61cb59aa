import Arrears.Text.Upper

/-! Time zones: what their clocks are ahead of universal time, from one change of the clocks to the next.
Which zone a name stands for is told by a database that comes with the system. -/

set_option autoImplicit false

namespace Arrears

/-- From an instant on, clocks are that much ahead of universal time, both in microseconds. -/
structure ClockChange where
  instant : Int
  offset : Int
  deriving DecidableEq, Repr

structure Zone where
  /-- What clocks are ahead of universal time before they are ever changed. -/
  initial : Int
  /-- The changes, the earliest first. -/
  changes : List ClockChange
  deriving DecidableEq, Repr

namespace Zone

def offsetAt (zone : Zone) (instant : Int) : Int :=
  match (zone.changes.takeWhile fun change => decide (change.instant ≤ instant)).getLast? with
  | some change => change.offset
  | none => zone.initial

def fixed (micros : Int) : Zone := ⟨micros, []⟩

def universal : Zone := fixed 0

def isUniversalName (name : String) : Bool := Text.upper name.toList == "UTC".toList

/-- The zone of a name. Universal time has one in whatever case it is written, without the database. -/
def ofName? (database : String → Option Zone) (name : String) : Option Zone :=
  if isUniversalName name then some universal else database name

end Zone

end Arrears
