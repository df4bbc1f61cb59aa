import Arrears.Calendar.DateText
import Arrears.Calendar.Zone

/-! Moments: a whole day, or a time of day with its distance from universal time. The local date of
a time depends on its instant alone, and a whole day is the same everywhere. -/

set_option autoImplicit false

namespace Arrears

def dayMicros : Int := 86400000000

/-- A date and a time of day in microseconds. The offset is what local clocks are ahead of universal
time, in microseconds; without one the time is universal. -/
structure Timestamp where
  date : Date
  micros : Int
  micros_nonneg : 0 ≤ micros
  micros_lt : micros < dayMicros
  offset : Option Int
  deriving DecidableEq, Repr

inductive Moment where
  | day (date : Date)
  | stamp (time : Timestamp)
  deriving DecidableEq, Repr

def clockMicros (hour minute second micro : Nat) : Int :=
  ((hour * 60 + minute) * 60 + second) * 1000000 + micro

namespace Timestamp

/-- The time of a clock that has 24 hours and is less than a day ahead or behind. -/
def ofClock? (date : Date) (hour minute second micro : Nat) (offset : Option Int) :
    Option Timestamp :=
  if h : hour < 24 ∧ minute < 60 ∧ second < 60 ∧ micro < 1000000 then
    if offset.all fun offset => decide (-dayMicros < offset) && decide (offset < dayMicros) then
      some ⟨date, clockMicros hour minute second micro, by simp only [clockMicros]; omega,
        by simp only [clockMicros, dayMicros]; omega, offset⟩
    else none
  else none

-- Microseconds of universal time.
def instant (time : Timestamp) : Int :=
  time.date.number * dayMicros + time.micros - time.offset.getD 0

def dateAt (instant : Int) : Except Date.Fault Date :=
  match Date.ofNumber? (instant / dayMicros) with
  | some date => .ok date
  | none => .error .beyond

/-- The date that clocks in the zone show. The universal date must exist too. -/
def localDate (time : Timestamp) (zone : Zone) : Except Date.Fault Date := do
  let _ ← dateAt time.instant
  dateAt (time.instant + zone.offsetAt time.instant)

end Timestamp

namespace Moment

def localDate (moment : Moment) (zone : Zone) : Except Date.Fault Date :=
  match moment with
  | day date => .ok date
  | stamp time => time.localDate zone

def readClock? (cs : List Char) : Option (Nat × Nat × List Char) :=
  (Date.takeNumber? 2 cs).bind fun (first, rest) =>
    match rest with
    | ':' :: rest => (Date.takeNumber? 2 rest).map fun (second, rest) => (first, second, rest)
    | _ => none

def readSeconds? (cs : List Char) : Option (Nat × List Char) :=
  match cs with
  | ':' :: rest => Date.takeNumber? 2 rest
  | rest => some (0, rest)

/-- Three or six digits of a second behind a point; none stands for zero. -/
def readFraction? (cs : List Char) : Option (Nat × List Char) :=
  match cs with
  | '.' :: rest =>
    let front := rest.takeWhile Char.isDigit
    if front.length = 6 then some (Text.ofDigits front, rest.dropWhile Char.isDigit)
    else if front.length = 3 then some (1000 * Text.ofDigits front, rest.dropWhile Char.isDigit)
    else none
  | rest => some (0, rest)

def readDistance? (cs : List Char) : Option Int := do
  let (hour, minute, cs) ← readClock? cs
  let (second, cs) ← readSeconds? cs
  let (micro, cs) ← readFraction? cs
  if cs.isEmpty then some (clockMicros hour minute second micro) else none

def readOffset? : List Char → Option (Option Int)
  | [] => some none
  | ['Z'] => some (some 0)
  | '+' :: cs => (readDistance? cs).map some
  | '-' :: cs => (readDistance? cs).map fun distance => some (-distance)
  | _ => none

def readStamp? (cs : List Char) : Option Timestamp := do
  let date ← Date.readChars? (cs.take 10)
  let (hour, minute, cs) ← readClock? (cs.drop 11)
  let (second, cs) ← readSeconds? cs
  let (micro, cs) ← readFraction? cs
  let offset ← readOffset? cs
  Timestamp.ofClock? date hour minute second micro offset

/-- Reads a date, or a date and a time with a letter `T` between them. -/
def ofText? (s : String) : Option Moment :=
  if 'T' ∈ s.toList then (readStamp? s.toList).map .stamp else (Date.ofText? s).map .day

end Moment

end Arrears
