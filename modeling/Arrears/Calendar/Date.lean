import Arrears.Calendar.Month

/-! Dates of the years 1 to 9999. A date is its day count, so that order and differences of dates
are those of the counts; year, month and day of the month are read off it. -/

set_option autoImplicit false

namespace Arrears

structure Date where
  number : Int
  first_le : 1 ≤ number
  le_last : number ≤ 3652059
  deriving DecidableEq, Repr

namespace Date

/-- Why a date cannot be had: there is none with the given parts, or counting days leads beyond
the first or the last one. -/
inductive Fault where
  | noSuchDate
  | beyond
  deriving DecidableEq, Repr

instance : LE Date := ⟨fun a b => a.number ≤ b.number⟩
instance : LT Date := ⟨fun a b => a.number < b.number⟩
instance (a b : Date) : Decidable (a ≤ b) := inferInstanceAs (Decidable (a.number ≤ b.number))
instance (a b : Date) : Decidable (a < b) := inferInstanceAs (Decidable (a.number < b.number))

theorem le_def (a b : Date) : a ≤ b ↔ a.number ≤ b.number := Iff.rfl
theorem lt_def (a b : Date) : a < b ↔ a.number < b.number := Iff.rfl

theorem ext_number {a b : Date} (same : a.number = b.number) : a = b := by
  cases a; cases b; simp_all

def earlier (a b : Date) : Date := if b < a then b else a
def later (a b : Date) : Date := if a < b then b else a

def ofNumber? (number : Int) : Option Date :=
  if h : 1 ≤ number ∧ number ≤ 3652059 then some ⟨number, h.1, h.2⟩ else none

def addDays (date : Date) (days : Int) : Except Fault Date :=
  match ofNumber? (date.number + days) with
  | some later => .ok later
  | none => .error .beyond

def year (date : Date) : Int := Calendar.yearOf date.number

def monthIndex (date : Date) : Int := Calendar.monthOf date.number

-- The month of the year and the day of the month, both counted from one.
def month (date : Date) : Int := date.monthIndex % 12 + 1
def day (date : Date) : Int := date.number - Calendar.monthStart date.monthIndex + 1

-- Days since the last Monday.
def weekday (number : Int) : Int := (number - 1) % 7

def ofParts? (year month day : Int) : Option Date :=
  let index := 12 * year + (month - 1)
  if 1 ≤ month ∧ month ≤ 12 ∧ 1 ≤ day ∧ day ≤ Calendar.monthLength index then
    ofNumber? (Calendar.monthStart index + day - 1)
  else none

/-- The Monday of the first week of a year: the week that holds the fourth of January. -/
def firstMonday (year : Int) : Int :=
  Calendar.yearStart year + 3 - weekday (Calendar.yearStart year + 3)

def weeksOf (year : Int) : Int := (firstMonday (year + 1) - firstMonday year) / 7

/-- The date of a weekday, counted from one, in a week of a year. -/
def ofWeek? (year week weekday : Int) : Option Date :=
  if 1 ≤ year ∧ year ≤ 9999 ∧ 1 ≤ week ∧ week ≤ weeksOf year ∧ 1 ≤ weekday ∧ weekday ≤ 7 then
    ofNumber? (firstMonday year + 7 * (week - 1) + weekday - 1)
  else none

theorem ofNumber?_eq_some {number : Int} {date : Date} :
    ofNumber? number = some date ↔ date.number = number := by
  unfold ofNumber?
  split
  · constructor
    · intro same; cases same; rfl
    · intro same; exact congrArg some (ext_number same.symm)
  · rename_i outside
    have := date.first_le
    have := date.le_last
    constructor
    · intro same; cases same
    · omega

end Date

end Arrears
