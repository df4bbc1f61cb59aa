/-! Billing periods. Most are a number of months, kept in step with a day of the month, or a number
of days, counted from a start; a section may also have no period at all. -/

set_option autoImplicit false

namespace Arrears

inductive BillingPeriod where
  | daily
  | weekly
  | biweekly
  | thirtyDays
  | monthly
  | quarterly
  | biannual
  | annual
  | biennial
  | none
  deriving DecidableEq, Repr

inductive Cycle where
  | days (count : Nat)
  | months (count : Nat)
  deriving DecidableEq, Repr

namespace BillingPeriod

def all : List BillingPeriod :=
  [daily, weekly, biweekly, thirtyDays, monthly, quarterly, biannual, annual, biennial, none]

def name : BillingPeriod → String
  | daily => "DAILY"
  | weekly => "WEEKLY"
  | biweekly => "BIWEEKLY"
  | thirtyDays => "THIRTY_DAYS"
  | monthly => "MONTHLY"
  | quarterly => "QUARTERLY"
  | biannual => "BIANNUAL"
  | annual => "ANNUAL"
  | biennial => "BIENNIAL"
  | none => "NO_BILLING_PERIOD"

def ofName? (text : String) : Option BillingPeriod := all.find? fun period => period.name == text

def cycle? : BillingPeriod → Option Cycle
  | daily => some (.days 1)
  | weekly => some (.days 7)
  | biweekly => some (.days 14)
  | thirtyDays => some (.days 30)
  | monthly => some (.months 1)
  | quarterly => some (.months 3)
  | biannual => some (.months 6)
  | annual => some (.months 12)
  | biennial => some (.months 24)
  | none => Option.none

/-- The months of a period, zero if it is not counted in them. -/
def months (period : BillingPeriod) : Nat :=
  match period.cycle? with
  | some (.months count) => count
  | _ => 0

def days (period : BillingPeriod) : Nat :=
  match period.cycle? with
  | some (.days count) => count
  | _ => 0

theorem ofName?_name (period : BillingPeriod) : ofName? period.name = some period := by
  cases period <;> decide

end BillingPeriod

end Arrears
