import Arrears.Interval.Basic

/-! Building an interval. The transitions are the start, the cycle dates behind it up to the end, and
the end itself if the interval is closed; none of them lies before raw usage is known. -/

set_option autoImplicit false

namespace Arrears.UsageInterval

def transitionsBetween (start stop rawUsageStart : Date) (closed : Bool) (cycleDates : List Date) :
    List Date :=
  let upToStop := (if rawUsageStart ≤ start then [start] else []) ++
    cycleDates.filter fun date => decide (start < date) && decide (rawUsageStart ≤ date)
  match upToStop.getLast? with
  | some last => if closed && decide (last < stop) then upToStop ++ [stop] else upToStop
  | none => []

/-- The end of an interval that starts with the first event: the last event if it closes the
interval, else the target. -/
def stopDate (interval : UsageInterval) (closed : Bool) : Except Date.Fault Date :=
  match closed, interval.events.getLast? with
  | true, some last => interval.localDate last
  | _, _ => .ok interval.target

def transitionsFrom (interval : UsageInterval) (start : Date) (cycleDay : Int) (closed : Bool) :
    Except Error (List Date) := do
  let stop ← interval.stopDate closed
  let billing ← BillingInterval.of start (some stop) interval.target cycleDay interval.usage.period
    interval.usage.mode
  let cycleDates ← billing.grid.datesUpTo stop
  return transitionsBetween start stop interval.rawUsageStart closed cycleDates

/-- Builds the interval. Where the target lies before the start there is nothing to bill. -/
def build (interval : UsageInterval) (closed : Bool) : Except Error UsageInterval := do
  interval.requireCollecting
  if interval.events.length < requiredEvents closed then
    throw (.lifecycle (.tooFewEvents interval.usage.name closed interval.events.length))
  let event ← interval.firstEvent
  let start ← interval.localDate event
  let transitions ←
    if interval.target < start then pure []
    else interval.transitionsFrom start event.cycleDay closed
  return { interval with phase := .built transitions }

def dueDate (interval : UsageInterval) (event : BillingEvent) (following : Option BillingEvent) :
    Except Error Date := do
  let start ← interval.localDate event
  let stop ← match following with
    | some following => (interval.localDate following).map some
    | none => pure none
  let billing ← BillingInterval.of start stop interval.target event.cycleDay interval.usage.period
    .inArrear
  return billing.next

def dueDates (interval : UsageInterval) : List BillingEvent → Except Error (List Date)
  | [] => .ok []
  | event :: following => do
    let date ← interval.dueDate event following.head?
    let dates ← interval.dueDates following
    return date :: dates

def nextNotification (interval : UsageInterval) : Except Error Date := do
  let _ ← interval.firstEvent
  match ← interval.dueDates interval.events with
  | date :: dates => return dates.foldl Date.later date
  | [] => throw (.lifecycle (.noEvent interval.usage.name))

end Arrears.UsageInterval
