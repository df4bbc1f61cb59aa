import Arrears.Calendar.Moment
import Arrears.Cycle.Boundaries
import Arrears.Rollup
import Arrears.Settings.Basic

/-! A usage interval: one usage section of one subscription over contiguous billing events. It first
collects events; once built it holds the transitions, the dates between which usage is billed, and
neither events nor transitions change any more. -/

set_option autoImplicit false

namespace Arrears

/-- A change of the subscription from which the usage section is billed on. -/
structure BillingEvent where
  effective : Moment
  cycleDay : Int
  planName : String
  phaseName : String
  currency : String
  subscriptionId : String
  bundleId : String
  deriving DecidableEq, Repr

inductive Phase where
  | collecting
  | built (transitions : List Date)
  deriving DecidableEq, Repr

structure UsageInterval where
  usage : Usage
  accountId : String
  invoiceId : String
  rawUsage : List RawUsage
  target : Date
  rawUsageStart : Date
  settings : Settings
  tenant : Option String
  zone : Zone
  events : List BillingEvent
  phase : Phase
  deriving DecidableEq, Repr

namespace UsageInterval

def of (database : String → Option Zone) (usage : Usage) (accountId invoiceId : String)
    (rawUsage : List RawUsage) (target rawUsageStart : Date) (settings : Settings)
    (tenant : Option String) : Except SettingsFault UsageInterval := do
  let zone ← settings.zone database
  return { usage, accountId, invoiceId, rawUsage, target, rawUsageStart, settings, tenant, zone
           events := [], phase := .collecting }

def isBuilt (interval : UsageInterval) : Bool :=
  match interval.phase with
  | .built _ => true
  | .collecting => false

def transitions (interval : UsageInterval) : List Date :=
  match interval.phase with
  | .built transitions => transitions
  | .collecting => []

def requireBuilt (interval : UsageInterval) : Except LifecycleFault Unit :=
  if interval.isBuilt then .ok () else .error (.notBuilt interval.usage.name)

def requireCollecting (interval : UsageInterval) : Except LifecycleFault Unit :=
  if interval.isBuilt then .error (.alreadyBuilt interval.usage.name) else .ok ()

def firstEvent (interval : UsageInterval) : Except LifecycleFault BillingEvent :=
  match interval.events with
  | event :: _ => .ok event
  | [] => .error (.noEvent interval.usage.name)

def add (interval : UsageInterval) (event : BillingEvent) : Except LifecycleFault UsageInterval := do
  interval.requireCollecting
  return { interval with events := interval.events ++ [event] }

def localDate (interval : UsageInterval) (event : BillingEvent) : Except Date.Fault Date :=
  event.effective.localDate interval.zone

def describe (interval : UsageInterval) : String :=
  "ContiguousIntervalUsageInArrear(usage=" ++ Text.displayString interval.usage.name ++
    ", state=" ++ (if interval.isBuilt then "BUILT" else "NOT_BUILT") ++
    ", transition_times=" ++ (Yaml.seq (interval.transitions.map Yaml.date)).literal ++
    ", billing_events=" ++ interval.events.length.repr ++
    ", raw_usage=" ++ interval.rawUsage.length.repr ++
    ", raw_usage_start_date=" ++ interval.rawUsageStart.toText ++ ")"

end UsageInterval

end Arrears
