import Arrears.Interval.Billing

/-! Working on an interval, request by request. A request changes the session as it proceeds: what it
has changed before it fails stays changed, and identifiers that it has used are not used again. -/

set_option autoImplicit false

namespace Arrears

inductive Request where
  | add (event : BillingEvent)
  | build (closed : Bool)
  | rollUp
  | price (rolled : RolledUsage)
  | bill (existing : List Item)
  | next

inductive Reply where
  | done
  | usage (rolled : List RolledUsage)
  | lines (lines : List Line)
  | bill (items : List Item) (next : Date)
  | date (date : Date)

/-- An interval under work: what it is given from the start, the events and transitions it has so far,
whether it counts as built, and how many identifiers have been issued. -/
structure Session where
  given : UsageInterval
  events : List BillingEvent
  transitions : List Date
  isBuilt : Bool
  issued : Nat

abbrev Work := ExceptT Error (StateM Session)

instance : MonadLift (Except Error) Work := ⟨fun outcome => ExceptT.mk (pure outcome)⟩

namespace Session

def start (given : UsageInterval) (issued : Nat) : Session := ⟨given, [], [], false, issued⟩

def interval (session : Session) : UsageInterval :=
  { session.given with
    events := session.events
    phase := if session.isBuilt then .built session.transitions else .collecting }

def add (event : BillingEvent) : Work Unit := do
  let session ← get
  session.interval.requireCollecting
  modify fun session => { session with events := session.events ++ [event] }

def build (closed : Bool) : Work Unit := do
  let session ← get
  let interval := session.interval
  interval.requireCollecting
  if interval.events.length < requiredEvents closed then
    throw (.lifecycle (.tooFewEvents interval.usage.name closed interval.events.length))
  let event ← interval.firstEvent
  let start ← interval.localDate event
  if interval.target < start then
    modify fun session => { session with isBuilt := true }
  else
    let transitions ← interval.transitionsFrom start event.cycleDay closed
    modify fun session => { session with transitions }
    modify fun session => { session with isBuilt := true }

/-- Bills the interval. Each draft takes an identifier when it is made, also if billing stops later. -/
def bill (existing : List Item) : Work (List Item × Date) := do
  let session ← get
  let billing := session.interval.bill existing
  modify fun session => { session with issued := session.issued + billing.drafts.length }
  let next ← billing.next
  return (Item.number session.issued billing.drafts, next)

def perform : Request → Work Reply
  | .add event => do
    add event
    return .done
  | .build closed => do
    build closed
    return .done
  | .rollUp => do
    let session ← get
    let rolled ← session.interval.rolledUp
    return .usage rolled
  | .price rolled => do
    let session ← get
    let lines ← session.interval.priceUsed rolled.units
    return .lines lines
  | .bill existing => do
    let (items, next) ← bill existing
    return .bill items next
  | .next => do
    let session ← get
    let date ← session.interval.nextNotification
    return .date date

def answer (session : Session) (request : Request) : Except Error Reply × Session :=
  (perform request).run session

end Session

structure Exchange where
  request : Request
  before : Session
  outcome : Except Error Reply
  after : Session

namespace Session

def exchange (session : Session) (request : Request) : Exchange :=
  let (outcome, after) := session.answer request
  ⟨request, session, outcome, after⟩

def trace (session : Session) : List Request → List Exchange
  | [] => []
  | request :: requests =>
    let exchange := session.exchange request
    exchange :: exchange.after.trace requests

end Session

end Arrears
