import Arrears.Interval.Build
import Arrears.Pricing.Section
import Arrears.Reconciliation

/-! Billing a built interval. Each pair of transitions gets a marker without an amount; behind the
markers stands what is still to be billed of the usage between them, once earlier items are netted
out. Drafts that were made before a fault are part of the result, as are the units that were
skipped. -/

set_option autoImplicit false

namespace Arrears

/-- What billing made, and when to look at the usage again or why it stopped. -/
structure Billing where
  drafts : List Draft
  skipped : List String
  next : Except Error Date

namespace UsageInterval

def rolledUp (interval : UsageInterval) : Except LifecycleFault (List RolledUsage) := do
  interval.requireBuilt
  let event ← interval.firstEvent
  return Rollup.rollUp interval.transitions interval.rawUsage interval.usage.usageType
    event.subscriptionId

def priceUsed (interval : UsageInterval) (used : List RolledUnit) : Except Error (List Line) := do
  interval.requireBuilt
  let event ← interval.firstEvent
  interval.usage.price used event.currency

def skipped (interval : UsageInterval) (used : List RolledUnit) : List String :=
  if interval.isBuilt then interval.usage.skipped used else []

def skipMessage (interval : UsageInterval) (unit : String) : String :=
  "usage " ++ interval.usage.name ++ ": skipping unit type " ++ unit ++
    " not declared by the usage section"

def draft (interval : UsageInterval) (event : BillingEvent) (start stop : Date) (amount : Decimal)
    (rate : Option Decimal) (quantity details : Json) : Draft where
  itemType := .usage
  invoiceId := .str interval.invoiceId
  accountId := .str interval.accountId
  bundleId := .str event.bundleId
  subscriptionId := .str event.subscriptionId
  planName := .str event.planName
  phaseName := .str event.phaseName
  usageName := .str interval.usage.name
  start := start
  stop := some stop
  amount := amount
  currency := .str event.currency
  rate := rate
  quantity := quantity
  details := details

/-- A marker for each pair of transitions, which the next notification is anchored to. -/
def markers (interval : UsageInterval) (event : BillingEvent) : List Draft :=
  (Rollup.pairs interval.transitions).map fun (start, stop) =>
    interval.draft event start stop .zero none .null .null

/-- The items for the lines of an interval: one with the lines inside, or one per line. -/
def itemsFor (interval : UsageInterval) (event : BillingEvent) (start stop : Date) (amount : Decimal)
    (lines : List Line) : Except BlobFault (List Draft) :=
  match interval.settings.modeFor interval.tenant with
  | .detail =>
    .ok (lines.map fun line =>
      interval.draft event start stop line.amount line.price line.quantity .null)
  | .aggregate => do
    let blob ← Line.writeBlob lines
    return [interval.draft event start stop amount none .null (Item.textOrNull blob)]

def billRolled (interval : UsageInterval) (event : BillingEvent) (existing : List Item)
    (rolled : RolledUsage) : Except Error (List Draft) := do
  let candidates ← interval.priceUsed rolled.units
  let due ← Line.total candidates
  let items := Reconciliation.billedItems interval.usage.name rolled.start rolled.stop existing
  let billed ← Reconciliation.billedAmount items
  if !(← Reconciliation.isNeeded items billed due) then return []
  let lines ← Reconciliation.net items candidates
  let amount ← Line.total lines
  if ← amount.le .zero then return []
  interval.itemsFor event rolled.start rolled.stop amount lines

-- Bills one interval after another up to the first fault.
def billEach (interval : UsageInterval) (event : BillingEvent) (existing : List Item) :
    List RolledUsage → List Draft × List String × Except Error Unit
  | [] => ([], [], .ok ())
  | rolled :: more =>
    let skipped := interval.skipped rolled.units
    match interval.billRolled event existing rolled with
    | .error error => ([], skipped, .error error)
    | .ok drafts =>
      let (others, alsoSkipped, outcome) := interval.billEach event existing more
      (drafts ++ others, skipped ++ alsoSkipped, outcome)

def billFrom (interval : UsageInterval) (event : BillingEvent) (existing : List Item) : Billing :=
  let (drafts, skipped, outcome) := interval.billEach event existing
    (Rollup.rollUp interval.transitions interval.rawUsage interval.usage.usageType
      event.subscriptionId)
  { drafts := interval.markers event ++ drafts
    skipped
    next := outcome.bind fun _ => interval.nextNotification }

def bill (interval : UsageInterval) (existing : List Item) : Billing :=
  match interval.requireBuilt.bind fun _ => interval.firstEvent with
  | .error fault => ⟨[], [], .error (.lifecycle fault)⟩
  | .ok event =>
    if interval.transitions.length < 2 then ⟨[], [], interval.nextNotification⟩
    else interval.billFrom event existing

end UsageInterval

end Arrears
