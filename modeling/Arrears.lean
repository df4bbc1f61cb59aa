import Arrears.Interval.Billing
import Arrears.Journal
import Arrears.Proofs.Decimal.Comparison
import Arrears.Proofs.Decimal.RoundTrip
import Arrears.Proofs.Json.Text
import Arrears.Settings.Sources
import Arrears.Proofs.Json.RoundTrip
import Arrears.Proofs.Json.Exactness
import Arrears.Proofs.Line.Blob
import Arrears.Proofs.Outcome
import Arrears.Proofs.Reconciliation.Netting
import Arrears.Proofs.Reconciliation.Deduction
import Arrears.Proofs.Reconciliation.Lines
import Arrears.Proofs.Pricing.Lines
import Arrears.Proofs.Cycle.Transitions
import Arrears.Proofs.Interval.Step
import Arrears.Proofs.Interval.Run
import Arrears.Proofs.Interval.Outcome
import Arrears.Proofs.Interval.Rerun
import Arrears.Proofs.Interval.History
import Arrears.Proofs.Interval.Totals
import Arrears.Proofs.Json.Contents
import Arrears.Proofs.Json.Halves
import Arrears.Proofs.Line.RoundTrip
import Arrears.Proofs.Interval.Forms
import Arrears.Proofs.Cycle.Bound
import Arrears.Proofs.Cycle.Usage
import Arrears.Proofs.Interval.Chain
import Arrears.Proofs.Decimal.Rounded
import Arrears.Proofs.Interval.Stepwise
import Arrears.Proofs.Cycle.Following
import Arrears.Proofs.Interval.Notification
import Arrears.Interval.Session
import Arrears.Proofs.Interval.Answers
import Arrears.Proofs.Interval.Lifecycle
import Arrears.Proofs.Interval.Apart
import Arrears.Proofs.Interval.Order
import Arrears.Proofs.Cycle.Units
import Arrears.Proofs.Interval.Boundaries
import Arrears.Proofs.Interval.Undeclared
import Arrears.Proofs.Json.Equality
import Arrears.Proofs.Reconciliation.Accounting
import Arrears.Proofs.Pricing.Capacity
import Arrears.Proofs.Pricing.Filling
import Arrears.Proofs.Pricing.Policies
import Arrears.Proofs.Pricing.Growth
import Arrears.Proofs.Cycle.Alignment
import Arrears.Proofs.Cycle.Standing
import Arrears.Proofs.Interval.DueDates
import Arrears.Proofs.Interval.Safety
import Arrears.Proofs.Line.Faults
import Arrears.Proofs.Cycle.Refinement
import Arrears.Proofs.Interval.Shape
import Arrears.Proofs.Interval.Declared
import Arrears.Proofs.Calendar.DateText
import Arrears.Proofs.Item.RoundTrip
import Arrears.Proofs.Settings.NormalForm
import Arrears.Proofs.Settings.Precedence
import Arrears.Proofs.Calendar.LocalDate
import Arrears.Proofs.Journal.Stability
