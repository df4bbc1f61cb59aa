import Arrears.Proofs.Interval.Outcome

/-! Runs one after another over the same section, the same events and the same target. Each run has
usage of its own and its own form of items, and it is given all items that the runs before it issued.
The invariant of such a history is that every item was issued for a pair of transitions. Then a run
adds to what was billed for a pair just what its price leaves when the earlier items are deducted,
and nothing where that is negative. -/

set_option autoImplicit false

namespace Arrears

-- What a run has of its own. All else it shares with the other runs.
structure Run where
  rawUsage : List RawUsage
  settings : Settings
  tenant : Option String
  invoiceId : String

def Run.mode (run : Run) : DetailMode := run.settings.modeFor run.tenant

/-- A run, and the items that were issued for what it drafted. -/
structure Turn extends Run where
  issued : List Item

def itemsOf : List Turn → List Item
  | [] => []
  | turn :: earlier => itemsOf earlier ++ turn.issued

def billedIn (start stop : Date) (turns : List Turn) : ℚ :=
  billedFor start stop ((itemsOf turns).map Item.toDraft)

namespace UsageInterval

def under (interval : UsageInterval) (run : Run) : UsageInterval :=
  { interval with
    rawUsage := run.rawUsage
    settings := run.settings
    tenant := run.tenant
    invoiceId := run.invoiceId }

-- The lines of usage between two transitions add up to its price.
def price (interval : UsageInterval) (used : List RolledUnit) : ℚ :=
  match Line.total (interval.pricedLines used) with
  | .ok amount => amount.value
  | .error _ => 0

def due (interval : UsageInterval) (start stop : Date) : ℚ :=
  match interval.rolledFor? start stop with
  | some rolled => interval.price rolled.units
  | none => 0

def unitsDue (interval : UsageInterval) (start stop : Date) : List Json :=
  match interval.rolledFor? start stop with
  | some rolled => (interval.pricedLines rolled.units).map Line.unit
  | none => []

def deductedFor (interval : UsageInterval) (existing : List Item) (start stop : Date) : ℚ :=
  Reconciliation.totalDeducted (interval.unitsDue start stop)
    (Reconciliation.billedItems interval.usage.name start stop existing)

/-- A history of successful runs whose arithmetic is exact. It begins without items. -/
inductive History (interval : UsageInterval) : List Turn → Prop where
  | start : History interval []
  | next {turn : Turn} {earlier : List Turn} {date : Date} (before : History interval earlier)
      (exact : Decimal.Exact ((interval.under turn.toRun).stakes (itemsOf earlier)))
      (success : ((interval.under turn.toRun).bill (itemsOf earlier)).next = .ok date)
      (issued : Issued ((interval.under turn.toRun).bill (itemsOf earlier)).drafts turn.issued) :
      History interval (turn :: earlier)

-- Building asks for nothing that a run has of its own, so all runs of a history have one and the
-- same transitions.
theorem build_under {fresh interval : UsageInterval} {closed : Bool}
    (built : fresh.build closed = .ok interval) (run : Run) :
    (fresh.under run).build closed = .ok (interval.under run) := by
  obtain ⟨_, collecting, rest⟩ := bind_eq_ok.1 built
  refine bind_eq_ok.2 ⟨(), collecting, ?_⟩
  dsimp only at rest ⊢
  split at rest
  next => cases rest
  next enough =>
    obtain ⟨event, begins, rest⟩ := bind_eq_ok.1 rest
    obtain ⟨start, first, rest⟩ := bind_eq_ok.1 rest
    refine (if_neg enough).trans (bind_eq_ok.2 ⟨event, begins, ?_⟩)
    refine bind_eq_ok.2 ⟨start, first, ?_⟩
    split at rest
    next early =>
      cases rest
      exact if_pos early
    next late =>
      obtain ⟨transitions, found, same⟩ := bind_eq_ok.1 rest
      cases same
      exact (if_neg late).trans (bind_eq_ok.2 ⟨transitions, found, rfl⟩)

/-! ## One run -/

section

variable {interval : UsageInterval} {event : BillingEvent} {existing : List Item} {date : Date}
  {places : Nat} {rolled : RolledUsage} (run : ExactRun places interval existing)
  (bills : Bills interval event existing date)

include run bills

theorem ExactRun.price_eq (member : rolled ∈ interval.usageRolledUp) :
    interval.price rolled.units =
      Decimal.total ((interval.pricedLines rolled.units).map Line.amount) := by
  obtain ⟨amount, summed, _, value⟩ :=
    total_candidates run.few (run.measured member (bills.each rolled member)).toCharged
  rw [price, summed]
  exact value

-- Whether earlier items cover the price is asked by what they billed, which is no more than what
-- is deducted for them. So the answer changes nothing.
theorem ExactRun.total_rolledDrafts (member : rolled ∈ interval.usageRolledUp)
    (balanced : ∀ item ∈ interval.billedBefore existing rolled, item.Balanced) :
    Decimal.total ((interval.rolledDrafts event existing rolled).map Draft.amount) =
      max 0 (interval.price rolled.units -
        Reconciliation.totalDeducted ((interval.pricedLines rolled.units).map Line.unit)
          (interval.billedBefore existing rolled)) := by
  have deducted := Reconciliation.totalBilled_le_totalDeducted
    ((interval.pricedLines rolled.units).map Line.unit) balanced
  rw [run.price_eq bills member]
  rcases run.outcome bills member with ⟨none, settled⟩ | ⟨_, _, left, drafted⟩
  · rw [none, List.map_nil, Decimal.total_nil, max_eq_left]
    rcases settled with ⟨_, covered⟩ | ⟨_, nothing⟩
    · linarith
    · exact nothing
  · rw [drafted.value, rest, max_eq_right]
    exact left.le

theorem ExactRun.billedFor_eq {start stop : Date}
    (pair : (start, stop) ∈ Rollup.pairs interval.transitions) :
    billedFor start stop (interval.bill existing).drafts =
      Decimal.total ((interval.draftsFor event existing start stop).map Draft.amount) := by
  rw [billedFor, bills.filter_drafts run.increasing pair, List.map_cons, Decimal.total_cons]
  exact (congrArg (· + _) Decimal.value_zero).trans (zero_add _)

theorem ExactRun.billedFor_rolled (member : rolled ∈ interval.usageRolledUp)
    (balanced : ∀ item ∈ interval.billedBefore existing rolled, item.Balanced) :
    billedFor rolled.start rolled.stop (interval.bill existing).drafts =
      max 0 (interval.price rolled.units -
        Reconciliation.totalDeducted ((interval.pricedLines rolled.units).map Line.unit)
          (interval.billedBefore existing rolled)) := by
  have pair := interval.usageRolledUp_sublist.subset (List.mem_map_of_mem member)
  rw [run.billedFor_eq bills pair, draftsFor, rolledFor?_eq_some run.increasing member]
  exact run.total_rolledDrafts bills member balanced

end

/-! ## All runs -/

section

variable {interval : UsageInterval} {turn : Turn} {turns earlier : List Turn} {start stop : Date}

theorem billedIn_cons (start stop : Date) (turn : Turn) (earlier : List Turn) :
    billedIn start stop (turn :: earlier) =
      billedIn start stop earlier + billedFor start stop (turn.issued.map Item.toDraft) := by
  simp only [billedIn, billedFor, itemsOf, List.map_append, List.filter_append, Decimal.total_append]

theorem History.before (history : History interval (turn :: earlier)) : History interval earlier := by
  cases history with
  | next before _ _ _ => exact before

-- What holds of all histories holds after each of their runs.
theorem History.suffix (history : History interval turns) (suffix : earlier <:+ turns) :
    History interval earlier := by
  obtain ⟨later, rfl⟩ := suffix
  induction later with
  | nil => exact history
  | cons turn later ih => exact ih history.before

variable (increasing : Increasing interval.transitions) (wellPriced : interval.usage.WellPriced)

include increasing wellPriced

theorem History.issuedFor (history : History interval turns) :
    ∀ item ∈ itemsOf turns, interval.IssuedFor item ∧ item.WellFormed := by
  induction history with
  | start => exact List.forall_mem_nil _
  | @next turn earlier date before exact success issued ih =>
    have formed : ∀ item ∈ itemsOf earlier, item.WellFormed := fun item member => (ih item member).2
    obtain ⟨places, run⟩ := @exactRun_of (interval.under turn.toRun) _ increasing wellPriced formed exact
    obtain ⟨event, bills⟩ := bills_of_success success
    exact List.forall_mem_append.2 ⟨ih, run.issuedFor bills issued⟩

theorem History.run (history : History interval (turn :: earlier)) :
    ∃ places event date, ExactRun places (interval.under turn.toRun) (itemsOf earlier) ∧
      Bills (interval.under turn.toRun) event (itemsOf earlier) date ∧
      Issued ((interval.under turn.toRun).bill (itemsOf earlier)).drafts turn.issued := by
  have items := history.before.issuedFor increasing wellPriced
  have formed : ∀ item ∈ itemsOf earlier, item.WellFormed := fun item member => (items item member).2
  cases history with
  | @next _ _ date before exact success issued =>
    obtain ⟨places, run⟩ := @exactRun_of (interval.under turn.toRun) _ increasing wellPriced formed exact
    obtain ⟨event, bills⟩ := bills_of_success success
    exact ⟨places, event, date, run, bills, issued⟩

theorem History.balanced (history : History interval turns) (start stop : Date) :
    ∀ item ∈ Reconciliation.billedItems interval.usage.name start stop (itemsOf turns),
      item.Balanced := by
  intro item member
  obtain ⟨⟨_, _, _, fits⟩, _⟩ :=
    history.issuedFor increasing wellPriced item (List.mem_filter.1 member).1
  exact fits.balanced

variable (pair : (start, stop) ∈ Rollup.pairs interval.transitions)

include pair

-- For a pair of transitions just those items count that were issued for it.
theorem History.totalBilled_eq (history : History interval turns) :
    Reconciliation.totalBilled
      (Reconciliation.billedItems interval.usage.name start stop (itemsOf turns)) =
        billedIn start stop turns := by
  have issued := fun item member => (history.issuedFor increasing wellPriced item member).1.spansPair
  rw [Reconciliation.totalBilled_eq, map_billedItems increasing pair issued, billedIn, billedFor]

/-- At least what was billed before is deducted. -/
theorem History.billedIn_le (history : History interval earlier) (run : Run) :
    billedIn start stop earlier ≤ (interval.under run).deductedFor (itemsOf earlier) start stop := by
  have balanced := history.balanced increasing wellPriced start stop
  rw [← history.totalBilled_eq increasing wellPriced pair]
  exact Reconciliation.totalBilled_le_totalDeducted _ balanced

/-- Just what was billed before is deducted if no line of a unit that has a price is negative. -/
theorem History.deductedFor_eq_iff (history : History interval earlier) (run : Run) :
    (interval.under run).deductedFor (itemsOf earlier) start stop = billedIn start stop earlier ↔
      ∀ item ∈ Reconciliation.billedItems interval.usage.name start stop (itemsOf earlier),
        Reconciliation.Unsigned ((interval.under run).unitsDue start stop) item.toDraft := by
  have balanced := history.balanced increasing wellPriced start stop
  rw [← history.totalBilled_eq increasing wellPriced pair]
  exact Reconciliation.totalDeducted_eq_iff _ balanced

-- Without usage between the transitions there is no price, and what was billed before is no less.
theorem History.billedFor_issued (history : History interval (turn :: earlier))
    (nonneg : 0 ≤ billedIn start stop earlier) :
    billedFor start stop (turn.issued.map Item.toDraft) =
      max 0 ((interval.under turn.toRun).due start stop -
        (interval.under turn.toRun).deductedFor (itemsOf earlier) start stop) := by
  obtain ⟨places, event, date, run, bills, issued⟩ := history.run increasing wellPriced
  have balanced := history.before.balanced increasing wellPriced start stop
  have deducted := history.before.billedIn_le increasing wellPriced pair turn.toRun
  rw [issued.drafts, run.billedFor_eq bills pair]
  rw [deductedFor, unitsDue] at deducted ⊢
  rw [draftsFor, due]
  cases found : (interval.under turn.toRun).rolledFor? start stop with
  | none =>
    rw [found] at deducted
    dsimp only at deducted ⊢
    rw [List.map_nil, Decimal.total_nil, max_eq_left]
    linarith
  | some rolled =>
    obtain ⟨member, rfl, rfl⟩ := of_rolledFor?_eq_some found
    exact run.total_rolledDrafts bills member balanced

theorem History.billedIn_nonneg (history : History interval turns) : 0 ≤ billedIn start stop turns := by
  induction turns with
  | nil => exact le_refl _
  | cons turn earlier ih =>
    have nonneg := ih history.before
    rw [billedIn_cons, history.billedFor_issued increasing wellPriced pair nonneg]
    exact add_nonneg nonneg (le_max_left _ _)

/-- One more run adds what its price leaves when the earlier items are deducted. -/
theorem History.billedIn_next (history : History interval (turn :: earlier)) :
    billedIn start stop (turn :: earlier) = billedIn start stop earlier +
      max 0 ((interval.under turn.toRun).due start stop -
        (interval.under turn.toRun).deductedFor (itemsOf earlier) start stop) := by
  have nonneg := history.before.billedIn_nonneg increasing wellPriced pair
  rw [billedIn_cons, history.billedFor_issued increasing wellPriced pair nonneg]

end

end UsageInterval

/-! ## Calls, run after run -/

namespace Calls

open UsageInterval

def run (minutes : Int) (mode : DetailMode) : Run where
  rawUsage := [⟨january, "minutes", some minutes⟩]
  settings := { mode }
  tenant := none
  invoiceId := "inv-1"

def detailed : UsageInterval := interval.under (run 25 .detail)

theorem build_detailed : (collecting.under (run 25 .detail)).build false = .ok detailed :=
  build_under build_collecting _

def rolled (minutes : Int) : RolledUsage := ⟨"sub-1", january, february, [⟨"minutes", minutes⟩]⟩

def turn (minutes : Int) (mode : DetailMode) (earlier : List Turn) : Turn where
  toRun := run minutes mode
  issued := Item.number (itemsOf earlier).length
    ((interval.under (run minutes mode)).bill (itemsOf earlier)).drafts

theorem history_turn {minutes : Int} {mode : DetailMode} {earlier : List Turn} {stakes : List Int}
    (before : interval.History earlier)
    (whole : (interval.under (run minutes mode)).stakes (itemsOf earlier) = stakes.map Decimal.ofInt)
    (small : (stakes.map Int.natAbs).sum < 10 ^ 27)
    (success : ((interval.under (run minutes mode)).bill (itemsOf earlier)).next = .ok march) :
    interval.History (turn minutes mode earlier :: earlier) := by
  refine .next before ?_ success (Issued.number _ _)
  rw [turn, whole]
  exact Decimal.exact_ofInt small

def first : Turn := turn 25 .detail []
def second : Turn := turn 35 .aggregate [first]

theorem history_first : interval.History [first] :=
  @history_turn _ _ _ [2, 2] .start (by rfl) (by decide) (by rfl)

theorem history_second : interval.History [second, first] :=
  @history_turn _ _ _ [2, 4, 0, 2, 2] history_first (by rfl) (by decide) (by rfl)

end Calls

end Arrears
