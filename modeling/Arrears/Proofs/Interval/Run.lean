import Arrears.Proofs.Cycle.Transitions
import Arrears.Proofs.Interval.Step
import Mathlib.Data.List.Count

/-! A whole run of billing. Its drafts are the markers and, for each pair of transitions with usage,
what billing that usage makes. The pairs do not overlap, so the drafts for one pair are its marker
and its own bill, and the earlier items that count for it are those that were issued for it. -/

set_option autoImplicit false

namespace Arrears

def Draft.isFor (start stop : Date) (draft : Draft) : Bool :=
  decide (draft.start = start ∧ draft.stop = some stop)

def billedFor (start stop : Date) (drafts : List Draft) : ℚ :=
  Decimal.total ((drafts.filter (Draft.isFor start stop)).map Draft.amount)

structure Issued (drafts : List Draft) (items : List Item) : Prop where
  drafts : items.map Item.toDraft = drafts
  ids : ∀ item ∈ items, item.id.hasFloat = false

theorem Issued.number (issued : Nat) (drafts : List Draft) : Issued drafts (Item.number issued drafts) := by
  induction drafts generalizing issued with
  | nil => exact ⟨rfl, List.forall_mem_nil _⟩
  | cons draft drafts ih =>
    obtain ⟨same, ids⟩ := ih (issued + 1)
    refine ⟨?_, List.forall_mem_cons.2 ⟨rfl, ids⟩⟩
    rw [Item.number, List.map_cons, same]

namespace UsageInterval

def pricedLines (interval : UsageInterval) (used : List RolledUnit) : List Line :=
  match interval.priceUsed used with
  | .ok lines => lines
  | .error _ => []

def usageRolledUp (interval : UsageInterval) : List RolledUsage :=
  match interval.rolledUp with
  | .ok rolled => rolled
  | .error _ => []

/-- All amounts that a run can touch: the priced lines, and the stakes of the earlier items. -/
def stakes (interval : UsageInterval) (existing : List Item) : List Decimal :=
  (interval.usageRolledUp.flatMap fun rolled =>
    (interval.pricedLines rolled.units).map Line.amount) ++ Reconciliation.stakes existing

def rolledDrafts (interval : UsageInterval) (event : BillingEvent) (existing : List Item)
    (rolled : RolledUsage) : List Draft :=
  match interval.billRolled event existing rolled with
  | .ok drafts => drafts
  | .error _ => []

variable {interval : UsageInterval} {event : BillingEvent} {existing : List Item} {date : Date}

theorem billEach_eq_ok {rolled : List RolledUsage}
    (success : (interval.billEach event existing rolled).2.2 = .ok ()) :
    (interval.billEach event existing rolled).1 =
        rolled.flatMap (interval.rolledDrafts event existing) ∧
      ∀ usage ∈ rolled, interval.billRolled event existing usage =
        .ok (interval.rolledDrafts event existing usage) := by
  induction rolled with
  | nil => exact ⟨rfl, List.forall_mem_nil _⟩
  | cons usage more ih =>
    unfold billEach at success ⊢
    cases billed : interval.billRolled event existing usage with
    | error error =>
      rw [billed] at success
      cases success
    | ok drafts =>
      have own : interval.rolledDrafts event existing usage = drafts := by
        rw [rolledDrafts, billed]
      rw [billed] at success
      obtain ⟨others, rest⟩ := ih success
      refine ⟨?_, List.forall_mem_cons.2 ⟨?_, rest⟩⟩
      · rw [List.flatMap_cons, own, ← others]
      · rw [own, billed]

theorem billEach_append {rolled : List RolledUsage} (more : List RolledUsage)
    {made : RolledUsage → List Draft}
    (each : ∀ usage ∈ rolled, interval.billRolled event existing usage = .ok (made usage)) :
    (interval.billEach event existing (rolled ++ more)).1 =
        rolled.flatMap made ++ (interval.billEach event existing more).1 ∧
      (interval.billEach event existing (rolled ++ more)).2.2 =
        (interval.billEach event existing more).2.2 := by
  induction rolled with
  | nil => exact ⟨rfl, rfl⟩
  | cons usage rolled ih =>
    obtain ⟨first, rest⟩ := List.forall_mem_cons.1 each
    obtain ⟨drafts, outcome⟩ := ih rest
    rw [List.cons_append, billEach, first]
    dsimp only
    rw [drafts, List.flatMap_cons, List.append_assoc]
    exact ⟨rfl, outcome⟩

theorem billEach_of_ok {rolled : List RolledUsage} {made : RolledUsage → List Draft}
    (each : ∀ usage ∈ rolled, interval.billRolled event existing usage = .ok (made usage)) :
    (interval.billEach event existing rolled).1 = rolled.flatMap made ∧
      (interval.billEach event existing rolled).2.2 = .ok () := by
  obtain ⟨drafts, outcome⟩ := billEach_append [] each
  rw [List.append_nil] at drafts outcome
  exact ⟨drafts.trans (List.append_nil _), outcome⟩

theorem billEach_congr {rolled : List RolledUsage} {other : List Item}
    (each : ∀ usage ∈ rolled, interval.billRolled event existing usage = interval.billRolled event other usage) :
    interval.billEach event existing rolled = interval.billEach event other rolled := by
  induction rolled with
  | nil => rfl
  | cons usage rolled ih =>
    obtain ⟨first, rest⟩ := List.forall_mem_cons.1 each
    rw [billEach, billEach, first, ih rest]

structure Ready (interval : UsageInterval) (event : BillingEvent) (date : Date) : Prop where
  built : interval.isBuilt = true
  begins : interval.firstEvent = .ok event
  next : interval.nextNotification = .ok date

theorem usageRolledUp_eq (built : interval.isBuilt = true) (begins : interval.firstEvent = .ok event) :
    interval.usageRolledUp = Rollup.rollUp interval.transitions interval.rawUsage
      interval.usage.usageType event.subscriptionId := by
  have built : interval.requireBuilt = .ok () := if_pos built
  simp only [usageRolledUp, rolledUp, built, begins, bind, Except.bind, pure, Except.pure]

theorem dueDates_congr {other : UsageInterval}
    (same : ∀ event following, other.dueDate event following = interval.dueDate event following)
    (events : List BillingEvent) : other.dueDates events = interval.dueDates events := by
  induction events with
  | nil => rfl
  | cons event events ih => rw [dueDates, dueDates, same, ih]

-- With fewer than two transitions there are neither pairs nor usage between them.
theorem pairs_of_few {dates : List Date} (short : dates.length < 2) : Rollup.pairs dates = [] := by
  match dates, short with
  | [], _ => rfl
  | [_], _ => rfl

theorem usageRolledUp_sublist (interval : UsageInterval) :
    (interval.usageRolledUp.map fun rolled => (rolled.start, rolled.stop)).Sublist
      (Rollup.pairs interval.transitions) := by
  unfold usageRolledUp
  split
  next rolled found =>
    obtain ⟨_, _, rest⟩ := bind_eq_ok.1 found
    obtain ⟨event, _, same⟩ := bind_eq_ok.1 rest
    cases same
    exact Rollup.rollUp_sublist _ _ _ _
  next => exact List.nil_sublist _

theorem usageRolledUp_of_few (short : interval.transitions.length < 2) :
    interval.usageRolledUp = [] := by
  have sublist := interval.usageRolledUp_sublist
  rw [pairs_of_few short, List.sublist_nil] at sublist
  exact List.map_eq_nil_iff.1 sublist

theorem bill_of_built (existing : List Item) (built : interval.isBuilt = true)
    (begins : interval.firstEvent = .ok event) :
    (interval.bill existing).drafts = interval.markers event ++
        (interval.billEach event existing interval.usageRolledUp).1 ∧
      (interval.bill existing).next =
        (interval.billEach event existing interval.usageRolledUp).2.2.bind fun _ =>
          interval.nextNotification := by
  have opened : interval.requireBuilt.bind (fun _ => interval.firstEvent) = .ok event :=
    bind_eq_ok.2 ⟨(), if_pos built, begins⟩
  unfold bill
  rw [opened]
  dsimp only
  -- a run that stops at too few transitions gives what the long way would give
  by_cases short : interval.transitions.length < 2
  · rw [if_pos short, usageRolledUp_of_few short, markers, pairs_of_few short]
    exact ⟨rfl, rfl⟩
  · rw [if_neg short, billFrom, ← usageRolledUp_eq built begins]
    exact ⟨rfl, rfl⟩

theorem bill_of_ready (existing : List Item) (ready : Ready interval event date) :
    (interval.bill existing).drafts = interval.markers event ++
        (interval.billEach event existing interval.usageRolledUp).1 ∧
      (interval.bill existing).next =
        (interval.billEach event existing interval.usageRolledUp).2.2.bind fun _ => .ok date := by
  rw [← ready.next]
  exact bill_of_built existing ready.built ready.begins

theorem ready_of_bill (success : (interval.bill existing).next = .ok date) :
    ∃ event, Ready interval event date := by
  unfold bill at success
  split at success
  next => cases success
  next event opened =>
    obtain ⟨_, built, begins⟩ := bind_eq_ok.1 opened
    have next : interval.nextNotification = .ok date := by
      split at success
      · exact success
      · obtain ⟨_, _, next⟩ := bind_eq_ok.1 success
        exact next
    have built : interval.isBuilt = true := by
      by_contra unbuilt
      rw [requireBuilt, if_neg unbuilt] at built
      cases built
    exact ⟨event, built, begins, next⟩

/-- A successful run: the interval is ready, and the usage between each two transitions is billed. -/
structure Bills (interval : UsageInterval) (event : BillingEvent) (existing : List Item) (date : Date) :
    Prop where
  ready : Ready interval event date
  drafts : (interval.bill existing).drafts = interval.markers event ++
    interval.usageRolledUp.flatMap (interval.rolledDrafts event existing)
  each : ∀ rolled ∈ interval.usageRolledUp, interval.billRolled event existing rolled =
    .ok (interval.rolledDrafts event existing rolled)

theorem bills_of_success (success : (interval.bill existing).next = .ok date) :
    ∃ event, Bills interval event existing date := by
  obtain ⟨event, ready⟩ := ready_of_bill success
  obtain ⟨drafts, next⟩ := bill_of_ready existing ready
  rw [success] at next
  obtain ⟨_, outcome, _⟩ := bind_eq_ok.1 next.symm
  obtain ⟨made, each⟩ := billEach_eq_ok outcome
  exact ⟨event, ready, made ▸ drafts, each⟩

/-- A run gives the markers and what billing the usage between each two transitions makes. -/
theorem bill_of_each {made : RolledUsage → List Draft} (ready : Ready interval event date)
    (each : ∀ rolled ∈ interval.usageRolledUp,
      interval.billRolled event existing rolled = .ok (made rolled)) :
    (interval.bill existing).next = .ok date ∧
      (interval.bill existing).drafts = interval.markers event ++ interval.usageRolledUp.flatMap made := by
  obtain ⟨drafts, next⟩ := bill_of_ready existing ready
  obtain ⟨all, outcome⟩ := billEach_of_ok each
  rw [all] at drafts
  rw [outcome] at next
  exact ⟨next, drafts⟩

/-- Where nothing is left for any pair of transitions, a run gives the markers alone. -/
theorem bill_markers (ready : Ready interval event date)
    (each : ∀ rolled ∈ interval.usageRolledUp, interval.billRolled event existing rolled = .ok []) :
    (interval.bill existing).next = .ok date ∧
      (interval.bill existing).drafts = interval.markers event := by
  obtain ⟨next, drafts⟩ := bill_of_each ready each
  rw [List.flatMap_eq_nil_iff.2 fun _ _ => rfl, List.append_nil] at drafts
  exact ⟨next, drafts⟩

end UsageInterval

/-! ## Calls

A section to try billing on: minutes of calls by the month, in blocks of ten. The first two blocks
cost 1 each, and all others 2 each. -/

namespace Calls

def block (max price : Int) : TieredBlock := ⟨"minutes", 10, max, [("USD", .ofInt price)], by decide⟩

def tier (max price : Int) : Tier := ⟨[], [block max price], []⟩

def usage : Usage where
  name := "calls"
  usageType := .consumable
  period := .monthly
  mode := .inArrear
  policy := .allTiers
  tiers := [tier 2 1, tier unlimited 2]

theorem wellPriced_tier {price : Int} (representable : (Decimal.ofInt price).Representable) (max : Int) :
    (tier max price).WellPriced where
  recurring := List.forall_mem_nil _
  blocks := by
    have priced : (block max price).WellPriced :=
      List.forall_mem_cons.2 ⟨representable, List.forall_mem_nil _⟩
    exact List.forall_mem_cons.2 ⟨priced, List.forall_mem_nil _⟩

theorem wellPriced_usage : usage.WellPriced := by
  have dearer := wellPriced_tier (by decide : (Decimal.ofInt 2).Representable) unlimited
  have cheaper := wellPriced_tier (by decide : (Decimal.ofInt 1).Representable) 2
  exact List.forall_mem_cons.2 ⟨cheaper, List.forall_mem_cons.2 ⟨dearer, List.forall_mem_nil _⟩⟩

def january : Date := ⟨738886, by decide, by decide⟩
def february : Date := ⟨738917, by decide, by decide⟩
def march : Date := ⟨738946, by decide, by decide⟩

def event : BillingEvent := ⟨.day january, 1, "plan", "phase", "USD", "sub-1", "bundle-1"⟩

def collecting : UsageInterval where
  usage := usage
  accountId := "acct-1"
  invoiceId := "inv-1"
  rawUsage := [⟨january, "minutes", some 25⟩]
  target := february
  rawUsageStart := january
  settings := {}
  tenant := none
  zone := .universal
  events := [event]
  phase := .collecting

def interval : UsageInterval := { collecting with phase := .built [january, february] }

theorem build_collecting : collecting.build false = .ok interval := by rfl

def paid (amount : Int) : Item :=
  { interval.draft event january february (.ofInt amount) none .null .null with id := .str "paid" }

theorem wellFormed_paid (amount : Int) : (paid amount).WellFormed where
  quantity := trivial
  rate := nofun
  id := rfl

end Calls

end Arrears
