import Arrears.Proofs.Interval.Stepwise

/-! Pairs of transitions are billed apart from each other. What is billed for one pair rests on the
records of its own time and on the items within it; whatever else was used or billed, two runs that
agree on these agree on the bill. An item never counts for two pairs, and one that was billed counts
for its own. -/

set_option autoImplicit false

namespace Arrears

def Draft.under (accountId invoiceId : String) (draft : Draft) : Draft :=
  { draft with accountId := .str accountId, invoiceId := .str invoiceId }

namespace UsageInterval

/-- Two built intervals of one section: with the same events, transitions and form of the items. Raw
usage, account and invoice may differ. -/
structure Beside (one other : UsageInterval) : Prop where
  usage : other.usage = one.usage
  events : other.events = one.events
  transitions : other.transitions = one.transitions
  form : other.settings.modeFor other.tenant = one.settings.modeFor one.tenant

def CountsForOwn (interval : UsageInterval) (item : Item) : Prop :=
  ∃ own ∈ Rollup.pairs interval.transitions, item.toDraft.isFor own.1 own.2 ∧
    ∀ pair ∈ Rollup.pairs interval.transitions,
      Reconciliation.bills interval.usage.name pair.1 pair.2 item ↔ pair = own

variable {interval one other : UsageInterval} {event : BillingEvent} {existing existing' out : List Item}
  {date date' start stop : Date} {rolled : RolledUsage} {drafts : List Draft}

/-! ## The bill of one pair -/

theorem Beside.firstEvent (beside : Beside one other) : other.firstEvent = one.firstEvent := by
  rw [UsageInterval.firstEvent, beside.events, beside.usage, UsageInterval.firstEvent]

theorem itemsFor_under (usage : other.usage = one.usage)
    (form : other.settings.modeFor other.tenant = one.settings.modeFor one.tenant)
    {amount : Decimal} {lines : List Line}
    (made : one.itemsFor event start stop amount lines = .ok drafts) :
    other.itemsFor event start stop amount lines =
      .ok (drafts.map (Draft.under other.accountId other.invoiceId)) := by
  unfold itemsFor draft at made ⊢
  rw [form]
  split at made
  next =>
    cases made
    rw [List.map_map, usage]
    rfl
  next =>
    obtain ⟨blob, written, same⟩ := bind_eq_ok.1 made
    cases same
    rw [usage]
    exact bind_eq_ok.2 ⟨blob, written, rfl⟩

/-- The bill of a pair is a matter of its usage and of the items that count for it. -/
theorem Beside.billRolled (beside : Beside one other) (built : one.isBuilt) (built' : other.isBuilt)
    (same : one.billedBefore existing rolled = one.billedBefore existing' rolled)
    (success : one.billRolled event existing rolled = .ok drafts) :
    other.billRolled event existing' rolled =
      .ok (drafts.map (Draft.under other.accountId other.invoiceId)) := by
  have priced : other.priceUsed rolled.units = one.priceUsed rolled.units := by
    rw [priceUsed, priceUsed, requireBuilt, requireBuilt, if_pos built, if_pos built',
      beside.firstEvent, beside.usage]
  have before : other.billedBefore existing' rolled = one.billedBefore existing rolled := by
    rw [same, billedBefore, billedBefore, beside.usage]
  obtain ⟨candidates, due, billed, priced_one, summed, found, bills⟩ := billRolled_eq_ok.1 success
  refine billRolled_eq_ok.2 ⟨candidates, due, billed, priced.trans priced_one, summed, before ▸ found, ?_⟩
  cases bills with
  | covered asked => exact .covered (before ▸ asked)
  | absorbed asked netted total nothing => exact .absorbed (before ▸ asked) (before ▸ netted) total nothing
  | billed asked netted total something made =>
    exact .billed (before ▸ asked) (before ▸ netted) total something
      (itemsFor_under beside.usage beside.form made)

theorem Beside.refl (interval : UsageInterval) : Beside interval interval := ⟨rfl, rfl, rfl, rfl⟩

theorem Bills.under_own (bills : Bills interval event existing date) {draft : Draft}
    (made : draft ∈ (interval.bill existing).drafts) :
    draft.under interval.accountId interval.invoiceId = draft := by
  rw [bills.drafts] at made
  rcases List.mem_append.1 made with marker | made
  · obtain ⟨pair, _, rfl⟩ := List.mem_map.1 marker
    rfl
  · obtain ⟨rolled, among, made⟩ := List.mem_flatMap.1 made
    have built := bills.ready.built
    have again := (Beside.refl interval).billRolled built built rfl (bills.each rolled among)
    rw [bills.each rolled among] at again
    have same : (interval.rolledDrafts event existing rolled).map
        (Draft.under interval.accountId interval.invoiceId) =
          (interval.rolledDrafts event existing rolled).map id :=
      (Except.ok.inj again).symm.trans (List.map_id _).symm
    exact List.map_inj_left.1 same draft made

theorem rolledFor?_eq (built : interval.isBuilt) (begins : interval.firstEvent = .ok event)
    (increasing : Increasing interval.transitions)
    (chronological : Rollup.Chronological interval.rawUsage)
    (pair : (start, stop) ∈ Rollup.pairs interval.transitions) :
    interval.rolledFor? start stop =
      if (Rollup.within start stop interval.rawUsage).isEmpty then none
      else some ⟨event.subscriptionId, start, stop,
        Rollup.units interval.usage.usageType (Rollup.within start stop interval.rawUsage)⟩ := by
  have usage : interval.usageRolledUp = Rollup.used interval.usage.usageType event.subscriptionId
      interval.rawUsage (Rollup.pairs interval.transitions) := by
    rw [usageRolledUp_eq built begins, Rollup.rollUp_eq chronological increasing]
  split
  next empty =>
    apply List.find?_eq_none.2
    rw [usage]
    intro used member
    obtain ⟨other, among, rfl⟩ := List.mem_map.1 member
    have some_record := (List.mem_filter.1 among).2
    rw [decide_eq_true_eq]
    rintro ⟨rfl, rfl⟩
    rw [empty] at some_record
    nomatch some_record
  next some_record =>
    have member : ⟨event.subscriptionId, start, stop, Rollup.units interval.usage.usageType
        (Rollup.within start stop interval.rawUsage)⟩ ∈ interval.usageRolledUp := by
      rw [usage]
      exact List.mem_map.2 ⟨(start, stop), List.mem_filter.2 ⟨pair, by simpa using some_record⟩, rfl⟩
    exact rolledFor?_eq_some increasing member

theorem Beside.draftsFor (beside : Beside one other) (increasing : Increasing one.transitions)
    (bills : Bills one event existing date) (bills' : Bills other event existing' date')
    (chronological : Rollup.Chronological one.rawUsage)
    (chronological' : Rollup.Chronological other.rawUsage)
    (pair : (start, stop) ∈ Rollup.pairs one.transitions)
    (records : Rollup.within start stop one.rawUsage = Rollup.within start stop other.rawUsage)
    (items : Reconciliation.billedItems one.usage.name start stop existing =
      Reconciliation.billedItems one.usage.name start stop existing') :
    other.draftsFor event existing' start stop =
      (one.draftsFor event existing start stop).map (Draft.under other.accountId other.invoiceId) := by
  have found := rolledFor?_eq bills.ready.built bills.ready.begins increasing chronological pair
  have found' := rolledFor?_eq bills'.ready.built bills'.ready.begins (beside.transitions ▸ increasing)
    chronological' (beside.transitions ▸ pair)
  rw [← records, beside.usage, ← found] at found'
  rw [UsageInterval.draftsFor, UsageInterval.draftsFor, found']
  cases rolled_up : one.rolledFor? start stop with
  | none => rfl
  | some rolled =>
    obtain ⟨member, rfl, rfl⟩ := of_rolledFor?_eq_some rolled_up
    have billed' := beside.billRolled bills.ready.built bills'.ready.built items (bills.each rolled member)
    dsimp only
    rw [rolledDrafts, billed']

/-! ## Items -/

theorem within_of_bills {usageName : String} {item : Item} {itemStop : Date}
    (ends : item.stop = some itemStop) (counts : Reconciliation.bills usageName start stop item) :
    start ≤ item.start ∧ itemStop ≤ stop := by
  rw [Reconciliation.bills, ends, Bool.and_eq_true] at counts
  simpa only [Bool.and_eq_true, decide_eq_true_eq] using counts.2

theorem countP_le_one {α : Type} {before : α → α → Prop} {p : α → Bool} {as : List α}
    (ordered : as.Pairwise before) (apart : ∀ a b, before a b → p a → p b → False) :
    as.countP p ≤ 1 := by
  induction as with
  | nil => exact Nat.zero_le 1
  | cons a as ih =>
    obtain ⟨beyond, ordered⟩ := List.pairwise_cons.1 ordered
    by_cases here : p a
    · have none_later : as.countP p = 0 :=
        List.countP_eq_zero.2 fun b member => apart a b (beyond b member) here
      rw [List.countP_cons_of_pos here, none_later]
    · rw [List.countP_cons_of_neg here]
      exact ih ordered

theorem countP_bills_le {transitions : List Date} (increasing : Increasing transitions)
    (usageName : String) {item : Item} {itemStop : Date} (ends : item.stop = some itemStop)
    (forward : item.start < itemStop) :
    (Rollup.pairs transitions).countP (fun pair => Reconciliation.bills usageName pair.1 pair.2 item) ≤ 1 := by
  apply countP_le_one (Rollup.pairs_disjoint increasing)
  intro pair later apart counts counts_later
  have until_stop := (within_of_bills ends counts).2
  have from_start := (within_of_bills ends counts_later).1
  -- the item would end before it starts
  simp only [Date.le_def, Date.lt_def] at *
  omega

theorem countsForOwn_of_spansPair (increasing : Increasing interval.transitions) {item : Item}
    (spans : interval.SpansPair item) : interval.CountsForOwn item := by
  obtain ⟨start, stop, pair, spans⟩ := spans
  refine ⟨(start, stop), pair, ?_, ?_⟩
  · rw [isFor_of_spans spans]
    exact decide_eq_true ⟨rfl, rfl⟩
  · intro pair' member
    rw [bills_eq_isFor increasing member ⟨start, stop, pair, spans⟩, isFor_of_spans spans,
      decide_eq_true_eq, Prod.ext_iff, eq_comm, @eq_comm _ stop]

/-- Pairs of transitions are billed independently. Two successful runs of one section, each on its own
raw usage and beside its own items, make the same bill for a pair of transitions if the records of
its time and the items within it are the same, each run under its own account and invoice. No item
that takes up time counts for two pairs, and each item that is made counts for its own pair and no
other. -/
theorem billed_apart {fresh : UsageInterval} {closed : Bool} (built : fresh.build closed = .ok one)
    (beside : Beside one other) (chronological : Rollup.Chronological one.rawUsage)
    (chronological' : Rollup.Chronological other.rawUsage)
    (success : (one.bill existing).next = .ok date) (success' : (other.bill existing').next = .ok date') :
    (∃ event billed billed', one.firstEvent = .ok event ∧
        (one.bill existing).drafts = one.markers event ++ billed ∧
        (other.bill existing').drafts = other.markers event ++ billed' ∧
        ∀ start stop, (start, stop) ∈ Rollup.pairs one.transitions →
          Rollup.within start stop one.rawUsage = Rollup.within start stop other.rawUsage →
          Reconciliation.billedItems one.usage.name start stop existing =
            Reconciliation.billedItems one.usage.name start stop existing' →
          billed'.filter (Draft.isFor start stop) =
            (billed.filter (Draft.isFor start stop)).map (Draft.under other.accountId other.invoiceId)) ∧
      (∀ draft ∈ (one.bill existing).drafts, draft.under one.accountId one.invoiceId = draft) ∧
      (∀ (item : Item) (itemStop : Date), item.stop = some itemStop → item.start < itemStop →
        (Rollup.pairs one.transitions).countP (fun pair =>
          Reconciliation.bills one.usage.name pair.1 pair.2 item) ≤ 1) ∧
      (∀ item : Item, item.toDraft ∈ (one.bill existing).drafts → one.CountsForOwn item) ∧
      ∀ item : Item, item.toDraft ∈ (other.bill existing').drafts → other.CountsForOwn item := by
  have increasing := increasing_of_build built
  have increasing' : Increasing other.transitions := beside.transitions ▸ increasing
  obtain ⟨event, bills⟩ := bills_of_success success
  obtain ⟨event', bills'⟩ := bills_of_success success'
  cases Except.ok.inj ((beside.firstEvent.trans bills.ready.begins).symm.trans bills'.ready.begins)
  refine ⟨⟨event, _, _, bills.ready.begins, bills.drafts, bills'.drafts, ?_⟩, ?_, ?_, ?_, ?_⟩
  · intro start stop pair records items
    rw [filter_flatMap (increasing_starts increasing) bills.spans_rolled start stop,
      filter_flatMap (increasing_starts increasing') bills'.spans_rolled start stop]
    exact beside.draftsFor increasing bills bills' chronological chronological' pair records items
  · exact fun draft made => bills.under_own made
  · exact fun item itemStop ends forward => countP_bills_le increasing one.usage.name ends forward
  · exact fun item drafted => countsForOwn_of_spansPair increasing (bills.spansPair_of_mem drafted)
  · exact fun item drafted => countsForOwn_of_spansPair increasing' (bills'.spansPair_of_mem drafted)

end UsageInterval

/-! ## Calls in February

Two runs that differ in the calls of February and in what was paid for them, on invoices of their
own. -/

namespace Calls

def busier : UsageInterval :=
  { builtEnd with
    rawUsage := [⟨january, "minutes", some 25⟩, ⟨february, "minutes", some 70⟩]
    invoiceId := "inv-2" }

def paidFebruary : Item :=
  { builtEnd.draft event february march (.ofInt 3) none .null .null with id := .str "paid" }

theorem january_apart : ∃ billed billed', (builtEnd.bill []).drafts = builtEnd.markers event ++ billed ∧
    (busier.bill [paidFebruary]).drafts = busier.markers event ++ billed' ∧
      billed'.filter (Draft.isFor january february) =
        (billed.filter (Draft.isFor january february)).map (Draft.under "acct-1" "inv-2") := by
  have built : untilEnd.build true = .ok builtEnd := by rfl
  have beside : UsageInterval.Beside builtEnd busier := ⟨rfl, rfl, rfl, rfl⟩
  have chronological : Rollup.Chronological builtEnd.rawUsage := List.pairwise_pair.2 (by decide)
  have chronological' : Rollup.Chronological busier.rawUsage := List.pairwise_pair.2 (by decide)
  obtain ⟨date, success⟩ : ∃ date, (builtEnd.bill []).next = .ok date := ⟨_, rfl⟩
  obtain ⟨date', success'⟩ : ∃ date, (busier.bill [paidFebruary]).next = .ok date := ⟨_, rfl⟩
  obtain ⟨⟨first, billed, billed', begins, drafts, drafts', same⟩, _⟩ :=
    UsageInterval.billed_apart built beside chronological chronological' success success'
  cases Except.ok.inj ((rfl : builtEnd.firstEvent = .ok event).symm.trans begins)
  exact ⟨billed, billed', drafts, drafts', same january february List.mem_cons_self rfl rfl⟩

end Calls

end Arrears
