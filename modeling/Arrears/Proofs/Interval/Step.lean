import Arrears.Interval.Billing
import Arrears.Proofs.Decimal.Comparison
import Arrears.Proofs.Pricing.Lines
import Arrears.Proofs.Reconciliation.Lines
import Arrears.Proofs.Reconciliation.Order

/-! Billing the usage between two transitions, without rounding. With a price `due`, earlier items
that billed `billed` and for which `deducted` is taken off, there is nothing to bill if earlier
items cover the price or the deduction does; else the drafts come to the price less the deduction. -/

set_option autoImplicit false

namespace Arrears

structure Draft.Spans (usageName : String) (start stop : Date) (draft : Draft) : Prop where
  itemType : draft.itemType = .usage
  usageName : draft.usageName = .str usageName
  start : draft.start = start
  stop : draft.stop = some stop

-- What billing makes for one section and one pair of dates. An item issued for such a draft is
-- found again for its own pair, its blob can be read, and its lines sum up to its amount.
structure Draft.Fits (usageName : String) (start stop : Date) (draft : Draft) : Prop
    extends draft.Spans usageName start stop where
  formed : draft.WellFormed
  balanced : draft.Balanced
  readable : ∃ read, Line.readBlob draft.details = .ok read

/-- Drafts that come to an amount and stake no more than a bound. -/
structure Drafted (places : Nat) (usageName : String) (start stop : Date) (amount bound : ℚ)
    (drafts : List Draft) : Prop where
  fits : ∀ draft ∈ drafts, draft.Fits usageName start stop
  placed : ∀ amount ∈ drafts.flatMap Draft.stakes, amount.HasPlaces places
  value : Decimal.total (drafts.map Draft.amount) = amount
  size : Decimal.size (drafts.flatMap Draft.stakes) ≤ bound

theorem Drafted.mono {places : Nat} {usageName : String} {start stop : Date} {amount bound more : ℚ}
    {drafts : List Draft} (drafted : Drafted places usageName start stop amount bound drafts)
    (larger : bound ≤ more) : Drafted places usageName start stop amount more drafts :=
  { drafted with size := drafted.size.trans larger }

theorem lines_of_null {draft : Draft} (none : draft.details = .null) : draft.lines = [] := by
  rw [Draft.lines, none]
  rfl

namespace UsageInterval

variable {interval : UsageInterval} {event : BillingEvent}

/-! ## Drafts -/

theorem spans_draft (interval : UsageInterval) (event : BillingEvent) (start stop : Date)
    (amount : Decimal) (rate : Option Decimal) (quantity details : Json) :
    (interval.draft event start stop amount rate quantity details).Spans interval.usage.name start stop :=
  ⟨rfl, rfl, rfl, rfl⟩

theorem lines_detail {start stop : Date} {amount : Decimal} {rate : Option Decimal} {quantity : Json} :
    (interval.draft event start stop amount rate quantity .null).lines = [] :=
  lines_of_null rfl

theorem fits_detail {start stop : Date} {amount : Decimal} {rate : Option Decimal} {quantity : Json}
    (count : quantity.IsCount) (representable : ∀ d, rate = some d → d.Representable) :
    (interval.draft event start stop amount rate quantity .null).Fits interval.usage.name start stop where
  toSpans := spans_draft interval event start stop _ _ _ _
  formed := ⟨count, representable⟩
  balanced := .inl lines_detail
  readable := ⟨none, rfl⟩

theorem detail_drafted {places : Nat} {start stop : Date} {lines : List Line}
    (sound : ∀ line ∈ lines, line.Sound) (placed : ∀ line ∈ lines, line.amount.HasPlaces places) :
    Drafted places interval.usage.name start stop (Decimal.total (lines.map Line.amount))
      (Decimal.size (lines.map Line.amount))
      (lines.map fun line => interval.draft event start stop line.amount line.price line.quantity .null) := by
  have staked : (lines.map fun line => interval.draft event start stop line.amount line.price
      line.quantity .null).flatMap Draft.stakes = lines.map Line.amount := by
    induction lines with
    | nil => rfl
    | cons line lines ih =>
      obtain ⟨_, sound⟩ := List.forall_mem_cons.1 sound
      obtain ⟨_, placed⟩ := List.forall_mem_cons.1 placed
      rw [List.map_cons, List.flatMap_cons, ih sound placed, Draft.stakes, lines_detail]
      rfl
  refine ⟨?_, ?_, ?_, ?_⟩
  · intro draft member
    obtain ⟨line, among, rfl⟩ := List.mem_map.1 member
    exact fits_detail (sound line among).quantity (sound line among).price
  · rw [staked]
    exact List.forall_mem_map.2 placed
  · rw [List.map_map]
    rfl
  · rw [staked]

-- Whether there is a blob or not, its lines have the amounts of those that were billed.
theorem lines_aggregate (interval : UsageInterval) (event : BillingEvent) (start stop : Date)
    (amount : Decimal) {lines : List Line} {blob : Option String} (sound : ∀ line ∈ lines, line.Sound)
    (written : Line.writeBlob lines = .ok blob) :
    (∃ read, Line.readBlob (Item.textOrNull blob) = .ok read) ∧
      (interval.draft event start stop amount none .null (Item.textOrNull blob)).lines.map Line.amount =
        lines.map Line.amount := by
  cases blob with
  | none =>
    cases Line.eq_nil_of_writeBlob written
    exact ⟨⟨none, rfl⟩, congrArg _ lines_detail⟩
  | some text =>
    have read := Line.readBlob_writeBlob sound written
    refine ⟨⟨_, read⟩, ?_⟩
    rw [Draft.lines]
    simp only [draft, Item.textOrNull, read, List.map_map]
    rfl

theorem aggregate_drafted {places : Nat} {start stop : Date} {lines : List Line} {amount : Decimal}
    {blob : Option String} (sound : ∀ line ∈ lines, line.Sound)
    (placed : ∀ line ∈ lines, line.amount.HasPlaces places) (amount_placed : amount.HasPlaces places)
    (summed : amount.value = Decimal.total (lines.map Line.amount))
    (written : Line.writeBlob lines = .ok blob) :
    Drafted places interval.usage.name start stop (Decimal.total (lines.map Line.amount))
      (2 * Decimal.size (lines.map Line.amount))
      [interval.draft event start stop amount none .null (Item.textOrNull blob)] := by
  obtain ⟨readable, amounts⟩ := lines_aggregate interval event start stop amount sound written
  have staked : [interval.draft event start stop amount none .null (Item.textOrNull blob)].flatMap
      Draft.stakes = amount :: lines.map Line.amount := by
    rw [List.flatMap_singleton, Draft.stakes, amounts]
    rfl
  refine ⟨?_, ?_, ?_, ?_⟩
  · have unrated : ∀ d, (none : Option Decimal) = some d → d.Representable := by
      intro d same
      cases same
    refine List.forall_mem_cons.2 ⟨?_, List.forall_mem_nil _⟩
    exact {
      toSpans := spans_draft interval event start stop _ _ _ _
      formed := ⟨trivial, unrated⟩
      balanced := .inr (by rw [amounts]; exact summed.symm)
      readable }
  · rw [staked]
    exact List.forall_mem_cons.2 ⟨amount_placed, List.forall_mem_map.2 placed⟩
  · rw [List.map_singleton, Decimal.total_cons, Decimal.total_nil, add_zero]
    exact summed
  · have bound := Decimal.abs_total_le (lines.map Line.amount)
    rw [staked, Decimal.size_cons, summed]
    linarith

theorem itemsFor_drafted {places : Nat} {start stop : Date} {lines : List Line} {amount : Decimal}
    {drafts : List Draft} (sound : ∀ line ∈ lines, line.Sound)
    (placed : ∀ line ∈ lines, line.amount.HasPlaces places) (amount_placed : amount.HasPlaces places)
    (summed : amount.value = Decimal.total (lines.map Line.amount))
    (made : interval.itemsFor event start stop amount lines = .ok drafts) :
    Drafted places interval.usage.name start stop (Decimal.total (lines.map Line.amount))
      (2 * Decimal.size (lines.map Line.amount)) drafts := by
  have nonneg := Decimal.size_nonneg (lines.map Line.amount)
  unfold itemsFor at made
  split at made
  next =>
    cases made
    exact (detail_drafted sound placed).mono (by linarith)
  next =>
    obtain ⟨blob, written, same⟩ := bind_eq_ok.1 made
    cases same
    exact aggregate_drafted sound placed amount_placed summed written

theorem spans_itemsFor {start stop : Date} {lines : List Line} {amount : Decimal} {drafts : List Draft}
    (made : interval.itemsFor event start stop amount lines = .ok drafts) :
    ∀ draft ∈ drafts, draft.Spans interval.usage.name start stop := by
  unfold itemsFor at made
  split at made
  next =>
    cases made
    exact List.forall_mem_map.2 fun _ _ => spans_draft interval event start stop _ _ _ _
  next =>
    obtain ⟨blob, _, same⟩ := bind_eq_ok.1 made
    cases same
    exact List.forall_mem_singleton.2 (spans_draft interval event start stop _ _ _ _)

theorem itemsFor_detail {start stop : Date} {lines : List Line} {amount : Decimal} {drafts : List Draft}
    (detail : interval.settings.modeFor interval.tenant = .detail)
    (made : interval.itemsFor event start stop amount lines = .ok drafts) :
    ∀ draft ∈ drafts, draft.lines = [] := by
  rw [itemsFor, detail] at made
  cases made
  intro draft member
  obtain ⟨line, _, rfl⟩ := List.mem_map.1 member
  exact lines_detail

/-! ## One pair of transitions -/

def billedBefore (interval : UsageInterval) (existing : List Item) (rolled : RolledUsage) : List Item :=
  Reconciliation.billedItems interval.usage.name rolled.start rolled.stop existing

/-- The ways in which billing the usage between two transitions succeeds: earlier items cover the
price, or what is deducted for them does, or the difference is billed. -/
inductive BillsRolled (interval : UsageInterval) (event : BillingEvent) (existing : List Item)
    (rolled : RolledUsage) (candidates : List Line) (due before : Decimal) : List Draft → Prop
  | covered (asked : Reconciliation.isNeeded (interval.billedBefore existing rolled) before due = .ok false) :
      BillsRolled interval event existing rolled candidates due before []
  | absorbed {lines : List Line} {amount : Decimal}
      (asked : Reconciliation.isNeeded (interval.billedBefore existing rolled) before due = .ok true)
      (netted : Reconciliation.net (interval.billedBefore existing rolled) candidates = .ok lines)
      (summed : Line.total lines = .ok amount) (nothing : amount.le .zero = .ok true) :
      BillsRolled interval event existing rolled candidates due before []
  | billed {lines : List Line} {amount : Decimal} {drafts : List Draft}
      (asked : Reconciliation.isNeeded (interval.billedBefore existing rolled) before due = .ok true)
      (netted : Reconciliation.net (interval.billedBefore existing rolled) candidates = .ok lines)
      (summed : Line.total lines = .ok amount) (something : amount.le .zero = .ok false)
      (made : interval.itemsFor event rolled.start rolled.stop amount lines = .ok drafts) :
      BillsRolled interval event existing rolled candidates due before drafts

section

variable {existing : List Item} {rolled : RolledUsage} {drafts : List Draft}

theorem billRolled_eq_ok : interval.billRolled event existing rolled = .ok drafts ↔
    ∃ candidates due before, interval.priceUsed rolled.units = .ok candidates ∧
      Line.total candidates = .ok due ∧
      Reconciliation.billedAmount (interval.billedBefore existing rolled) = .ok before ∧
      BillsRolled interval event existing rolled candidates due before drafts := by
  constructor
  · intro success
    obtain ⟨candidates, priced, rest⟩ := bind_eq_ok.1 success
    obtain ⟨due, summed, rest⟩ := bind_eq_ok.1 rest
    obtain ⟨before, found, rest⟩ := bind_eq_ok.1 rest
    obtain ⟨needed, asked, rest⟩ := bind_eq_ok.1 rest
    have asked := mapError_eq_ok.1 asked
    refine ⟨candidates, due, before, priced, mapError_eq_ok.1 summed, mapError_eq_ok.1 found, ?_⟩
    cases needed with
    | false => cases rest; exact .covered asked
    | true =>
      obtain ⟨lines, netted, rest⟩ := bind_eq_ok.1 rest
      obtain ⟨amount, summed, rest⟩ := bind_eq_ok.1 rest
      obtain ⟨nothing, compared, rest⟩ := bind_eq_ok.1 rest
      have summed := mapError_eq_ok.1 summed
      have compared := mapError_eq_ok.1 compared
      cases nothing with
      | false => exact .billed asked netted summed compared (mapError_eq_ok.1 rest)
      | true => cases rest; exact .absorbed asked netted summed compared
  · rintro ⟨candidates, due, before, priced, summed, found, bills⟩
    refine bind_eq_ok.2 ⟨candidates, priced, ?_⟩
    refine bind_eq_ok.2 ⟨due, mapError_eq_ok.2 summed, ?_⟩
    refine bind_eq_ok.2 ⟨before, mapError_eq_ok.2 found, ?_⟩
    cases bills with
    | covered asked => exact bind_eq_ok.2 ⟨false, mapError_eq_ok.2 asked, rfl⟩
    | absorbed asked netted total nothing =>
      refine bind_eq_ok.2 ⟨true, mapError_eq_ok.2 asked, ?_⟩
      refine bind_eq_ok.2 ⟨_, netted, ?_⟩
      refine bind_eq_ok.2 ⟨_, mapError_eq_ok.2 total, ?_⟩
      exact bind_eq_ok.2 ⟨true, mapError_eq_ok.2 nothing, rfl⟩
    | billed asked netted total something made =>
      refine bind_eq_ok.2 ⟨true, mapError_eq_ok.2 asked, ?_⟩
      refine bind_eq_ok.2 ⟨_, netted, ?_⟩
      refine bind_eq_ok.2 ⟨_, mapError_eq_ok.2 total, ?_⟩
      exact bind_eq_ok.2 ⟨false, mapError_eq_ok.2 something, mapError_eq_ok.2 made⟩

theorem spans_billRolled (success : interval.billRolled event existing rolled = .ok drafts) :
    ∀ draft ∈ drafts, draft.Spans interval.usage.name rolled.start rolled.stop := by
  obtain ⟨_, _, _, _, _, _, bills⟩ := billRolled_eq_ok.1 success
  cases bills with
  | covered => exact List.forall_mem_nil _
  | absorbed => exact List.forall_mem_nil _
  | billed _ _ _ _ made => exact spans_itemsFor made

end

/-! ## Amounts -/

/-- What is known of the amounts before the usage between two transitions is billed: the priced
lines and the stakes of the earlier items have few places and leave room. -/
structure Charged (places : Nat) (interval : UsageInterval) (existing : List Item)
    (rolled : RolledUsage) (candidates : List Line) : Prop where
  priced : interval.priceUsed rolled.units = .ok candidates
  unabsorbed : ∀ line ∈ candidates, line.absorbed = none
  placed : ∀ line ∈ candidates, line.amount.HasPlaces places
  stakes_placed : ∀ amount ∈ Reconciliation.stakes (interval.billedBefore existing rolled),
    amount.HasPlaces places
  room : Decimal.size (candidates.map Line.amount) +
    2 * Decimal.size (Reconciliation.stakes (interval.billedBefore existing rolled)) <
      10 ^ (28 - places)

structure Measured (places : Nat) (interval : UsageInterval) (existing : List Item)
    (rolled : RolledUsage) (candidates : List Line) : Prop
    extends Charged places interval existing rolled candidates where
  sound : ∀ line ∈ candidates, line.Sound
  formed : ∀ item ∈ interval.billedBefore existing rolled, item.WellFormed

def Covered (interval : UsageInterval) (existing : List Item) (rolled : RolledUsage)
    (candidates : List Line) : Prop :=
  interval.billedBefore existing rolled ≠ [] ∧
    Decimal.total (candidates.map Line.amount) ≤
      Reconciliation.totalBilled (interval.billedBefore existing rolled)

def rest (interval : UsageInterval) (existing : List Item) (rolled : RolledUsage)
    (candidates : List Line) : ℚ :=
  Decimal.total (candidates.map Line.amount) -
    Reconciliation.totalDeducted (candidates.map Line.unit) (interval.billedBefore existing rolled)

def AllReadable (interval : UsageInterval) (existing : List Item) (rolled : RolledUsage) : Prop :=
  ∀ item ∈ interval.billedBefore existing rolled, ∃ read, Line.readBlob item.details = .ok read

/-- The ways in which billing the usage between two transitions succeeds without rounding: nothing is
left to bill, or what is left is billed. -/
inductive BillsExactly (interval : UsageInterval) (event : BillingEvent) (existing : List Item)
    (rolled : RolledUsage) (candidates : List Line) : List Draft → Prop
  | settled (none_left : Covered interval existing rolled candidates ∨
        AllReadable interval existing rolled ∧ interval.rest existing rolled candidates ≤ 0) :
      BillsExactly interval event existing rolled candidates []
  | billed {lines : List Line} {amount : Decimal} {drafts : List Draft}
      (needed : ¬ Covered interval existing rolled candidates)
      (readable : AllReadable interval existing rolled)
      (left : 0 < interval.rest existing rolled candidates)
      (netted : Reconciliation.net (interval.billedBefore existing rolled) candidates = .ok lines)
      (summed : Line.total lines = .ok amount)
      (made : interval.itemsFor event rolled.start rolled.stop amount lines = .ok drafts) :
      BillsExactly interval event existing rolled candidates drafts

section

variable {places : Nat} {existing : List Item} {rolled : RolledUsage} {candidates : List Line}
  {drafts : List Draft} (few : places ≤ 20)
  (charged : Charged places interval existing rolled candidates)

include few charged

theorem total_candidates : Decimal.Gives places (Line.total candidates)
    (Decimal.total (candidates.map Line.amount)) := by
  have staked := Decimal.size_nonneg (Reconciliation.stakes (interval.billedBefore existing rolled))
  have room := charged.room
  apply Decimal.sum_gives few
  · exact List.forall_mem_map.2 charged.placed
  · linarith

theorem billedAmount_gives : Decimal.Gives places
    (Reconciliation.billedAmount (interval.billedBefore existing rolled))
    (Reconciliation.totalBilled (interval.billedBefore existing rolled)) := by
  have priced := Decimal.size_nonneg (candidates.map Line.amount)
  have staked := Decimal.size_nonneg (Reconciliation.stakes (interval.billedBefore existing rolled))
  have room := charged.room
  have within := Reconciliation.size_amounts_le (interval.billedBefore existing rolled)
  apply Decimal.sum_gives few
  · intro amount member
    obtain ⟨item, among, rfl⟩ := List.mem_map.1 member
    exact charged.stakes_placed _ (Reconciliation.amount_mem_stakes among)
  · linarith

omit few charged in
theorem isNeeded_eq {before due : Decimal} (before_placed : before.HasPlaces places)
    (due_placed : due.HasPlaces places)
    (before_value : before.value = Reconciliation.totalBilled (interval.billedBefore existing rolled))
    (due_value : due.value = Decimal.total (candidates.map Line.amount)) (needed : Bool) :
    Reconciliation.isNeeded (interval.billedBefore existing rolled) before due = .ok needed ↔
      (needed = false ↔ Covered interval existing rolled candidates) := by
  unfold Reconciliation.isNeeded Covered
  -- without earlier items there is more to bill at any price
  by_cases empty : interval.billedBefore existing rolled = []
  · rw [empty]
    cases needed <;> simp
  · rw [if_neg (by simpa using empty), Decimal.lt_eq before_placed due_placed, before_value, due_value,
      ← not_lt]
    cases needed <;> simp [empty]

theorem net_lines (readable : AllReadable interval existing rolled) :
    ∃ lines amount, Reconciliation.net (interval.billedBefore existing rolled) candidates = .ok lines ∧
      Line.total lines = .ok amount ∧ amount.HasPlaces places ∧
      amount.value = interval.rest existing rolled candidates ∧
      Decimal.total (lines.map Line.amount) = interval.rest existing rolled candidates ∧
      (∀ line ∈ lines, line.amount.HasPlaces places) ∧
      Decimal.size (lines.map Line.amount) ≤ Decimal.size (candidates.map Line.amount) +
        2 * Decimal.size (Reconciliation.stakes (interval.billedBefore existing rolled)) := by
  obtain ⟨lines, netted, placed, total, size⟩ := Reconciliation.net_gives few readable
    charged.unabsorbed charged.placed charged.stakes_placed charged.room
  have amounts_placed := List.forall_mem_map.2 placed
  obtain ⟨amount, summed, amount_placed, value⟩ :=
    Decimal.sum_gives few amounts_placed (lt_of_le_of_lt size charged.room)
  exact ⟨lines, amount, netted, summed, amount_placed, value.trans total, total, placed, size⟩

theorem billRolled_settled
    (settled : Covered interval existing rolled candidates ∨
      AllReadable interval existing rolled ∧ interval.rest existing rolled candidates ≤ 0) :
    interval.billRolled event existing rolled = .ok [] := by
  obtain ⟨due, summed, due_placed, due_value⟩ := total_candidates few charged
  obtain ⟨before, found, before_placed, before_value⟩ := billedAmount_gives few charged
  have asked := isNeeded_eq before_placed due_placed before_value due_value
  refine billRolled_eq_ok.2 ⟨candidates, due, before, charged.priced, summed, found, ?_⟩
  -- where earlier items do not cover the price, their deduction does
  by_cases covered : Covered interval existing rolled candidates
  · exact .covered ((asked false).2 (iff_of_true rfl covered))
  · obtain ⟨readable, nothing⟩ := settled.resolve_left covered
    obtain ⟨lines, amount, netted, total, amount_placed, value, _⟩ := net_lines few charged readable
    apply BillsRolled.absorbed ((asked true).2 (iff_of_false nofun covered)) netted total
    rw [Decimal.le_zero_eq amount_placed, value, decide_eq_true nothing]

theorem billRolled_iff : interval.billRolled event existing rolled = .ok drafts ↔
    BillsExactly interval event existing rolled candidates drafts := by
  obtain ⟨due, summed_due, due_placed, due_value⟩ := total_candidates few charged
  obtain ⟨before, found_before, before_placed, before_value⟩ := billedAmount_gives few charged
  have asks := isNeeded_eq before_placed due_placed before_value due_value
  constructor
  · intro success
    obtain ⟨_, _, _, priced, summed, found, bills⟩ := billRolled_eq_ok.1 success
    cases Except.ok.inj (priced.symm.trans charged.priced)
    cases Except.ok.inj (summed_due.symm.trans summed)
    cases Except.ok.inj (found_before.symm.trans found)
    cases bills with
    | covered asked => exact .settled (.inl (((asks false).1 asked).1 rfl))
    | absorbed asked netted total nothing =>
      have readable : AllReadable interval existing rolled := (Reconciliation.of_net netted).1
      obtain ⟨_, _, netted_lines, total_lines, placed, value, _⟩ := net_lines few charged readable
      cases Except.ok.inj (netted_lines.symm.trans netted)
      cases Except.ok.inj (total_lines.symm.trans total)
      rw [Decimal.le_zero_eq placed, value] at nothing
      exact .settled (.inr ⟨readable, of_decide_eq_true (Except.ok.inj nothing)⟩)
    | billed asked netted total something made =>
      have readable : AllReadable interval existing rolled := (Reconciliation.of_net netted).1
      obtain ⟨_, _, netted_lines, total_lines, placed, value, _⟩ := net_lines few charged readable
      cases Except.ok.inj (netted_lines.symm.trans netted)
      cases Except.ok.inj (total_lines.symm.trans total)
      rw [Decimal.le_zero_eq placed, value] at something
      have left := not_le.1 (of_decide_eq_false (Except.ok.inj something))
      have needed : ¬ Covered interval existing rolled candidates :=
        fun covered => nomatch ((asks true).1 asked).2 covered
      exact .billed needed readable left netted total made
  · intro exactly
    cases exactly with
    | settled none_left => exact billRolled_settled few charged none_left
    | billed needed readable left netted summed made =>
      obtain ⟨_, _, netted_lines, total_lines, placed, value, _⟩ := net_lines few charged readable
      cases Except.ok.inj (netted_lines.symm.trans netted)
      cases Except.ok.inj (total_lines.symm.trans summed)
      refine billRolled_eq_ok.2 ⟨candidates, due, before, charged.priced, summed_due, found_before, ?_⟩
      apply BillsRolled.billed ((asks true).2 (iff_of_false nofun needed)) netted summed ?_ made
      rw [Decimal.le_zero_eq placed, value, decide_eq_false (not_le.2 left)]

omit charged

theorem billRolled_outcome (measured : Measured places interval existing rolled candidates)
    (success : interval.billRolled event existing rolled = .ok drafts) :
    (drafts = [] ∧ (Covered interval existing rolled candidates ∨
      AllReadable interval existing rolled ∧ interval.rest existing rolled candidates ≤ 0)) ∨
    (¬ Covered interval existing rolled candidates ∧ AllReadable interval existing rolled ∧
      0 < interval.rest existing rolled candidates ∧
      Drafted places interval.usage.name rolled.start rolled.stop
        (interval.rest existing rolled candidates)
        (2 * (Decimal.size (candidates.map Line.amount) +
          2 * Decimal.size (Reconciliation.stakes (interval.billedBefore existing rolled)))) drafts) := by
  cases (billRolled_iff few measured.toCharged).1 success with
  | settled none_left => exact .inl ⟨rfl, none_left⟩
  | billed needed readable left netted summed made =>
    obtain ⟨_, sound⟩ := Reconciliation.sound_net measured.sound measured.formed netted
    obtain ⟨_, _, netted_lines, total_lines, amount_placed, value, lines_total, placed, size⟩ :=
      net_lines few measured.toCharged readable
    cases Except.ok.inj (netted_lines.symm.trans netted)
    cases Except.ok.inj (total_lines.symm.trans summed)
    have drafted := itemsFor_drafted sound placed amount_placed (value.trans lines_total.symm) made
    rw [lines_total] at drafted
    exact .inr ⟨needed, readable, left, drafted.mono (by linarith)⟩

omit few in
theorem billRolled_detail (detail : interval.settings.modeFor interval.tenant = .detail)
    (success : interval.billRolled event existing rolled = .ok drafts) :
    ∀ draft ∈ drafts, draft.lines = [] := by
  obtain ⟨candidates, due, before, _, _, _, bills⟩ := billRolled_eq_ok.1 success
  cases bills with
  | covered => exact List.forall_mem_nil _
  | absorbed => exact List.forall_mem_nil _
  | billed _ _ _ _ made => exact itemsFor_detail detail made

end

end UsageInterval

end Arrears
