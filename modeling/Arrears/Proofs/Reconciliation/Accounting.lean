import Arrears.Proofs.Json.Equality
import Arrears.Proofs.Reconciliation.Order

/-! The account that netting gives. What comes of it is told candidate by candidate and item by item: the
first candidate of a unit absorbs all billed lines of its unit, those behind it stay as they are, and
what no candidate has the unit of is taken back once, under the item it was billed by. -/

set_option autoImplicit false

namespace Arrears

namespace Reconciliation

variable {candidates after billed : List Line}

theorem held_lines {draft : Draft} : ∀ line ∈ draft.lines, line.unit.Holds fun _ => True := by
  unfold Draft.lines
  split
  next read =>
    intro line member
    cases details : draft.details with
    | str source =>
      rw [details] at read
      exact (Line.holds_readBlob (Json.bring_tokensFrom source.toList .between) read line member).2.1
    | null =>
      rw [details] at read
      cases read
    | _ =>
      rw [details] at read
      cases read
  next => exact List.forall_mem_nil _

section

variable {earlier : List Line} {candidate : Line}

theorem share_of_first {text : String → Prop} (held : ∀ line ∈ billed, line.unit.Holds text)
    (first : ∀ other ∈ earlier, other.sameUnit candidate = false) :
    share earlier candidate billed = billed.filter candidate.sameUnit := by
  apply List.filter_congr
  intro line member
  cases same : candidate.sameUnit line with
  | false => rfl
  | true =>
    -- a candidate before it with the unit of the line would have its unit
    have unpriced : isPriced (earlier.map Line.unit) line = false := by
      rw [isPriced, List.any_map, List.any_eq_false]
      intro other among also
      have equal := Json.eqv_of_common (held line member) same also
      rw [← Line.sameUnit, first other among] at equal
      cases equal
    rw [unpriced]
    rfl

/-- A candidate behind another of its unit has no share. -/
theorem share_of_later {other : Line} (among : other ∈ earlier) (same : other.sameUnit candidate = true) :
    share earlier candidate billed = [] := by
  apply List.filter_eq_nil_iff.2
  intro line _
  rw [Bool.and_eq_true, Bool.not_eq_true', not_and, Bool.not_eq_false]
  intro own
  rw [isPriced, List.any_map, List.any_eq_true]
  exact ⟨other, among, Json.eqv_trans own same⟩

end

variable {places : Nat} {items : List Item} {units : List Json}

theorem held_linesOf (items : List Item) : ∀ line ∈ linesOf items, line.unit.Holds fun _ => True := by
  intro line member
  obtain ⟨item, _, among⟩ := List.mem_flatMap.1 member
  exact held_lines line among

/-- What takes an item back beside candidates of some units: its amount in one line of tier 0 without a
unit if it has no lines, else each line of another unit, both under the item's identifier. -/
def TakesBack (units : List Json) (item : Item) (back : List Line) : Prop :=
  if item.lines.isEmpty then
    ∃ amount, item.amount.neg = .ok amount ∧
      back = [⟨0, .null, item.rate, item.quantity, amount, some .zero, item.id⟩]
  else List.Forall₂ (fun line reversed => ∃ amount, line.amount.neg = .ok amount ∧
    reversed = { line with amount, absorbed := none, reference := item.id })
      (item.lines.filter fun line => !isPriced units line) back

theorem takesBack_iff {item : Item} {back : List Line} :
    TakesBack units item back ↔ adjustments units item = .ok back := by
  unfold TakesBack adjustments
  split
  next =>
    rw [map_eq_ok]
    exact exists_congr fun amount => and_congr_right fun _ => eq_comm
  next => simp only [mapM_eq_ok_iff, Line.reversal_eq_ok]

theorem forall_takesBack_iff {back : List (List Line)} :
    List.Forall₂ (TakesBack units) items back ↔ items.mapM (adjustments units) = .ok back := by
  have each : TakesBack units = fun item lines => adjustments units item = .ok lines := by
    funext item lines
    exact propext takesBack_iff
  rw [each, mapM_eq_ok_iff]

def matched (units : List Json) (items : List Item) : List Line := (linesOf items).filter (isPriced units)
def unmatched (units : List Json) (items : List Item) : List Line :=
  (linesOf items).filter fun line => !isPriced units line

/-- What is deducted are the sizes of the matched lines, the values of the others, and the items without lines. -/
theorem totalDeducted_eq (units : List Json) (items : List Item) :
    totalDeducted units items = Decimal.size ((matched units items).map Line.amount) +
      Decimal.total ((unmatched units items).map Line.amount) +
      Decimal.total ((items.filter fun item => item.lines.isEmpty).map fun item => item.amount) := by
  induction items with
  | nil => simp [totalDeducted, matched, unmatched, linesOf, Decimal.size_nil, Decimal.total_nil]
  | cons item items ih =>
    rw [matched, unmatched] at ih
    rw [totalDeducted_cons, ih, matched, unmatched, linesOf_cons]
    by_cases empty : item.lines = []
    · rw [deducted_of_empty units empty, List.filter_cons_of_pos (by simp [empty]), empty, List.nil_append,
        List.map_cons, Decimal.total_cons]
      ring
    · rw [deducted_of_lines units empty, List.filter_cons_of_neg (by simp [empty]), sum_deductedLine]
      simp only [List.filter_append, List.map_append, Decimal.size_append, Decimal.total_append]
      ring

/-- What becomes of a candidate with others before it: the first of its unit takes all lines of its unit,
one after another, and a later one stays as it is. -/
structure Absorption (earlier : List Line) (candidate : Line) (billed : List Line) (updated : Line) : Prop where
  kept : candidate.SameData updated
  first : (∀ other ∈ earlier, other.sameUnit candidate = false) →
    candidate.takeAll (billed.filter candidate.sameUnit) = .ok updated
  later : (∃ other ∈ earlier, other.sameUnit candidate = true) → updated = candidate

structure Conserves (earlier : List Line) (candidate : Line) (billed : List Line) (updated : Line) : Prop where
  moved : (∀ other ∈ earlier, other.sameUnit candidate = false) →
    candidate.Moves (Decimal.size ((billed.filter candidate.sameUnit).map Line.amount)) updated
  preserved : updated.amount.value + updated.absorbedSoFar.value =
    candidate.amount.value + candidate.absorbedSoFar.value

structure Accounts (items : List Item) (candidates after : List Line) (back : List (List Line)) : Prop where
  count : after.length = candidates.length
  absorbed : ∀ (i : Nat) (candidate updated : Line), candidates[i]? = some candidate →
    after[i]? = some updated → Absorption (candidates.take i) candidate (linesOf items) updated
  taken_back : List.Forall₂ (TakesBack (candidates.map Line.unit)) items back

/-- The account where nothing is rounded: amounts move within the candidates, are taken back with their
values, and add up. -/
structure AccountsExactly (items : List Item) (candidates after : List Line) (back : List (List Line)) : Prop
    extends Accounts items candidates after back where
  conserved : ∀ (i : Nat) (candidate updated : Line), candidates[i]? = some candidate →
    after[i]? = some updated → Conserves (candidates.take i) candidate (linesOf items) updated
  refunded : (back.flatten.map fun line => line.amount.value) =
    items.flatMap (refunds (candidates.map Line.unit))
  total : Decimal.total ((after ++ back.flatten).map Line.amount) =
    Decimal.total (candidates.map Line.amount) -
      Decimal.size ((matched (candidates.map Line.unit) items).map Line.amount) -
      Decimal.total ((unmatched (candidates.map Line.unit) items).map Line.amount) -
      Decimal.total ((items.filter fun item => item.lines.isEmpty).map fun item => item.amount)

theorem absorption_iff {earlier : List Line} {candidate updated : Line} :
    Absorption earlier candidate (linesOf items) updated ↔
      candidate.takeAll (share earlier candidate (linesOf items)) = .ok updated := by
  constructor
  · intro absorption
    by_cases later : ∃ other ∈ earlier, other.sameUnit candidate = true
    · obtain ⟨other, among, same⟩ := later
      rw [share_of_later among same, absorption.later ⟨other, among, same⟩]
      rfl
    · have first : ∀ other ∈ earlier, other.sameUnit candidate = false := by simpa using later
      rw [share_of_first (held_linesOf items) first]
      exact absorption.first first
  · intro taken
    refine ⟨Line.sameData_takeAll taken, fun first => ?_, ?_⟩
    · rwa [share_of_first (held_linesOf items) first] at taken
    · rintro ⟨other, among, same⟩
      rw [share_of_later among same] at taken
      exact (Except.ok.inj taken).symm

theorem accounts_iff {back : List (List Line)} : Accounts items candidates after back ↔
    absorbEach candidates (linesOf items) = .ok after ∧
      items.mapM (adjustments (candidates.map Line.unit)) = .ok back := by
  rw [absorbEach_eq_ok, ← forall_takesBack_iff]
  constructor
  · intro accounts
    refine ⟨⟨accounts.count, fun i candidate updated found at_i => ?_⟩, accounts.taken_back⟩
    exact absorption_iff.1 (accounts.absorbed i candidate updated found at_i)
  · rintro ⟨⟨count, each⟩, taken_back⟩
    refine ⟨count, fun i candidate updated found at_i => ?_, taken_back⟩
    exact absorption_iff.2 (each i candidate updated found at_i)

/-! ## Room -/

theorem linesOf_sublist (items : List Item) : ((linesOf items).map Line.amount).Sublist (stakes items) := by
  induction items with
  | nil => exact List.Sublist.slnil
  | cons item items ih =>
    rw [linesOf_cons, List.map_append, stakes_cons]
    exact (List.sublist_cons_self _ _).append ih

theorem stakes_sublist {item : Item} (member : item ∈ items) : item.stakes.Sublist (stakes items) := by
  rw [stakes, List.flatMap_def]
  exact List.sublist_flatten_of_mem (List.mem_map_of_mem member)

section

variable (few : places ≤ 20)

include few

theorem net_accounts_of_room (readable : ∀ item ∈ items, ∃ read, Line.readBlob item.details = .ok read)
    (placed : ∀ line ∈ candidates, line.Placed places)
    (stakes_placed : ∀ amount ∈ stakes items, amount.HasPlaces places)
    (room : weights candidates + 2 * Decimal.size (stakes items) < 10 ^ (28 - places)) :
    ∃ after back, net items candidates = .ok (after ++ back.flatten) ∧
      AccountsExactly items candidates after back := by
  obtain ⟨after, _, netted, nets⟩ := netItems_give few readable placed stakes_placed room
  obtain ⟨_, absorbed, back, taken_back, rfl⟩ := netItems_eq_ok.1 netted
  have weighs := weights_nonneg candidates
  have stake := Decimal.size_nonneg (stakes items)
  have accounts := accounts_iff.2 ⟨absorbed, taken_back⟩
  have moves (i : Nat) (candidate updated : Line) (found : candidates[i]? = some candidate)
      (at_i : after[i]? = some updated) : candidate.Moves (Decimal.size
        ((share (candidates.take i) candidate (linesOf items)).map Line.amount)) updated := by
    have chosen : ((share (candidates.take i) candidate (linesOf items)).map Line.amount).Sublist (stakes items) :=
      (List.filter_sublist.map _).trans (linesOf_sublist items)
    have member := List.mem_of_getElem? found
    have weight := weight_le_weights member
    have size := Decimal.size_le_of_sublist chosen
    obtain ⟨_, taken, _, moves⟩ := Line.takeAll_gives few (placed candidate member)
      (fun line among => stakes_placed _ (chosen.subset (List.mem_map_of_mem among))) (by linarith)
    have share_taken := (absorbEach_eq_ok.1 absorbed).2 i candidate updated found at_i
    cases Except.ok.inj (taken.symm.trans share_taken)
    exact moves
  refine ⟨after, back, net_of_items netted, accounts, ?_, ?_, ?_⟩
  · intro i candidate updated found at_i
    have moves := moves i candidate updated found at_i
    refine ⟨fun first => ?_, moves.preserved⟩
    rwa [share_of_first (held_linesOf items) first] at moves
  · refine map_flatten_mapM taken_back fun item member lines made => ?_
    have own : item.stakes.Sublist (stakes items) := stakes_sublist member
    have size := Decimal.size_le_of_sublist own
    obtain ⟨_, same, _, values⟩ := adjustments_give few (candidates.map Line.unit)
      (fun amount among => stakes_placed amount (own.subset among)) (by linarith)
    cases Except.ok.inj (same.symm.trans made)
    exact values
  · have value := nets.value
    rw [totalDeducted_eq] at value
    rw [List.map_append, Decimal.total_append]
    linarith

end

/-! ## The account -/

theorem netItem_error {item : Item} {error : Error} (readable : ∃ read, Line.readBlob item.details = .ok read)
    (failed : (netItem candidates item).2 = .error error) : ∃ fault, error = .arithmetic fault := by
  obtain ⟨read, readable⟩ := readable
  rw [netItem, readable] at failed
  split at failed
  next => contradiction
  next =>
    obtain ⟨fault, _, rfl⟩ := mapError_eq_error.1 (map_eq_error.1 failed)
    exact ⟨fault, rfl⟩
  next =>
    obtain ⟨fault, _, rfl⟩ := mapError_eq_error.1 (map_eq_error.1 failed)
    exact ⟨fault, rfl⟩
  next =>
    split at failed
    next fault _ => exact ⟨fault, (Except.error.inj failed).symm⟩
    next =>
      obtain ⟨fault, _, rfl⟩ := mapError_eq_error.1 failed
      exact ⟨fault, rfl⟩

theorem netItems_error {error : Error} (readable : ∀ item ∈ items, ∃ read, Line.readBlob item.details = .ok read)
    (failed : (netItems candidates items).2 = .error error) : ∃ fault, error = .arithmetic fault := by
  induction items generalizing candidates with
  | nil => cases failed
  | cons item items ih =>
    obtain ⟨first, rest⟩ := List.forall_mem_cons.1 readable
    unfold netItems at failed
    split at failed
    next one =>
      cases failed
      exact netItem_error first (congrArg Prod.snd one)
    next => exact ih rest (map_eq_error.1 failed)

/-- A new bill is an account of the candidates and the items, and where there is none a step of the
arithmetic has failed. Where no amount leaves anything to round there is one, and it is exact. -/
theorem net_accounts (readable : ∀ item ∈ items, ∃ read, Line.readBlob item.details = .ok read) :
    (∀ lines, net items candidates = .ok lines ↔
      ∃ after back, lines = after ++ back.flatten ∧ Accounts items candidates after back) ∧
    (∀ error, net items candidates = .error error → ∃ fault, error = .arithmetic fault) ∧
    (Decimal.Exact (candidates.map Line.amount ++ candidates.map Line.absorbedSoFar ++ stakes items) →
      ∃ after back, net items candidates = .ok (after ++ back.flatten) ∧
        AccountsExactly items candidates after back) := by
  refine ⟨fun lines => ?_, fun error failed => netItems_error readable (map_eq_error.1 failed), ?_⟩
  · rw [net_eq_ok, and_iff_right readable]
    refine exists_congr fun after => exists_congr fun back => ?_
    rw [accounts_iff, ← and_assoc]
    exact and_comm
  · rintro ⟨places, few, placed, small⟩
    simp only [List.forall_mem_append, List.forall_mem_map] at placed
    obtain ⟨⟨amounts, absorbed⟩, stakes_placed⟩ := placed
    have charged : ∀ line ∈ candidates, line.Placed places :=
      fun line member => ⟨amounts line member, absorbed line member⟩
    refine net_accounts_of_room few readable charged stakes_placed ?_
    have stake := Decimal.size_nonneg (stakes items)
    have weighs := weights_nonneg candidates
    rw [Decimal.size_append, Decimal.size_append, ← weights_eq] at small
    rw [Decimal.room_eq few]
    linarith

end Reconciliation

namespace Charges

open Reconciliation

def charge (tier : Int) (unit : String) (amount : Int) : Line :=
  ⟨tier, .str unit, some (.ofInt 1), .int amount, .ofInt amount, none, .null⟩

def bill : List Line := [charge 1 "minutes" 30, charge 2 "minutes" 20, charge 1 "texts" 5]

def lump (amount : Int) : Item where
  itemType := .usage
  invoiceId := .null
  accountId := .null
  bundleId := .null
  subscriptionId := .null
  planName := .null
  phaseName := .null
  usageName := .null
  start := ⟨738600, by decide, by decide⟩
  stop := none
  amount := .ofInt amount
  currency := .null
  rate := none
  quantity := .null
  details := .null
  id := .str "lump"

def itemized (records : String) : Item :=
  { lump 0 with details := .str records, id := .str "itemized" }

def credit : String :=
  "[\x7b\"tierUnit\":\"minutes\",\"amount\":\"-12\"\x7d,\x7b\"tierUnit\":\"data\",\"amount\":\"7\"\x7d]"

theorem net_credit : (∀ item ∈ [itemized credit, lump 4], ∃ read, Line.readBlob item.details = .ok read) ∧
    ∃ after back, net [itemized credit, lump 4] bill = .ok (after ++ back.flatten) ∧
      AccountsExactly [itemized credit, lump 4] bill after back := by
  have readable : ∀ item ∈ [itemized credit, lump 4], ∃ read, Line.readBlob item.details = .ok read :=
    List.forall_mem_cons.2 ⟨⟨_, by rfl⟩, List.forall_mem_singleton.2 ⟨none, rfl⟩⟩
  have exact : Decimal.Exact (bill.map Line.amount ++ bill.map Line.absorbedSoFar ++
      stakes [itemized credit, lump 4]) := by
    have amounts : bill.map Line.amount ++ bill.map Line.absorbedSoFar ++ stakes [itemized credit, lump 4] =
        [30, 20, 5, 0, 0, 0, 0, -12, 7, 4].map Decimal.ofInt := by rfl
    rw [amounts]
    exact Decimal.exact_ofInt (by decide)
  exact ⟨readable, (net_accounts readable).2.2 exact⟩

def minutes (amount : Decimal) : Line := ⟨0, .str "minutes", none, .null, amount, none, .null⟩

/-- A line so small that a charge which absorbs it loses nothing. -/
def sliver : String := "[\x7b\"tierUnit\":\"minutes\",\"amount\":\"1E-30\"\x7d]"

def unmoved : Line := { charge 1 "minutes" 1 with
  amount := .finite false 1000000000000000000000000000 (-27), absorbed := some (.finite false 1 (-30)) }

theorem readable_sliver :
    Line.readBlob (itemized sliver).details = .ok (some [minutes (.finite false 1 (-30))]) := by
  rfl

theorem lines_sliver : (itemized sliver).lines = [minutes (.finite false 1 (-30))] :=
  lines_of_read readable_sliver

theorem net_sliver : net [itemized sliver] [charge 1 "minutes" 1] = .ok [unmoved] := by
  have taken : (charge 1 "minutes" 1).take (minutes (.finite false 1 (-30))) = (unmoved, .ok ()) := by
    refine Line.take_eq_ok.2 ⟨.finite false 1 (-30), .finite false 1 (-30),
      .finite false 1000000000000000000000000000 (-27), ?_, ?_, ?_, rfl⟩ <;> decide +kernel
  have absorbed : absorbEach [charge 1 "minutes" 1] (linesOf [itemized sliver]) = .ok [unmoved] := by
    rw [linesOf, List.flatMap_singleton, lines_sliver]
    exact absorbEach_cons_eq_ok.2 ⟨unmoved, [], Line.takeAll_cons_eq_ok.2 ⟨unmoved, taken, rfl⟩, rfl, rfl⟩
  have back : adjustments ([charge 1 "minutes" 1].map Line.unit) (itemized sliver) = .ok [] := by
    rw [adjustments, lines_sliver]
    rfl
  exact net_eq_ok.2 ⟨List.forall_mem_singleton.2 ⟨_, readable_sliver⟩, [unmoved], [[]], absorbed,
    mapM_cons_eq_ok.2 ⟨[], [], back, rfl, rfl⟩, rfl⟩

/-- A line so large that it cannot be absorbed twice. -/
def vast : String := "[\x7b\"tierUnit\":\"minutes\",\"amount\":\"9E+999999\"\x7d]"

def saturated : Line := { charge 1 "minutes" 1 with absorbed := some (.finite false 9 999999) }

theorem readable_vast :
    Line.readBlob (itemized vast).details = .ok (some [minutes (.finite false 9 999999)]) := by
  rfl

theorem net_vast : net [itemized vast] [saturated] = .error (.arithmetic .overflow) := by
  have sized : (minutes (.finite false 9 999999)).amount.abs = .ok (.finite false 9 999999) := by
    decide +kernel
  have added : saturated.absorbedSoFar.add (.finite false 9 999999) = .error .overflow := by
    decide +kernel
  have taken : saturated.take (minutes (.finite false 9 999999)) = (saturated, .error .overflow) := by
    simp only [Line.take, sized, added]
  have same : saturated.sameUnit (minutes (.finite false 9 999999)) = true := by rfl
  simp only [net, netItems, netItem, readable_vast, absorbAll, Line.absorb, same, if_true, taken, Except.map]

/-- Absorbing need not preserve what a candidate charges and absorbed, and need not succeed. -/
theorem not_always_exact :
    ((∃ read, Line.readBlob (itemized sliver).details = .ok read) ∧
      net [itemized sliver] [charge 1 "minutes" 1] = .ok [unmoved] ∧
      unmoved.amount.value + unmoved.absorbedSoFar.value ≠
        (charge 1 "minutes" 1).amount.value + (charge 1 "minutes" 1).absorbedSoFar.value) ∧
    (∃ read, Line.readBlob (itemized vast).details = .ok read) ∧
      net [itemized vast] [saturated] = .error (.arithmetic .overflow) := by
  refine ⟨⟨⟨_, readable_sliver⟩, net_sliver, ?_⟩, ⟨_, readable_vast⟩, net_vast⟩
  have before : (charge 1 "minutes" 1).amount.value + (charge 1 "minutes" 1).absorbedSoFar.value = 1 := by
    norm_num [charge, Line.absorbedSoFar, Decimal.value_ofInt, Decimal.value_zero]
  have absorbed : unmoved.absorbedSoFar.value = 1 / 10 ^ 30 := by
    rw [Line.absorbedSoFar_some rfl]
    norm_num [Decimal.value, Decimal.signed]
  rw [before, absorbed]
  norm_num [unmoved, Decimal.value, Decimal.signed]

end Charges

end Arrears
