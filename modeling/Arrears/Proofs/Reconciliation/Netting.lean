import Arrears.Proofs.Decimal.Value
import Arrears.Proofs.Reconciliation.Shares

/-! Netting without rounding. A line that absorbs a billed line of its unit gives up the size of what
was billed, whatever its sign; what nothing absorbs is taken back with its sign. So the new bill is
the price less what is deducted for the earlier items. -/

set_option autoImplicit false

namespace Arrears

def Draft.stakes (draft : Draft) : List Decimal := draft.amount :: draft.lines.map Line.amount

namespace Line

structure Placed (places : Nat) (line : Line) : Prop where
  amount : line.amount.HasPlaces places
  absorbed : line.absorbedSoFar.HasPlaces places

def weight (line : Line) : ℚ := |line.amount.value| + |line.absorbedSoFar.value|

/-- `after` is `line` with an amount moved from its charge to what it has absorbed. -/
structure Absorbs (places : Nat) (line : Line) (taken : ℚ) (after : Line) : Prop where
  unit : after.unit = line.unit
  placed : after.Placed places
  value : after.amount.value = line.amount.value - taken
  weight : after.weight ≤ line.weight + 2 * taken

theorem Absorbs.none {places : Nat} {line : Line} (placed : line.Placed places) :
    Absorbs places line 0 line :=
  ⟨rfl, placed, (sub_zero _).symm, by rw [mul_zero, add_zero]⟩

theorem Absorbs.trans {places : Nat} {line middle after : Line} {first second : ℚ}
    (before : Absorbs places line first middle) (behind : Absorbs places middle second after) :
    Absorbs places line (first + second) after := by
  refine ⟨behind.unit.trans before.unit, behind.placed, ?_, ?_⟩
  · rw [behind.value, before.value, sub_sub]
  · have := before.weight
    have := behind.weight
    linarith

structure Moves (line : Line) (moved : ℚ) (after : Line) : Prop where
  amount : after.amount.value = line.amount.value - moved
  absorbed : after.absorbedSoFar.value = line.absorbedSoFar.value + moved

theorem Moves.none (line : Line) : line.Moves 0 line := ⟨(sub_zero _).symm, (add_zero _).symm⟩

theorem Moves.trans {line middle after : Line} {first second : ℚ} (before : line.Moves first middle)
    (behind : middle.Moves second after) : line.Moves (first + second) after where
  amount := by rw [behind.amount, before.amount, sub_sub]
  absorbed := by rw [behind.absorbed, before.absorbed, add_assoc]

theorem Moves.preserved {line after : Line} {moved : ℚ} (moves : line.Moves moved after) :
    after.amount.value + after.absorbedSoFar.value = line.amount.value + line.absorbedSoFar.value := by
  rw [moves.amount, moves.absorbed]
  ring

theorem absorbedSoFar_some {absorbed : Decimal} {line : Line} (same : line.absorbed = some absorbed) :
    line.absorbedSoFar.value = absorbed.value := by
  simp only [absorbedSoFar, same]
  split
  next empty => rw [Decimal.value_zero, Decimal.value_of_isZero empty]
  next => rfl

theorem absorbedSoFar_placed {places : Nat} {absorbed : Decimal} {line : Line}
    (same : line.absorbed = some absorbed) (placed : absorbed.HasPlaces places) :
    line.absorbedSoFar.HasPlaces places := by
  simp only [absorbedSoFar, same]
  split
  next => exact Decimal.zero_hasPlaces places
  next => exact placed

variable {places : Nat} (few : places ≤ 20)

include few

theorem take_gives {line billed : Line} (placed : line.Placed places)
    (billed_placed : billed.amount.HasPlaces places)
    (room : line.weight + 2 * |billed.amount.value| < 10 ^ (28 - places)) :
    ∃ after, line.take billed = (after, .ok ()) ∧ Absorbs places line |billed.amount.value| after ∧
      line.Moves |billed.amount.value| after := by
  have charged := abs_nonneg line.amount.value
  have held := abs_nonneg line.absorbedSoFar.value
  have size := abs_nonneg billed.amount.value
  unfold weight at room
  obtain ⟨taken, taken_eq, taken_placed, taken_value⟩ :=
    Decimal.abs_gives few billed_placed (by linarith)
  have taken_size : |taken.value| = |billed.amount.value| := by rw [taken_value, abs_abs]
  have more := abs_add_le line.absorbedSoFar.value taken.value
  have less := abs_sub line.amount.value taken.value
  obtain ⟨absorbed, absorbed_eq, absorbed_placed, absorbed_value⟩ := Decimal.add_gives few
    placed.absorbed taken_placed (by linarith) (by linarith) (by linarith)
  obtain ⟨amount, amount_eq, amount_placed, amount_value⟩ := Decimal.sub_gives few
    placed.amount taken_placed (by linarith) (by linarith) (by linarith)
  have moves : line.Moves |billed.amount.value| { line with absorbed := some absorbed, amount } :=
    ⟨by rw [amount_value, taken_value], by rw [absorbedSoFar_some rfl, absorbed_value, taken_value]⟩
  refine ⟨_, take_eq_ok.2 ⟨taken, absorbed, amount, taken_eq, absorbed_eq, amount_eq, rfl⟩, ?_, moves⟩
  refine ⟨rfl, ⟨amount_placed, absorbedSoFar_placed rfl absorbed_placed⟩, moves.amount, ?_⟩
  rw [weight, moves.absorbed, moves.amount, ← taken_value, weight]
  linarith

theorem takeAll_gives {billed : List Line} {line : Line} (placed : line.Placed places)
    (billed_placed : ∀ other ∈ billed, other.amount.HasPlaces places)
    (room : line.weight + 2 * Decimal.size (billed.map amount) < 10 ^ (28 - places)) :
    ∃ after, line.takeAll billed = .ok after ∧ Absorbs places line (Decimal.size (billed.map amount)) after ∧
      line.Moves (Decimal.size (billed.map amount)) after := by
  induction billed generalizing line with
  | nil => exact ⟨line, rfl, .none placed, .none line⟩
  | cons first rest ih =>
    -- absorbing one more line takes from the room just what that line had in it
    obtain ⟨first_placed, rest_placed⟩ := List.forall_mem_cons.1 billed_placed
    rw [List.map_cons, Decimal.size_cons] at room ⊢
    have others := Decimal.size_nonneg (rest.map amount)
    obtain ⟨middle, taken, before, moves⟩ := take_gives few placed first_placed (by linarith)
    have weight := before.weight
    obtain ⟨after, rest_taken, behind, more⟩ := ih before.placed rest_placed (by linarith)
    exact ⟨after, takeAll_cons_eq_ok.2 ⟨middle, taken, rest_taken⟩, before.trans behind, moves.trans more⟩

end Line

namespace Reconciliation

/-- What a billed line takes off the new bill: its size if a line of its unit absorbs it, else its
own value. -/
def deductedLine (units : List Json) (billed : Line) : ℚ :=
  if isPriced units billed then |billed.amount.value| else billed.amount.value

def deducted (units : List Json) (draft : Draft) : ℚ :=
  if draft.lines.isEmpty then draft.amount.value else (draft.lines.map (deductedLine units)).sum

def totalDeducted (units : List Json) (items : List Item) : ℚ :=
  (items.map fun item => deducted units item.toDraft).sum

def stakes (items : List Item) : List Decimal := items.flatMap fun item => item.stakes

theorem stakes_cons (item : Item) (items : List Item) :
    stakes (item :: items) = item.stakes ++ stakes items :=
  List.flatMap_cons

theorem stakes_append (left right : List Item) : stakes (left ++ right) = stakes left ++ stakes right :=
  List.flatMap_append

def weights (lines : List Line) : ℚ := (lines.map Line.weight).sum

theorem weights_cons (line : Line) (lines : List Line) :
    weights (line :: lines) = line.weight + weights lines := by
  rw [weights, List.map_cons, List.sum_cons, weights]

theorem weights_nonneg (lines : List Line) : 0 ≤ weights lines := by
  apply List.sum_nonneg
  intro weight member
  obtain ⟨line, _, rfl⟩ := List.mem_map.1 member
  exact add_nonneg (abs_nonneg _) (abs_nonneg _)

theorem weight_le_weights {line : Line} {lines : List Line} (member : line ∈ lines) :
    line.weight ≤ weights lines := by
  refine List.single_le_sum ?_ _ (List.mem_map_of_mem member)
  exact List.forall_mem_map.2 fun line _ => add_nonneg (abs_nonneg _) (abs_nonneg _)

theorem weights_eq (lines : List Line) : weights lines =
    Decimal.size (lines.map Line.amount) + Decimal.size (lines.map Line.absorbedSoFar) := by
  induction lines with
  | nil => exact (add_zero _).symm
  | cons line lines ih =>
    simp only [weights_cons, ih, List.map_cons, Decimal.size_cons, Line.weight]
    ring

theorem size_le_weights (lines : List Line) : Decimal.size (lines.map Line.amount) ≤ weights lines := by
  rw [weights_eq]
  exact le_add_of_nonneg_right (Decimal.size_nonneg _)

structure Absorb (places : Nat) (candidates : List Line) (taken : ℚ) (after : List Line) : Prop where
  units : after.map Line.unit = candidates.map Line.unit
  placed : ∀ line ∈ after, line.Placed places
  value : Decimal.total (after.map Line.amount) = Decimal.total (candidates.map Line.amount) - taken
  weight : weights after ≤ weights candidates + 2 * taken

theorem Absorb.none {places : Nat} {candidates : List Line}
    (placed : ∀ line ∈ candidates, line.Placed places) : Absorb places candidates 0 candidates :=
  ⟨rfl, placed, (sub_zero _).symm, by rw [mul_zero, add_zero]⟩

theorem Absorb.cons {places : Nat} {line after : Line} {lines others : List Line} {first rest : ℚ}
    (one : Line.Absorbs places line first after) (more : Absorb places lines rest others) :
    Absorb places (line :: lines) (first + rest) (after :: others) := by
  refine ⟨?_, List.forall_mem_cons.2 ⟨one.placed, more.placed⟩, ?_, ?_⟩
  · rw [List.map_cons, List.map_cons, one.unit, more.units]
  · rw [List.map_cons, List.map_cons, Decimal.total_cons, Decimal.total_cons, one.value, more.value]
    ring
  · have := one.weight
    have := more.weight
    rw [weights_cons, weights_cons]
    linarith

theorem size_filter (keep : Line → Bool) (lines : List Line) :
    Decimal.size ((lines.filter keep).map Line.amount) +
      Decimal.size ((lines.filter fun line => !keep line).map Line.amount) =
      Decimal.size (lines.map Line.amount) := by
  induction lines with
  | nil => exact add_zero _
  | cons line lines ih =>
    rw [List.map_cons, Decimal.size_cons, ← ih]
    cases kept : keep line <;>
      simp only [List.filter_cons, kept, Bool.not_true, Bool.not_false, Bool.false_eq_true, if_true,
        if_false, List.map_cons, Decimal.size_cons] <;> ring

theorem size_absorbed (candidate : Line) (units : List Json) (billed : List Line) :
    Decimal.size ((billed.filter candidate.sameUnit).map Line.amount) +
      Decimal.size (((billed.filter fun line => !candidate.sameUnit line).filter
        (isPriced units)).map Line.amount) =
      Decimal.size ((billed.filter (isPriced (candidate.unit :: units))).map Line.amount) := by
  rw [← size_filter candidate.sameUnit (billed.filter (isPriced (candidate.unit :: units))),
    List.filter_filter, List.filter_filter, List.filter_filter]
  -- left is that the same lines are kept on both sides
  congr 4
  · funext line
    rw [isPriced_cons]
    cases candidate.sameUnit line <;> rfl
  · funext line
    rw [isPriced_cons]
    cases candidate.sameUnit line <;> cases isPriced units line <;> rfl

/-- What is absorbed and what is left make up what is deducted for the lines. -/
theorem sum_deductedLine (units : List Json) (lines : List Line) :
    (lines.map (deductedLine units)).sum =
      Decimal.size ((lines.filter (isPriced units)).map Line.amount) +
      Decimal.total ((lines.filter fun line => !isPriced units line).map Line.amount) := by
  induction lines with
  | nil => exact (add_zero _).symm
  | cons line lines ih =>
    rw [List.map_cons, List.sum_cons, ih, deductedLine]
    cases priced : isPriced units line <;>
      simp only [List.filter_cons, priced, Bool.not_true, Bool.not_false, Bool.false_eq_true, if_true,
        if_false, List.map_cons, Decimal.size_cons, Decimal.total_cons] <;> ring

def refunds (units : List Json) (item : Item) : List ℚ :=
  if item.lines.isEmpty then [-item.amount.value]
  else (item.lines.filter fun line => !isPriced units line).map fun line => -line.amount.value

/-- What is absorbed of an item less what is deducted for it is taken back. -/
theorem sum_refunds (units : List Json) (item : Item) : (refunds units item).sum =
    Decimal.size ((item.lines.filter (isPriced units)).map Line.amount) - deducted units item.toDraft := by
  rw [refunds, deducted]
  split
  next empty =>
    rw [List.isEmpty_iff.1 empty]
    simp [Decimal.size_nil]
  next =>
    rw [sum_deductedLine, sub_add_cancel_left, Decimal.total, List.sum_neg, List.map_map, List.map_map]
    rfl

theorem size_refunds (units : List Json) (item : Item) : ((refunds units item).map abs).sum +
    Decimal.size ((item.lines.filter (isPriced units)).map Line.amount) ≤ Decimal.size item.stakes := by
  have alone := abs_nonneg item.amount.value
  rw [Draft.stakes, Decimal.size_cons, refunds]
  split
  next empty =>
    rw [List.isEmpty_iff.1 empty]
    simp [Decimal.size_nil]
  next =>
    have partition := size_filter (isPriced units) item.lines
    simp only [Decimal.size, List.map_map, Function.comp_def, abs_neg] at partition ⊢
    linarith

section

variable {lines : List Line} {values : List ℚ} (same : (lines.map fun line => line.amount.value) = values)

include same

theorem total_of_values : Decimal.total (lines.map Line.amount) = values.sum := by
  rw [← same, Decimal.total, List.map_map]
  rfl

theorem size_of_values : Decimal.size (lines.map Line.amount) = (values.map abs).sum := by
  rw [← same, Decimal.size, List.map_map, List.map_map]
  rfl

end

variable {places : Nat} (few : places ≤ 20)

include few

theorem absorbEach_gives {candidates billed : List Line}
    (placed : ∀ line ∈ candidates, line.Placed places)
    (billed_placed : ∀ line ∈ billed, line.amount.HasPlaces places)
    (room : weights candidates + 2 * Decimal.size (billed.map Line.amount) < 10 ^ (28 - places)) :
    ∃ after, absorbEach candidates billed = .ok after ∧ Absorb places candidates
      (Decimal.size ((billed.filter (isPriced (candidates.map Line.unit))).map Line.amount)) after := by
  induction candidates generalizing billed with
  | nil =>
    refine ⟨[], rfl, ?_⟩
    simpa only [List.map_nil, isPriced_nil, List.filter_false, Decimal.size_nil] using Absorb.none placed
  | cons candidate candidates ih =>
    obtain ⟨first_placed, rest_placed⟩ := List.forall_mem_cons.1 placed
    rw [weights_cons] at room
    have others := weights_nonneg candidates
    have alone : 0 ≤ candidate.weight := add_nonneg (abs_nonneg _) (abs_nonneg _)
    -- the candidates behind are met by what this one leaves
    have partition := size_filter candidate.sameUnit billed
    have taken := Decimal.size_nonneg ((billed.filter candidate.sameUnit).map Line.amount)
    have left := Decimal.size_nonneg ((billed.filter fun line => !candidate.sameUnit line).map Line.amount)
    have chosen_placed (keep : Line → Bool) : ∀ line ∈ billed.filter keep, line.amount.HasPlaces places :=
      fun line member => billed_placed line (List.mem_of_mem_filter member)
    obtain ⟨first, own, one, _⟩ :=
      Line.takeAll_gives few first_placed (chosen_placed candidate.sameUnit) (by linarith)
    obtain ⟨rest, behind, more⟩ :=
      ih rest_placed (chosen_placed fun line => !candidate.sameUnit line) (by linarith)
    refine ⟨first :: rest, absorbEach_cons_eq_ok.2 ⟨first, rest, own, behind, rfl⟩, ?_⟩
    rw [List.map_cons, ← size_absorbed]
    exact .cons one more

theorem reversals_give {left : List Line} (reference : Json)
    (placed : ∀ line ∈ left, line.amount.HasPlaces places)
    (room : Decimal.size (left.map Line.amount) < 10 ^ (28 - places)) :
    ∃ reversals, left.mapM (fun (line : Line) => line.reversal reference) = .ok reversals ∧
      (∀ line ∈ reversals, line.amount.HasPlaces places) ∧
      (reversals.map fun line => line.amount.value) = left.map fun line => -line.amount.value := by
  induction left with
  | nil => exact ⟨[], rfl, List.forall_mem_nil _, rfl⟩
  | cons line left ih =>
    obtain ⟨first_placed, rest_placed⟩ := List.forall_mem_cons.1 placed
    rw [List.map_cons, Decimal.size_cons] at room
    have alone := abs_nonneg line.amount.value
    have others := Decimal.size_nonneg (left.map Line.amount)
    obtain ⟨amount, negated, amount_placed, amount_value⟩ :=
      Decimal.neg_gives few first_placed (by linarith)
    obtain ⟨rest, reversed, more_placed, values⟩ := ih rest_placed (by linarith)
    refine ⟨_, mapM_cons_eq_ok.2 ⟨_, rest, Line.reversal_eq_ok.2 ⟨amount, negated, rfl⟩, reversed, rfl⟩,
      List.forall_mem_cons.2 ⟨amount_placed, more_placed⟩, ?_⟩
    rw [List.map_cons, List.map_cons, values, amount_value]

theorem adjustments_give (units : List Json) {item : Item}
    (stakes_placed : ∀ amount ∈ item.stakes, amount.HasPlaces places)
    (room : Decimal.size item.stakes < 10 ^ (28 - places)) :
    ∃ back, adjustments units item = .ok back ∧ (∀ line ∈ back, line.amount.HasPlaces places) ∧
      (back.map fun line => line.amount.value) = refunds units item := by
  obtain ⟨item_placed, lines_placed⟩ := List.forall_mem_cons.1 stakes_placed
  have alone := abs_nonneg item.amount.value
  have within := Decimal.size_nonneg (item.lines.map Line.amount)
  rw [Draft.stakes, Decimal.size_cons] at room
  unfold adjustments refunds
  split
  next =>
    obtain ⟨amount, negated, amount_placed, amount_value⟩ :=
      Decimal.neg_gives few item_placed (by linarith)
    refine ⟨_, map_eq_ok.2 ⟨amount, negated, rfl⟩, List.forall_mem_singleton.2 amount_placed, ?_⟩
    exact congrArg (fun value => [value]) amount_value
  next =>
    have partition := size_filter (isPriced units) item.lines
    have absorbed := Decimal.size_nonneg ((item.lines.filter (isPriced units)).map Line.amount)
    refine reversals_give few item.id (fun line member => ?_) (by linarith)
    exact lines_placed _ (List.mem_map_of_mem (List.mem_of_mem_filter member))

/-- What netting some items makes of the candidates. -/
structure Nets (places : Nat) (candidates : List Line) (taken stake : ℚ)
    (after reversals : List Line) : Prop where
  units : after.map Line.unit = candidates.map Line.unit
  after_placed : ∀ line ∈ after, line.Placed places
  reversals_placed : ∀ line ∈ reversals, line.amount.HasPlaces places
  value : Decimal.total (after.map Line.amount) + Decimal.total (reversals.map Line.amount) =
    Decimal.total (candidates.map Line.amount) - taken
  weight : weights after + Decimal.size (reversals.map Line.amount) ≤ weights candidates + 2 * stake

theorem netItem_gives {candidates : List Line} {item : Item} {read : Option (List Line)}
    (readable : Line.readBlob item.details = .ok read)
    (placed : ∀ line ∈ candidates, line.Placed places)
    (stakes_placed : ∀ amount ∈ item.stakes, amount.HasPlaces places)
    (room : weights candidates + 2 * Decimal.size item.stakes < 10 ^ (28 - places)) :
    ∃ after reversals, netItem candidates item = (after, .ok reversals) ∧
      Nets places candidates (deducted (candidates.map Line.unit) item.toDraft) (Decimal.size item.stakes)
        after reversals := by
  have others := weights_nonneg candidates
  have stake := Decimal.size_nonneg item.stakes
  have lines_placed : ∀ line ∈ item.lines, line.amount.HasPlaces places :=
    fun line member => stakes_placed _ (List.mem_cons_of_mem _ (List.mem_map_of_mem member))
  have within : Decimal.size (item.lines.map Line.amount) ≤ Decimal.size item.stakes :=
    Decimal.size_le_of_sublist (List.sublist_cons_self _ _)
  obtain ⟨after, absorbed, absorb⟩ := absorbEach_gives few placed lines_placed (by linarith)
  obtain ⟨back, made, back_placed, values⟩ :=
    adjustments_give few (candidates.map Line.unit) stakes_placed (by linarith)
  refine ⟨after, back, netItem_eq_ok.2 ⟨⟨read, readable⟩, absorbed, made⟩, absorb.units, absorb.placed,
    back_placed, ?_, ?_⟩
  · have total := sum_refunds (candidates.map Line.unit) item
    rw [absorb.value, total_of_values values]
    linarith
  · have size := size_refunds (candidates.map Line.unit) item
    have weight := absorb.weight
    have taken_back := Decimal.size_nonneg (back.map Line.amount)
    rw [← size_of_values values] at size
    linarith

theorem netItems_give {candidates : List Line} {items : List Item}
    (readable : ∀ item ∈ items, ∃ read, Line.readBlob item.details = .ok read)
    (placed : ∀ line ∈ candidates, line.Placed places)
    (stakes_placed : ∀ amount ∈ stakes items, amount.HasPlaces places)
    (room : weights candidates + 2 * Decimal.size (stakes items) < 10 ^ (28 - places)) :
    ∃ after reversals, netItems candidates items = (after, .ok reversals) ∧
      Nets places candidates (totalDeducted (candidates.map Line.unit) items)
        (Decimal.size (stakes items)) after reversals := by
  induction items generalizing candidates with
  | nil =>
    refine ⟨candidates, [], rfl, rfl, placed, List.forall_mem_nil _, ?_, ?_⟩
    · simp only [totalDeducted, List.map_nil, List.sum_nil, Decimal.total_nil]
      ring
    · simp only [stakes, List.flatMap_nil, List.map_nil, Decimal.size_nil]
      linarith
  | cons item items ih =>
    obtain ⟨⟨read, first_readable⟩, rest_readable⟩ := List.forall_mem_cons.1 readable
    rw [stakes_cons, Decimal.size_append] at room ⊢
    rw [stakes_cons, List.forall_mem_append] at stakes_placed
    have others := Decimal.size_nonneg (stakes items)
    obtain ⟨middle, first, netted, one⟩ :=
      netItem_gives few first_readable placed stakes_placed.1 (by linarith)
    have taken := Decimal.size_nonneg (first.map Line.amount)
    -- the next item meets changed candidates, but of the same units
    have weight := one.weight
    obtain ⟨after, rest, left, more⟩ :=
      ih rest_readable one.after_placed stakes_placed.2 (by linarith)
    refine ⟨after, first ++ rest, netItems_cons netted left, more.units.trans one.units,
      more.after_placed, ?_, ?_, ?_⟩
    · intro line member
      rcases List.mem_append.1 member with member | member
      · exact one.reversals_placed line member
      · exact more.reversals_placed line member
    · have value := one.value
      have values := more.value
      rw [one.units] at values
      rw [List.map_append, Decimal.total_append, totalDeducted, List.map_cons, List.sum_cons,
        ← totalDeducted]
      linarith
    · have weights := more.weight
      rw [List.map_append, Decimal.size_append]
      linarith

omit few in
theorem weights_of_fresh {candidates : List Line}
    (fresh : ∀ line ∈ candidates, line.absorbed = none) :
    weights candidates = Decimal.size (candidates.map Line.amount) := by
  induction candidates with
  | nil => rfl
  | cons line lines ih =>
    obtain ⟨first, rest⟩ := List.forall_mem_cons.1 fresh
    rw [weights_cons, ih rest, List.map_cons, Decimal.size_cons, Line.weight, Line.absorbedSoFar, first]
    simp only [Decimal.value_zero, abs_zero, add_zero]

/-- The new bill is the price less what is deducted for the earlier items. -/
theorem net_gives {candidates : List Line} {items : List Item}
    (readable : ∀ item ∈ items, ∃ read, Line.readBlob item.details = .ok read)
    (fresh : ∀ line ∈ candidates, line.absorbed = none)
    (placed : ∀ line ∈ candidates, line.amount.HasPlaces places)
    (stakes_placed : ∀ amount ∈ stakes items, amount.HasPlaces places)
    (room : Decimal.size (candidates.map Line.amount) + 2 * Decimal.size (stakes items) <
      10 ^ (28 - places)) :
    ∃ lines, net items candidates = .ok lines ∧ (∀ line ∈ lines, line.amount.HasPlaces places) ∧
      Decimal.total (lines.map Line.amount) = Decimal.total (candidates.map Line.amount) -
        totalDeducted (candidates.map Line.unit) items ∧
      Decimal.size (lines.map Line.amount) ≤
        Decimal.size (candidates.map Line.amount) + 2 * Decimal.size (stakes items) := by
  have both : ∀ line ∈ candidates, line.Placed places := by
    intro line member
    refine ⟨placed line member, ?_⟩
    rw [Line.absorbedSoFar, fresh line member]
    exact Decimal.zero_hasPlaces places
  have bounded := room
  rw [← weights_of_fresh fresh] at bounded
  obtain ⟨after, reversals, netted, nets⟩ := netItems_give few readable both stakes_placed bounded
  refine ⟨after ++ reversals, net_of_items netted, ?_, ?_, ?_⟩
  · intro line member
    rcases List.mem_append.1 member with member | member
    · exact (nets.after_placed line member).amount
    · exact nets.reversals_placed line member
  · rw [List.map_append, Decimal.total_append]
    exact nets.value
  · have weight := nets.weight
    have charged := size_le_weights after
    rw [List.map_append, Decimal.size_append]
    rw [weights_of_fresh fresh] at weight
    linarith

end Reconciliation

end Arrears
