import Arrears.Proofs.Reconciliation.Netting

/-! What is deducted for earlier items, against what they billed. A balanced item has lines that sum
up to its amount, or none. For it at least its amount is deducted, and more only where a line of
one of the units was negative: such a line is absorbed by its size. -/

set_option autoImplicit false

namespace Arrears

def Draft.Balanced (draft : Draft) : Prop :=
  draft.lines = [] ∨ Decimal.total (draft.lines.map Line.amount) = draft.amount.value

namespace Reconciliation

def totalBilled (items : List Item) : ℚ := Decimal.total (items.map fun item => item.amount)

def Unsigned (units : List Json) (draft : Draft) : Prop :=
  ∀ line ∈ draft.lines, isPriced units line = true → 0 ≤ line.amount.value

-- Identifiers do not count: amounts and stakes are those of the drafts.
theorem totalBilled_eq (items : List Item) :
    totalBilled items = Decimal.total ((items.map Item.toDraft).map Draft.amount) := by
  rw [List.map_map, totalBilled]
  rfl

theorem stakes_eq (items : List Item) :
    stakes items = (items.map Item.toDraft).flatMap Draft.stakes := by
  rw [List.flatMap_map, stakes]

theorem totalBilled_cons (item : Item) (items : List Item) :
    totalBilled (item :: items) = item.amount.value + totalBilled items := by
  rw [totalBilled, List.map_cons, Decimal.total_cons, totalBilled]

theorem totalBilled_append (left right : List Item) :
    totalBilled (left ++ right) = totalBilled left + totalBilled right := by
  rw [totalBilled, List.map_append, Decimal.total_append, totalBilled, totalBilled]

theorem amount_mem_stakes {item : Item} {items : List Item} (member : item ∈ items) :
    item.amount ∈ stakes items :=
  List.mem_flatMap.2 ⟨item, member, List.mem_cons_self⟩

theorem size_amounts_le (items : List Item) :
    Decimal.size (items.map fun item => item.amount) ≤ Decimal.size (stakes items) := by
  induction items with
  | nil => exact le_refl _
  | cons item items ih =>
    have within := Decimal.size_nonneg (item.lines.map Line.amount)
    rw [List.map_cons, stakes_cons, Decimal.size_append, Draft.stakes, Decimal.size_cons,
      Decimal.size_cons]
    linarith

theorem totalDeducted_cons (units : List Json) (item : Item) (items : List Item) :
    totalDeducted units (item :: items) = deducted units item.toDraft + totalDeducted units items := by
  rw [totalDeducted, List.map_cons, List.sum_cons, totalDeducted]

theorem totalDeducted_append (units : List Json) (left right : List Item) :
    totalDeducted units (left ++ right) = totalDeducted units left + totalDeducted units right := by
  rw [totalDeducted, List.map_append, List.sum_append, totalDeducted, totalDeducted]

theorem value_le_deductedLine (units : List Json) (line : Line) :
    line.amount.value ≤ deductedLine units line := by
  unfold deductedLine
  split
  · exact le_abs_self _
  · exact le_refl _

theorem deductedLine_eq_iff (units : List Json) (line : Line) :
    deductedLine units line = line.amount.value ↔
      (isPriced units line = true → 0 ≤ line.amount.value) := by
  unfold deductedLine
  split
  next priced => exact abs_eq_self.trans ⟨fun sign _ => sign, fun sign => sign priced⟩
  next other => exact iff_of_true rfl fun priced => absurd priced other

theorem unsigned_of_empty (units : List Json) {draft : Draft} (empty : draft.lines = []) :
    Unsigned units draft := by
  rw [Unsigned, empty]
  exact List.forall_mem_nil _

theorem deducted_of_empty (units : List Json) {draft : Draft} (empty : draft.lines = []) :
    deducted units draft = draft.amount.value := by
  rw [deducted, empty, List.isEmpty_nil, if_pos rfl]

theorem deducted_of_lines (units : List Json) {draft : Draft} (nonempty : draft.lines ≠ []) :
    deducted units draft = (draft.lines.map (deductedLine units)).sum := by
  rw [deducted, if_neg (by simpa using nonempty)]

theorem total_le_sum_deductedLine (units : List Json) (lines : List Line) :
    Decimal.total (lines.map Line.amount) ≤ (lines.map (deductedLine units)).sum := by
  induction lines with
  | nil => exact le_refl _
  | cons line lines ih =>
    rw [List.map_cons, List.map_cons, Decimal.total_cons, List.sum_cons]
    exact add_le_add (value_le_deductedLine units line) ih

/-- Lines are deducted by their own values just when none of the units is negative. -/
theorem sum_deductedLine_eq_iff (units : List Json) (lines : List Line) :
    (lines.map (deductedLine units)).sum = Decimal.total (lines.map Line.amount) ↔
      ∀ line ∈ lines, isPriced units line = true → 0 ≤ line.amount.value := by
  induction lines with
  | nil => exact iff_of_true rfl (List.forall_mem_nil _)
  | cons line lines ih =>
    -- no line is deducted by less than its value, so that equal sums mean equal lines
    have first := value_le_deductedLine units line
    have rest := total_le_sum_deductedLine units lines
    rw [List.map_cons, List.map_cons, Decimal.total_cons, List.sum_cons, List.forall_mem_cons,
      ← deductedLine_eq_iff, ← ih]
    constructor
    · intro same
      constructor <;> linarith
    · rintro ⟨one, more⟩
      rw [one, more]

theorem value_le_deducted (units : List Json) {draft : Draft} (balanced : draft.Balanced) :
    draft.amount.value ≤ deducted units draft := by
  by_cases empty : draft.lines = []
  · exact (deducted_of_empty units empty).ge
  · have total := balanced.resolve_left empty
    rw [deducted_of_lines units empty, ← total]
    exact total_le_sum_deductedLine units draft.lines

theorem deducted_eq_iff (units : List Json) {draft : Draft} (balanced : draft.Balanced) :
    deducted units draft = draft.amount.value ↔ Unsigned units draft := by
  by_cases empty : draft.lines = []
  · apply iff_of_true (deducted_of_empty units empty)
    exact unsigned_of_empty units empty
  · have total := balanced.resolve_left empty
    rw [deducted_of_lines units empty, ← total]
    exact sum_deductedLine_eq_iff units draft.lines

theorem totalBilled_le_totalDeducted (units : List Json) {items : List Item}
    (balanced : ∀ item ∈ items, item.Balanced) : totalBilled items ≤ totalDeducted units items := by
  induction items with
  | nil => exact le_refl _
  | cons item items ih =>
    obtain ⟨first, rest⟩ := List.forall_mem_cons.1 balanced
    rw [totalBilled_cons, totalDeducted_cons]
    exact add_le_add (value_le_deducted units first) (ih rest)

/-- Just what balanced items billed is deducted when no line of the units is negative, and else
more. -/
theorem totalDeducted_eq_iff (units : List Json) {items : List Item}
    (balanced : ∀ item ∈ items, item.Balanced) :
    totalDeducted units items = totalBilled items ↔ ∀ item ∈ items, Unsigned units item.toDraft := by
  induction items with
  | nil => exact iff_of_true rfl (List.forall_mem_nil _)
  | cons item items ih =>
    obtain ⟨first, rest⟩ := List.forall_mem_cons.1 balanced
    have one := value_le_deducted units first
    have more := totalBilled_le_totalDeducted units rest
    rw [totalBilled_cons, totalDeducted_cons, List.forall_mem_cons, ← deducted_eq_iff units first,
      ← ih rest]
    constructor
    · intro same
      constructor <;> linarith
    · rintro ⟨same, others⟩
      rw [same, others]

theorem totalDeducted_of_empty (units : List Json) {items : List Item}
    (empty : ∀ item ∈ items, item.lines = []) : totalDeducted units items = totalBilled items := by
  apply (totalDeducted_eq_iff units fun item member => .inl (empty item member)).2
  intro item member
  exact unsigned_of_empty units (empty item member)

end Reconciliation

end Arrears
