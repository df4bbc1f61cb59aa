import Arrears.Proofs.Line.RoundTrip
import Arrears.Proofs.Reconciliation.Deduction

/-! The order of earlier items does not matter. Items are netted one after another and each meets the
candidates as the last one left them, but what an item leaves to be taken back is told by its lines
and by the units of the candidates, which stay. So a new bill has the same lines in any order, but
for amounts that moved between candidates; and amounts and deductions are sums over the items. -/

set_option autoImplicit false

namespace Arrears

/-- The data of a line, which it carries for others and keeps when amounts change. -/
def Line.carried (line : Line) : Json × Json × Json := (line.unit, line.quantity, line.reference)

namespace Line

theorem SameData.carried {line after : Line} (same : line.SameData after) : after.carried = line.carried := by
  rw [same]
  rfl

def holdsDecimal (carried : Json × Json × Json) : Bool :=
  carried.1.hasDecimal || carried.2.1.hasDecimal || carried.2.2.hasDecimal

theorem any_holdsDecimal (lines : List Line) :
    lines.any (carries Number.isDecimal) = (lines.map carried).any holdsDecimal := by
  rw [List.any_map]
  exact List.any_congr rfl fun line => (Bool.false_or _).trans (Bool.or_assoc ..).symm

theorem writeBlob_of_perm {lines others : List Line} {blob : Option String}
    (perm : (lines.map carried).Perm (others.map carried)) (written : writeBlob lines = .ok blob) :
    ∃ other, writeBlob others = .ok other := by
  have length : lines.length = others.length := by simpa using perm.length_eq
  have decimals : (lines.map carried).any holdsDecimal = (others.map carried).any holdsDecimal :=
    perm.any_eq
  simp only [writeBlob, writeBlobWithin, Option.any_none, Bool.or_false, List.isEmpty_iff_length_eq_zero,
    ← length, Json.hasNumber, itemsHave_toJson, any_holdsDecimal, ← decimals] at written ⊢
  split at written
  next empty => exact ⟨none, if_pos empty⟩
  next nonempty =>
    split at written
    next => cases written
    next exact =>
      rw [if_neg nonempty, if_neg exact]
      exact ⟨_, rfl⟩

end Line

namespace Reconciliation

def takenBack (units : List Json) (item : Item) : List (Json × Json × Json) :=
  if item.lines.isEmpty then [(.null, item.quantity, item.id)]
  else (item.lines.filter fun line => !isPriced units line).map fun line =>
    (line.unit, line.quantity, item.id)

theorem carried_adjustments {units : List Json} {item : Item} {back : List Line}
    (made : adjustments units item = .ok back) : back.map Line.carried = takenBack units item := by
  unfold adjustments at made
  unfold takenBack
  split at made
  next empty =>
    obtain ⟨amount, _, rfl⟩ := map_eq_ok.1 made
    rw [if_pos empty]
    rfl
  next nonempty =>
    rw [if_neg nonempty]
    refine map_mapM made fun line _ reversed one => ?_
    obtain ⟨amount, _, rfl⟩ := Line.reversal_eq_ok.1 one
    rfl

/-- The data of a new bill: that of the candidates, and what is taken back of each item. -/
theorem of_net {candidates lines : List Line} {items : List Item}
    (netted : net items candidates = .ok lines) :
    (∀ item ∈ items, ∃ read, Line.readBlob item.details = .ok read) ∧
      lines.map Line.carried =
        candidates.map Line.carried ++ items.flatMap (takenBack (candidates.map Line.unit)) := by
  obtain ⟨readable, after, back, absorbed, taken_back, rfl⟩ := net_eq_ok.1 netted
  refine ⟨readable, ?_⟩
  rw [List.map_append, map_absorbEach (fun _ _ same => same.carried) absorbed,
    map_flatten_mapM taken_back fun _ _ _ made => carried_adjustments made]

theorem carried_perm {candidates lines others : List Line} {items reordered : List Item}
    (perm : items.Perm reordered) (netted : net items candidates = .ok lines)
    (netted' : net reordered candidates = .ok others) :
    (lines.map Line.carried).Perm (others.map Line.carried) := by
  rw [(of_net netted).2, (of_net netted').2]
  exact (perm.flatMap_right _).append_left _

/-! ## Sums over the items -/

variable {items reordered : List Item}

theorem stakes_perm (perm : items.Perm reordered) : (stakes items).Perm (stakes reordered) :=
  perm.flatMap_right _

theorem totalBilled_perm (perm : items.Perm reordered) : totalBilled items = totalBilled reordered :=
  ((perm.map _).map _).sum_eq

theorem totalDeducted_perm (units : List Json) (perm : items.Perm reordered) :
    totalDeducted units items = totalDeducted units reordered :=
  (perm.map _).sum_eq

end Reconciliation

end Arrears
