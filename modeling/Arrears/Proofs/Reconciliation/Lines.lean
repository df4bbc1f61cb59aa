import Arrears.Proofs.Line.Blob
import Arrears.Proofs.Reconciliation.Shares

/-! The lines of a new bill can be written and read back: absorbing and taking back change amounts
alone, and every amount that arithmetic gives is representable. -/

set_option autoImplicit false

namespace Arrears

/-- What every item has that billing is given or makes: a quantity that is a whole number, if it has
one, and a rate that can be written. -/
structure Draft.WellFormed (draft : Draft) : Prop where
  quantity : draft.quantity.IsCount
  rate : ∀ d, draft.rate = some d → d.Representable

structure Item.WellFormed (item : Item) : Prop extends item.toDraft.WellFormed where
  id : item.id.hasFloat = false

namespace Decimal

theorem sub_representable {left right d : Decimal} (subtracted : left.sub right = .ok d) :
    d.Representable :=
  add_representable subtracted

end Decimal

namespace Line

theorem sound_take {line billed after : Line} (sound : line.Sound)
    (taken : line.take billed = (after, .ok ())) : after.Sound := by
  obtain ⟨_, absorbed, amount, _, added, subtracted, rfl⟩ := take_eq_ok.1 taken
  have held : ∀ d, some absorbed = some d → d.Representable := by
    rintro d same
    cases same
    exact Decimal.add_representable added
  exact { sound with amount := Decimal.sub_representable subtracted, absorbed := held }

theorem sound_takeAll {billed : List Line} {line after : Line} (sound : line.Sound)
    (taken : line.takeAll billed = .ok after) : after.Sound := by
  induction billed generalizing line with
  | nil =>
    cases taken
    exact sound
  | cons other billed ih =>
    obtain ⟨middle, one, rest⟩ := takeAll_cons_eq_ok.1 taken
    exact ih (sound_take sound one) rest

theorem sound_reversal {line reversed : Line} {reference : Json} (sound : line.Sound)
    (plain : reference.hasFloat = false) (made : line.reversal reference = .ok reversed) :
    reversed.Sound := by
  obtain ⟨amount, negated, rfl⟩ := reversal_eq_ok.1 made
  exact { sound with
    amount := Decimal.neg_representable negated
    absorbed := nofun
    reference := plain }

end Line

namespace Reconciliation

theorem sound_absorbEach {candidates after billed : List Line} (sound : ∀ line ∈ candidates, line.Sound)
    (absorbed : absorbEach candidates billed = .ok after) : ∀ line ∈ after, line.Sound := by
  induction candidates generalizing billed after with
  | nil =>
    cases absorbed
    exact List.forall_mem_nil _
  | cons candidate candidates ih =>
    obtain ⟨first, others, taken, rest, rfl⟩ := absorbEach_cons_eq_ok.1 absorbed
    obtain ⟨first_sound, rest_sound⟩ := List.forall_mem_cons.1 sound
    exact List.forall_mem_cons.2 ⟨Line.sound_takeAll first_sound taken, ih rest_sound rest⟩

theorem sound_lines (draft : Draft) : ∀ line ∈ draft.lines, line.Sound := by
  unfold Draft.lines
  split
  next readable => exact Line.sound_readBlob readable
  next => exact List.forall_mem_nil _

theorem sound_adjustments {units : List Json} {item : Item} {back : List Line} (formed : item.WellFormed)
    (made : adjustments units item = .ok back) : ∀ line ∈ back, line.Sound := by
  unfold adjustments at made
  split at made
  next =>
    obtain ⟨amount, negated, rfl⟩ := map_eq_ok.1 made
    have zero : ∀ d, some Decimal.zero = some d → d.Representable := by
      rintro d same
      cases same
      decide
    refine List.forall_mem_singleton.2 ?_
    exact {
      price := formed.rate
      amount := Decimal.neg_representable negated
      absorbed := zero
      quantity := formed.quantity
      unit := rfl
      reference := formed.id }
  next =>
    refine forall_mem_mapM made fun line member reversed one => ?_
    exact Line.sound_reversal (sound_lines _ line (List.mem_filter.1 member).1) formed.id one

/-- A bill that is netted has read every blob, and all its lines are sound. -/
theorem sound_net {candidates lines : List Line} {items : List Item}
    (sound : ∀ line ∈ candidates, line.Sound) (formed : ∀ item ∈ items, item.WellFormed)
    (netted : net items candidates = .ok lines) :
    (∀ item ∈ items, ∃ read, Line.readBlob item.details = .ok read) ∧
      ∀ line ∈ lines, line.Sound := by
  obtain ⟨readable, after, back, absorbed, taken_back, rfl⟩ := net_eq_ok.1 netted
  refine ⟨readable, List.forall_mem_append.2 ⟨sound_absorbEach sound absorbed, ?_⟩⟩
  intro line member
  obtain ⟨lines, among, line_mem⟩ := List.mem_flatten.1 member
  exact forall_mem_mapM taken_back (fun item member lines made => sound_adjustments (formed item member) made)
    lines among line line_mem

end Reconciliation

end Arrears
