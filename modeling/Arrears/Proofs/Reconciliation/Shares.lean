import Arrears.Proofs.Outcome
import Arrears.Reconciliation

/-! Netting in closed form. Items are netted one after another and candidates meet the lines of each in
turn, but what becomes of a candidate is told by all billed lines at once: it absorbs those of its
unit that no candidate before it has the unit of. What no candidate has the unit of is taken back,
under the item it was billed by. -/

set_option autoImplicit false

namespace Arrears

def Draft.lines (draft : Draft) : List Line :=
  match Line.readBlob draft.details with
  | .ok (some lines) => lines
  | _ => []

namespace Line

theorem take_eq_ok {line billed after : Line} : line.take billed = (after, .ok ()) ↔
    ∃ taken absorbed amount, billed.amount.abs = .ok taken ∧
      line.absorbedSoFar.add taken = .ok absorbed ∧ line.amount.sub taken = .ok amount ∧
      after = { line with absorbed := some absorbed, amount } := by
  unfold take
  split
  next fails => simp [fails]
  next sized =>
    split
    next fails => simp [sized, fails]
    next added =>
      split
      next fails => simp [sized, added, fails]
      next subtracted => simp [sized, added, subtracted, eq_comm]

theorem reversal_eq_ok {line reversed : Line} {reference : Json} :
    line.reversal reference = .ok reversed ↔ ∃ amount, line.amount.neg = .ok amount ∧
      reversed = { line with amount, absorbed := none, reference } := by
  rw [reversal, bind_eq_ok]
  exact exists_congr fun amount => and_congr_right fun _ => ⟨fun same => (Except.ok.inj same).symm,
    fun same => congrArg Except.ok same.symm⟩

def taking (line billed : Line) : Except Decimal.Fault Line := do
  let taken ← billed.amount.abs
  let absorbed ← line.absorbedSoFar.add taken
  let amount ← line.amount.sub taken
  return { line with absorbed := some absorbed, amount }

def takeAll (line : Line) (billed : List Line) : Except Decimal.Fault Line := billed.foldlM taking line

def SameData (line after : Line) : Prop :=
  after = { line with amount := after.amount, absorbed := after.absorbed }

variable {line after : Line} {billed : List Line}

theorem taking_eq_ok {other : Line} : line.taking other = .ok after ↔ line.take other = (after, .ok ()) := by
  simp only [taking, bind_eq_ok, take_eq_ok]
  constructor
  · rintro ⟨taken, sized, absorbed, added, amount, subtracted, same⟩
    exact ⟨taken, absorbed, amount, sized, added, subtracted, (Except.ok.inj same).symm⟩
  · rintro ⟨taken, absorbed, amount, sized, added, subtracted, rfl⟩
    exact ⟨taken, sized, absorbed, added, amount, subtracted, rfl⟩

theorem takeAll_nil (line : Line) : line.takeAll [] = .ok line := rfl

theorem takeAll_cons_eq_ok {other : Line} : line.takeAll (other :: billed) = .ok after ↔
    ∃ middle, line.take other = (middle, .ok ()) ∧ middle.takeAll billed = .ok after := by
  simp only [takeAll, List.foldlM_cons, bind_eq_ok, taking_eq_ok]

theorem takeAll_append_eq_ok {more : List Line} : line.takeAll (billed ++ more) = .ok after ↔
    ∃ middle, line.takeAll billed = .ok middle ∧ middle.takeAll more = .ok after := by
  simp only [takeAll, List.foldlM_append, bind_eq_ok]

theorem sameData_take {other : Line} (taken : line.take other = (after, .ok ())) : line.SameData after := by
  obtain ⟨_, _, _, _, _, _, rfl⟩ := take_eq_ok.1 taken
  rfl

theorem SameData.trans {middle : Line} (first : line.SameData middle) (second : middle.SameData after) :
    line.SameData after := by
  rw [SameData] at *
  rw [second, first]

theorem sameData_takeAll (taken : line.takeAll billed = .ok after) : line.SameData after := by
  induction billed generalizing line with
  | nil => cases taken; rfl
  | cons other billed ih =>
    obtain ⟨middle, one, rest⟩ := takeAll_cons_eq_ok.1 taken
    exact (sameData_take one).trans (ih rest)

theorem SameData.unit (same : line.SameData after) : after.unit = line.unit := by
  rw [same]

theorem SameData.sameUnit (same : line.SameData after) : after.sameUnit = line.sameUnit := by
  funext other
  rw [Line.sameUnit, same.unit, Line.sameUnit]

/-- To absorb is to take all lines of the unit and to leave the others. -/
theorem absorb_eq_ok {left : List Line} : line.absorb billed = (after, .ok left) ↔
    line.takeAll (billed.filter line.sameUnit) = .ok after ∧
      left = billed.filter fun other => !line.sameUnit other := by
  induction billed generalizing line left with
  | nil => simp [absorb, takeAll_nil, eq_comm]
  | cons first rest ih =>
    unfold absorb
    split
    next same =>
      rw [List.filter_cons_of_pos same, List.filter_cons_of_neg (by simp [same]), takeAll_cons_eq_ok]
      split
      next fails => simp [fails]
      next taken =>
        rw [ih, (sameData_take taken).sameUnit]
        simp [taken]
    next different =>
      rw [List.filter_cons_of_neg different, List.filter_cons_of_pos (by simpa using different)]
      simp only [Prod.mk.injEq, map_eq_ok]
      constructor
      · rintro ⟨rfl, others, left_eq, rfl⟩
        obtain ⟨taken, rfl⟩ := ih.1 (Prod.ext rfl left_eq)
        exact ⟨taken, rfl⟩
      · rintro ⟨taken, rfl⟩
        have rest := ih.2 ⟨taken, rfl⟩
        exact ⟨congrArg Prod.fst rest, _, congrArg Prod.snd rest, rfl⟩

end Line

namespace Reconciliation

/-! ## Candidates -/

def isPriced (units : List Json) (billed : Line) : Bool := units.any fun unit => billed.unit.eqv unit

theorem isPriced_nil : isPriced [] = fun _ => false := rfl

theorem isPriced_cons (candidate : Line) (units : List Json) (billed : Line) :
    isPriced (candidate.unit :: units) billed = (candidate.sameUnit billed || isPriced units billed) :=
  rfl

theorem filter_left (candidate : Line) (units : List Json) (billed : List Line) :
    (billed.filter fun line => !candidate.sameUnit line).filter (fun line => !isPriced units line) =
      billed.filter fun line => !isPriced (candidate.unit :: units) line := by
  rw [List.filter_filter]
  apply List.filter_congr
  intro line _
  rw [isPriced_cons, Bool.not_or, Bool.and_comm]

def absorbEach : List Line → List Line → Except Decimal.Fault (List Line)
  | [], _ => .ok []
  | candidate :: candidates, billed => do
    let first ← candidate.takeAll (billed.filter candidate.sameUnit)
    let others ← absorbEach candidates (billed.filter fun line => !candidate.sameUnit line)
    return first :: others

/-- The lines that a candidate absorbs of billed ones, with other candidates before it. -/
def share (earlier : List Line) (candidate : Line) (billed : List Line) : List Line :=
  billed.filter fun line => candidate.sameUnit line && !isPriced (earlier.map Line.unit) line

variable {candidates after billed left : List Line}

theorem absorbEach_cons_eq_ok {candidate : Line} : absorbEach (candidate :: candidates) billed = .ok after ↔
    ∃ first others, candidate.takeAll (billed.filter candidate.sameUnit) = .ok first ∧
      absorbEach candidates (billed.filter fun line => !candidate.sameUnit line) = .ok others ∧
      after = first :: others := by
  simp only [absorbEach, bind_eq_ok]
  constructor
  · rintro ⟨first, taken, others, rest, same⟩
    exact ⟨first, others, taken, rest, (Except.ok.inj same).symm⟩
  · rintro ⟨first, others, taken, rest, rfl⟩
    exact ⟨first, taken, others, rest, rfl⟩

theorem absorbAll_eq_ok : absorbAll candidates billed = (after, .ok left) ↔
    absorbEach candidates billed = .ok after ∧
      left = billed.filter fun line => !isPriced (candidates.map Line.unit) line := by
  induction candidates generalizing billed after left with
  | nil =>
    have all : billed.filter (fun _ => true) = billed := List.filter_eq_self.2 fun _ _ => rfl
    simp [absorbAll, absorbEach, isPriced_nil, all, eq_comm]
  | cons candidate candidates ih =>
    rw [absorbEach_cons_eq_ok]
    unfold absorbAll
    constructor
    · intro absorbed
      split at absorbed
      next => cases absorbed
      next one =>
        dsimp only at absorbed
        obtain ⟨same, rest⟩ := Prod.mk.inj absorbed
        obtain ⟨taken, rfl⟩ := Line.absorb_eq_ok.1 one
        obtain ⟨others, rfl⟩ := ih.1 (Prod.ext rfl rest)
        exact ⟨⟨_, _, taken, others, same.symm⟩, filter_left candidate _ billed⟩
    · rintro ⟨⟨first, others, taken, rest, rfl⟩, rfl⟩
      rw [Line.absorb_eq_ok.2 ⟨taken, rfl⟩]
      dsimp only
      rw [ih.2 ⟨rest, rfl⟩, filter_left]
      rfl

theorem absorbEach_nil (candidates : List Line) : absorbEach candidates [] = .ok candidates := by
  induction candidates with
  | nil => rfl
  | cons candidate candidates ih => exact absorbEach_cons_eq_ok.2 ⟨candidate, candidates, rfl, ih, rfl⟩

theorem map_absorbEach {β : Type} {data : Line → β} (kept : ∀ line after, line.SameData after → data after = data line)
    (absorbed : absorbEach candidates billed = .ok after) : after.map data = candidates.map data := by
  induction candidates generalizing billed after with
  | nil => cases absorbed; rfl
  | cons candidate candidates ih =>
    obtain ⟨first, others, taken, rest, rfl⟩ := absorbEach_cons_eq_ok.1 absorbed
    rw [List.map_cons, List.map_cons, kept _ _ (Line.sameData_takeAll taken), ih rest]

theorem units_absorbEach (absorbed : absorbEach candidates billed = .ok after) :
    after.map Line.unit = candidates.map Line.unit :=
  map_absorbEach (fun _ _ same => same.unit) absorbed

theorem absorbEach_append_eq_ok {more : List Line} : absorbEach candidates (billed ++ more) = .ok after ↔
    ∃ middle, absorbEach candidates billed = .ok middle ∧ absorbEach middle more = .ok after := by
  induction candidates generalizing billed more after with
  | nil => simp [absorbEach]
  | cons candidate candidates ih =>
    simp only [absorbEach_cons_eq_ok, List.filter_append, Line.takeAll_append_eq_ok, ih]
    constructor
    · rintro ⟨first, others, ⟨middle, taken, again⟩, ⟨rest, absorbed, absorbed_again⟩, rfl⟩
      refine ⟨middle :: rest, ⟨middle, rest, taken, absorbed, rfl⟩, absorbEach_cons_eq_ok.2 ?_⟩
      rw [(Line.sameData_takeAll taken).sameUnit]
      exact ⟨first, others, again, absorbed_again, rfl⟩
    · rintro ⟨_, ⟨middle, rest, taken, absorbed, rfl⟩, again⟩
      obtain ⟨first, others, taken_again, absorbed_again, rfl⟩ := absorbEach_cons_eq_ok.1 again
      rw [(Line.sameData_takeAll taken).sameUnit] at taken_again absorbed_again
      exact ⟨first, others, ⟨middle, taken, taken_again⟩, ⟨rest, absorbed, absorbed_again⟩, rfl⟩

theorem share_cons (first candidate : Line) (earlier billed : List Line) :
    share earlier candidate (billed.filter fun line => !first.sameUnit line) =
      share (first :: earlier) candidate billed := by
  rw [share, share, List.filter_filter]
  apply List.filter_congr
  intro line _
  rw [List.map_cons, isPriced_cons, Bool.not_or]
  cases first.sameUnit line <;> simp

/-- The candidates absorb as each of them, in its place, takes its share. -/
theorem absorbEach_eq_ok : absorbEach candidates billed = .ok after ↔ after.length = candidates.length ∧
    ∀ (i : Nat) (candidate updated : Line), candidates[i]? = some candidate → after[i]? = some updated →
      candidate.takeAll (share (candidates.take i) candidate billed) = .ok updated := by
  induction candidates generalizing billed after with
  | nil => simp [absorbEach, eq_comm]
  | cons first candidates ih =>
    have alone : share [] first billed = billed.filter first.sameUnit := by simp [share, isPriced_nil]
    rw [absorbEach_cons_eq_ok]
    constructor
    · rintro ⟨_, others, taken, rest, rfl⟩
      obtain ⟨length, each⟩ := ih.1 rest
      refine ⟨by simp [length], fun i candidate updated found at_i => ?_⟩
      cases i with
      | zero =>
        cases found
        cases at_i
        rwa [List.take_zero, alone]
      | succ i =>
        rw [List.take_succ_cons, ← share_cons]
        exact each i candidate updated found at_i
    · rintro ⟨length, each⟩
      cases after with
      | nil => cases length
      | cons updated others =>
        have taken := each 0 first updated rfl rfl
        rw [List.take_zero, alone] at taken
        refine ⟨updated, others, taken, ih.2 ⟨Nat.succ.inj length, fun i candidate updated found at_i => ?_⟩, rfl⟩
        rw [share_cons, ← List.take_succ_cons]
        exact each (i + 1) candidate updated found at_i

/-! ## Items -/

/-- The lines that take back what candidates of some units do not absorb of an item. -/
def adjustments (units : List Json) (item : Item) : Except Decimal.Fault (List Line) :=
  if item.lines.isEmpty then
    item.amount.neg.map fun amount => [Line.adjustment item.rate item.quantity amount item.id]
  else (item.lines.filter fun line => !isPriced units line).mapM fun (line : Line) => line.reversal item.id

def linesOf (items : List Item) : List Line := items.flatMap fun item => item.lines

theorem linesOf_cons (item : Item) (items : List Item) : linesOf (item :: items) = item.lines ++ linesOf items :=
  List.flatMap_cons

theorem lines_of_read {draft : Draft} {read : Option (List Line)}
    (readable : Line.readBlob draft.details = .ok read) : draft.lines = read.getD [] := by
  rw [Draft.lines, readable]
  cases read <;> rfl

variable {item : Item} {items : List Item}

theorem netItem_eq_ok {back : List Line} : netItem candidates item = (after, .ok back) ↔
    (∃ read, Line.readBlob item.details = .ok read) ∧ absorbEach candidates item.lines = .ok after ∧
      adjustments (candidates.map Line.unit) item = .ok back := by
  cases readable : Line.readBlob item.details with
  | error fault => simp [netItem, readable]
  | ok read =>
    rw [netItem, readable, adjustments, lines_of_read readable]
    -- an absent blob and one without lines are taken back alike
    cases read with
    | none => simp [absorbEach_nil, map_eq_ok, mapError_eq_ok]
    | some lines =>
      cases lines with
      | nil => simp [absorbEach_nil, map_eq_ok, mapError_eq_ok]
      | cons first rest =>
        simp only [Option.getD_some, List.isEmpty_cons, Bool.false_eq_true, if_false, Except.ok.injEq,
          exists_eq', true_and]
        constructor
        · intro netted
          split at netted
          next => cases netted
          next absorbed =>
            obtain ⟨rfl, reversed⟩ := Prod.mk.inj netted
            obtain ⟨each, rfl⟩ := absorbAll_eq_ok.1 absorbed
            exact ⟨each, mapError_eq_ok.1 reversed⟩
        · rintro ⟨each, reversed⟩
          rw [absorbAll_eq_ok.2 ⟨each, rfl⟩]
          dsimp only
          rw [reversed]
          rfl

theorem netItems_cons {candidates middle after first rest : List Line} {item : Item} {items : List Item}
    (one : netItem candidates item = (middle, .ok first))
    (more : netItems middle items = (after, .ok rest)) :
    netItems candidates (item :: items) = (after, .ok (first ++ rest)) := by
  simp only [netItems, one, more, Except.map]

theorem netItems_nil (candidates : List Line) : netItems candidates [] = (candidates, .ok []) := rfl

theorem net_of_items {candidates after reversals : List Line} {items : List Item}
    (netted : netItems candidates items = (after, .ok reversals)) :
    net items candidates = .ok (after ++ reversals) := by
  rw [net, netted]
  rfl

theorem netItems_eq_ok {back : List Line} : netItems candidates items = (after, .ok back) ↔
    (∀ item ∈ items, ∃ read, Line.readBlob item.details = .ok read) ∧
      absorbEach candidates (linesOf items) = .ok after ∧
        ∃ each, items.mapM (adjustments (candidates.map Line.unit)) = .ok each ∧ back = each.flatten := by
  induction items generalizing candidates after back with
  | nil =>
    constructor
    · intro netted
      cases netted
      exact ⟨List.forall_mem_nil _, absorbEach_nil candidates, [], rfl, rfl⟩
    · rintro ⟨_, absorbed, _, none, rfl⟩
      cases mapM_nil_eq_ok.1 none
      cases (absorbEach_nil candidates).symm.trans absorbed
      rfl
  | cons item items ih =>
    rw [linesOf_cons, absorbEach_append_eq_ok, List.forall_mem_cons]
    -- the candidates that the next item meets have other amounts, and the units they had
    constructor
    · intro netted
      unfold netItems at netted
      split at netted
      next => cases netted
      next middle first one =>
        dsimp only at netted
        obtain ⟨same, more⟩ := Prod.mk.inj netted
        obtain ⟨rest, left, rfl⟩ := map_eq_ok.1 more
        obtain ⟨readable, absorbed, taken_back⟩ := netItem_eq_ok.1 one
        obtain ⟨rest_readable, others, each, others_back, rfl⟩ := ih.1 (Prod.ext same left)
        rw [units_absorbEach absorbed] at others_back
        exact ⟨⟨readable, rest_readable⟩, ⟨middle, absorbed, others⟩, first :: each,
          mapM_cons_eq_ok.2 ⟨first, each, taken_back, others_back, rfl⟩, rfl⟩
    · rintro ⟨⟨readable, rest_readable⟩, ⟨middle, absorbed, others⟩, _, all_back, rfl⟩
      obtain ⟨first, each, taken_back, others_back, rfl⟩ := mapM_cons_eq_ok.1 all_back
      rw [← units_absorbEach absorbed] at others_back
      exact netItems_cons (netItem_eq_ok.2 ⟨readable, absorbed, taken_back⟩)
        (ih.2 ⟨rest_readable, others, each, others_back, rfl⟩)

/-- Netting reads every blob, hands the lines of all items to the candidates, and takes back the rest
item by item. -/
theorem net_eq_ok {lines : List Line} : net items candidates = .ok lines ↔
    (∀ item ∈ items, ∃ read, Line.readBlob item.details = .ok read) ∧
      ∃ after each, absorbEach candidates (linesOf items) = .ok after ∧
        items.mapM (adjustments (candidates.map Line.unit)) = .ok each ∧ lines = after ++ each.flatten := by
  rw [net, map_eq_ok]
  constructor
  · rintro ⟨back, taken_back, rfl⟩
    obtain ⟨readable, absorbed, each, all_back, rfl⟩ := netItems_eq_ok.1 (Prod.ext rfl taken_back)
    exact ⟨readable, _, each, absorbed, all_back, rfl⟩
  · rintro ⟨readable, after, each, absorbed, all_back, rfl⟩
    have netted := netItems_eq_ok.2 ⟨readable, absorbed, each, all_back, rfl⟩
    exact ⟨each.flatten, congrArg Prod.snd netted, by rw [netted]⟩

end Reconciliation

end Arrears
