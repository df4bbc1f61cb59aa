import Arrears.Proofs.Interval.History

/-! What a history bills in total. For a pair of transitions that is never more than the highest
price of the runs so far. It is just the highest price as long as the runs that raise it deduct what
was billed and no more, as they do in detail mode; a run that meets a negative line of an earlier
item deducts more, and leaves the difference unbilled for good. -/

set_option autoImplicit false

namespace Arrears

namespace UsageInterval

def highestDue (interval : UsageInterval) (start stop : Date) : List Turn → ℚ
  | [] => 0
  | turn :: earlier =>
    max ((interval.under turn.toRun).due start stop) (interval.highestDue start stop earlier)

/-- No history bills more for a pair of transitions than the highest price of its runs, and no run
takes anything back. -/
theorem never_overbilled {fresh interval : UsageInterval} {closed : Bool} {turns : List Turn}
    {start stop : Date} (built : fresh.build closed = .ok interval)
    (wellPriced : interval.usage.WellPriced) (history : History interval turns)
    (pair : (start, stop) ∈ Rollup.pairs interval.transitions) :
    billedIn start stop turns ≤ interval.highestDue start stop turns ∧
      ∀ turn ∈ turns, 0 ≤ billedFor start stop (turn.issued.map Item.toDraft) := by
  have increasing := increasing_of_build built
  induction turns with
  | nil => exact ⟨le_refl _, List.forall_mem_nil _⟩
  | cons turn earlier ih =>
    obtain ⟨bound, gains⟩ := ih history.before
    have nonneg := history.before.billedIn_nonneg increasing wellPriced pair
    have deducted := history.before.billedIn_le increasing wellPriced pair turn.toRun
    constructor
    · rw [history.billedIn_next increasing wellPriced pair, highestDue]
      -- either nothing is added, or what is added brings the total up to the price at most
      rcases le_total ((interval.under turn.toRun).due start stop)
        ((interval.under turn.toRun).deductedFor (itemsOf earlier) start stop) with covered | left
      · rw [max_eq_left (sub_nonpos.2 covered), add_zero]
        exact bound.trans (le_max_right _ _)
      · rw [max_eq_right (sub_nonneg.2 left)]
        apply le_max_of_le_left
        linarith
    · refine List.forall_mem_cons.2 ⟨?_, gains⟩
      rw [history.billedFor_issued increasing wellPriced pair nonneg]
      exact le_max_left _ _

open Calls (january february) in
theorem never_overbilled_calls :
    billedIn january february [Calls.second, Calls.first] ≤
        Calls.interval.highestDue january february [Calls.second, Calls.first] ∧
      ∀ turn ∈ [Calls.second, Calls.first],
        0 ≤ billedFor january february (turn.issued.map Item.toDraft) := by
  have pair : (january, february) ∈ Rollup.pairs Calls.interval.transitions := List.mem_cons_self
  exact never_overbilled Calls.build_collecting Calls.wellPriced_usage Calls.history_second pair

/-! ## Billing in full -/

section

variable {interval : UsageInterval} {turn : Turn} {turns earlier : List Turn} {start stop : Date}
  (increasing : Increasing interval.transitions) (wellPriced : interval.usage.WellPriced)
  (pair : (start, stop) ∈ Rollup.pairs interval.transitions)

include increasing wellPriced pair

-- Where all was billed before, a run bills all of a higher price just if it deducts no more than
-- what was billed.
theorem History.billed_next_iff (history : History interval (turn :: earlier))
    (full : billedIn start stop earlier = interval.highestDue start stop earlier) :
    billedIn start stop (turn :: earlier) = interval.highestDue start stop (turn :: earlier) ↔
      (interval.highestDue start stop earlier < (interval.under turn.toRun).due start stop →
        ∀ item ∈ Reconciliation.billedItems interval.usage.name start stop (itemsOf earlier),
          Reconciliation.Unsigned ((interval.under turn.toRun).unitsDue start stop) item.toDraft) := by
  have deducted := history.before.billedIn_le increasing wellPriced pair turn.toRun
  rw [history.billedIn_next increasing wellPriced pair, highestDue,
    ← history.before.deductedFor_eq_iff increasing wellPriced pair turn.toRun]
  rw [full] at deducted ⊢
  generalize (interval.under turn.toRun).due start stop = price at deducted ⊢
  generalize (interval.under turn.toRun).deductedFor (itemsOf earlier) start stop = taken at deducted ⊢
  -- a price that is not higher adds nothing, and the highest stays
  rcases le_or_gt price (interval.highestDue start stop earlier) with low | high
  · refine iff_of_true ?_ fun higher => absurd higher (not_lt.2 low)
    rw [max_eq_right low, max_eq_left, add_zero]
    linarith
  · rw [max_eq_left high.le]
    constructor
    · intro all _
      rcases le_total price taken with covered | left
      · rw [max_eq_left (sub_nonpos.2 covered)] at all
        linarith
      · rw [max_eq_right (sub_nonneg.2 left)] at all
        linarith
    · intro same
      rw [same high, max_eq_right (sub_nonneg.2 high.le)]
      ring

end

/-! ## Detail mode -/

/-- A history in detail mode makes no items with lines. -/
theorem History.lines_of_detail {interval : UsageInterval} {turns : List Turn}
    (history : History interval turns) (detail : ∀ turn ∈ turns, turn.mode = .detail) :
    ∀ item ∈ itemsOf turns, item.lines = [] := by
  induction history with
  | start => exact List.forall_mem_nil _
  | @next turn earlier date before exact success issued ih =>
    obtain ⟨latest, others⟩ := List.forall_mem_cons.1 detail
    refine List.forall_mem_append.2 ⟨ih others, ?_⟩
    obtain ⟨event, bills⟩ := bills_of_success success
    intro item member
    have drafted := List.mem_map_of_mem (f := Item.toDraft) member
    rw [issued.drafts, bills.drafts] at drafted
    rcases List.mem_append.1 drafted with marker | made
    · obtain ⟨_, _, same⟩ := List.mem_map.1 marker
      rw [← same]
      exact lines_detail
    · obtain ⟨rolled, among, made⟩ := List.mem_flatMap.1 made
      exact @billRolled_detail (interval.under turn.toRun) _ _ _ _ latest (bills.each rolled among) _ made

/-- In detail mode what is billed for a pair of transitions is a high-water mark of its price. A run
over items without lines, which may also be in the other mode, brings what they billed up to the
price; and a history comes to the highest price. -/
theorem detail_bills_highest {fresh interval : UsageInterval} {closed : Bool}
    (built : fresh.build closed = .ok interval) (wellPriced : interval.usage.WellPriced) :
    (∀ (existing : List Item) (date : Date), (∀ item ∈ existing, item.WellFormed) →
      Decimal.Exact (interval.stakes existing) → (interval.bill existing).next = .ok date →
      ∀ rolled ∈ interval.usageRolledUp,
        (∀ item ∈ interval.billedBefore existing rolled, item.lines = []) →
        Reconciliation.totalBilled (interval.billedBefore existing rolled) +
            billedFor rolled.start rolled.stop (interval.bill existing).drafts =
          max (Reconciliation.totalBilled (interval.billedBefore existing rolled))
            (interval.price rolled.units)) ∧
    ∀ (turns : List Turn), History interval turns → (∀ turn ∈ turns, turn.mode = .detail) →
      ∀ start stop, (start, stop) ∈ Rollup.pairs interval.transitions →
        billedIn start stop turns = interval.highestDue start stop turns := by
  have increasing := increasing_of_build built
  constructor
  · intro existing date formed exact success rolled member empty
    obtain ⟨places, run⟩ := exactRun_of increasing wellPriced formed exact
    obtain ⟨event, bills⟩ := bills_of_success success
    have balanced : ∀ item ∈ interval.billedBefore existing rolled, item.Balanced :=
      fun item among => .inl (empty item among)
    rw [run.billedFor_rolled bills member balanced, Reconciliation.totalDeducted_of_empty _ empty,
      ← max_add_add_left, add_zero, add_sub_cancel]
  · intro turns history detail start stop pair
    induction turns with
    | nil => rfl
    | cons turn earlier ih =>
      obtain ⟨_, others⟩ := List.forall_mem_cons.1 detail
      apply (history.billed_next_iff increasing wellPriced pair (ih history.before others)).2
      intro _ item member
      apply Reconciliation.unsigned_of_empty
      exact history.before.lines_of_detail others item (List.mem_filter.1 member).1

open Calls (january february paid first detailed) in
theorem detail_bills_highest_calls :
    Reconciliation.totalBilled (detailed.billedBefore [paid 1] (Calls.rolled 25)) +
        billedFor january february (detailed.bill [paid 1]).drafts =
      max (Reconciliation.totalBilled (detailed.billedBefore [paid 1] (Calls.rolled 25)))
        (detailed.price (Calls.rolled 25).units) ∧
    billedIn january february [Calls.turn 35 .detail [first], first] =
      Calls.interval.highestDue january february [Calls.turn 35 .detail [first], first] := by
  constructor
  · have formed : ∀ item ∈ [paid 1], item.WellFormed :=
      List.forall_mem_cons.2 ⟨Calls.wellFormed_paid 1, List.forall_mem_nil _⟩
    have exact : Decimal.Exact (detailed.stakes [paid 1]) := @Decimal.exact_ofInt [2, 2, 1] (by decide)
    have success : (detailed.bill [paid 1]).next = .ok Calls.march := by rfl
    have used : Calls.rolled 25 ∈ detailed.usageRolledUp := List.mem_cons_self
    have empty : ∀ item ∈ detailed.billedBefore [paid 1] (Calls.rolled 25), item.lines = [] :=
      List.forall_mem_cons.2 ⟨lines_of_null rfl, List.forall_mem_nil _⟩
    have both := detail_bills_highest Calls.build_detailed Calls.wellPriced_usage
    exact both.1 [paid 1] Calls.march formed exact success (Calls.rolled 25) used empty
  · have history : Calls.interval.History [Calls.turn 35 .detail [first], first] :=
      @Calls.history_turn _ _ _ [2, 4, 0, 2, 2] Calls.history_first (by rfl) (by decide) (by rfl)
    have modes : ∀ turn ∈ [Calls.turn 35 .detail [first], first], turn.mode = .detail :=
      List.forall_mem_cons.2 ⟨rfl, List.forall_mem_cons.2 ⟨rfl, List.forall_mem_nil _⟩⟩
    have pair : (january, february) ∈ Rollup.pairs Calls.interval.transitions := List.mem_cons_self
    have both := detail_bills_highest Calls.build_collecting Calls.wellPriced_usage
    exact both.2 _ history modes january february pair

/-! ## Growing usage -/

/-- No price for a pair of transitions is lower than that of the run before; one below zero counts
as zero. -/
def Growing (interval : UsageInterval) (start stop : Date) (turns : List Turn) : Prop :=
  turns.IsChain fun later earlier => max 0 ((interval.under earlier.toRun).due start stop) ≤
    max 0 ((interval.under later.toRun).due start stop)

theorem highestDue_of_growing {interval : UsageInterval} {start stop : Date} {turn : Turn}
    {earlier : List Turn} (growing : interval.Growing start stop (turn :: earlier)) :
    interval.highestDue start stop (turn :: earlier) =
      max 0 ((interval.under turn.toRun).due start stop) := by
  induction earlier generalizing turn with
  | nil => exact max_comm _ _
  | cons before earlier ih =>
    obtain ⟨grown, growing⟩ := List.isChain_cons_cons.1 growing
    rw [highestDue, ih growing]
    apply le_antisymm
    · exact max_le (le_max_right _ _) grown
    · exact max_le (le_max_of_le_right (le_max_left _ _)) (le_max_left _ _)

end UsageInterval

/-! ## Calls in aggregate mode

After 25 minutes, which cost 4, come 35 minutes, which cost 6, and then 45, which cost 8. The second
bill has a line that is driven below zero, and the third run deducts its size. -/

namespace Calls

open UsageInterval

def line (tier price quantity amount : Int) (absorbed : Option Int) : Line where
  tier := tier
  unit := .str "minutes"
  price := some (.ofInt price)
  quantity := .int quantity
  amount := .ofInt amount
  absorbed := absorbed.map Decimal.ofInt
  reference := .null

def blank (reference : String) (absorbed : Option Int) : Line where
  tier := 0
  unit := .null
  price := none
  quantity := .null
  amount := .zero
  absorbed := absorbed.map Decimal.ofInt
  reference := .str reference

def blob (lines : List Line) : String := (Json.arr (lines.map Line.toJson)).toText

def marker (id : String) : Item :=
  { interval.draft event january february .zero none .null .null with id := .str id }

def bill (id : String) (amount : Int) (lines : List Line) : Item :=
  { interval.draft event january february (.ofInt amount) none .null (.str (blob lines)) with
    id := .str id }

def lines25 : List Line := [line 1 1 2 2 none, line 2 2 1 2 none]
def lines35 : List Line := [line 1 1 2 (-2) (some 4), line 2 2 2 4 none, blank "new-1" (some 0)]

def after25 : Turn := ⟨run 25 .aggregate, [marker "new-1", bill "new-2" 4 lines25]⟩
def after35 : Turn := ⟨run 35 .aggregate, [marker "new-3", bill "new-4" 2 lines35]⟩
def after45 : Turn := ⟨run 45 .aggregate, [marker "new-5"]⟩

/-! ### Reading the lines -/

theorem sound_line {tier price quantity amount : Int} {absorbed : Option Int}
    (representable : ∀ n ∈ price :: amount :: absorbed.toList, (Decimal.ofInt n).Representable) :
    (line tier price quantity amount absorbed).Sound where
  price := by
    rintro d ⟨⟩
    exact representable price List.mem_cons_self
  amount := representable amount (List.mem_cons_of_mem _ List.mem_cons_self)
  absorbed := by
    intro d held
    obtain ⟨n, same, rfl⟩ := Option.map_eq_some_iff.1 held
    subst same
    exact representable n (List.mem_cons_of_mem _ (List.mem_cons_of_mem _ List.mem_cons_self))
  quantity := trivial
  unit := rfl
  reference := rfl

theorem sound_blank (reference : String) : (blank reference (some 0)).Sound where
  price := nofun
  amount := (by decide : Decimal.zero.Representable)
  absorbed := by
    rintro d ⟨⟩
    decide
  quantity := trivial
  unit := rfl
  reference := rfl

theorem reread_line (tier price quantity amount : Int) (absorbed : Option Int) :
    (line tier price quantity amount absorbed).reread = line tier price quantity amount absorbed := by
  have minutes : Text.reread "minutes" = "minutes" := Text.reread_of_all (by decide)
  simp only [Line.reread, line, Json.reread, minutes]

theorem reread_blank {reference : String} (plain : Text.reread reference = reference)
    (absorbed : Option Int) : (blank reference absorbed).reread = blank reference absorbed := by
  simp only [Line.reread, blank, Json.reread, plain]

theorem read_blob {lines : List Line} (sound : ∀ line ∈ lines, line.Sound)
    (written : Line.writeBlob lines = .ok (some (blob lines))) (plain : lines.map Line.reread = lines) :
    Line.readBlob (.str (blob lines)) = .ok (some lines) := by
  have read := Line.readBlob_writeBlob sound written
  rw [plain] at read
  exact read

theorem read25 : Line.readBlob (.str (blob lines25)) = .ok (some lines25) := by
  have sound : ∀ line ∈ lines25, line.Sound := by
    refine List.forall_mem_cons.2 ⟨sound_line (by decide), ?_⟩
    exact List.forall_mem_cons.2 ⟨sound_line (by decide), List.forall_mem_nil _⟩
  apply read_blob sound (by rfl)
  rw [lines25, List.map_cons, List.map_singleton, reread_line, reread_line]

theorem read35 : Line.readBlob (.str (blob lines35)) = .ok (some lines35) := by
  have sound : ∀ line ∈ lines35, line.Sound := by
    refine List.forall_mem_cons.2 ⟨sound_line (by decide), ?_⟩
    refine List.forall_mem_cons.2 ⟨sound_line (by decide), ?_⟩
    exact List.forall_mem_cons.2 ⟨sound_blank "new-1", List.forall_mem_nil _⟩
  have plain : Text.reread "new-1" = "new-1" := Text.reread_of_all (by decide)
  apply read_blob sound (by rfl)
  rw [lines35, List.map_cons, List.map_cons, List.map_singleton, reread_line, reread_line,
    reread_blank plain]

theorem lines_bill {id : String} {amount : Int} {lines : List Line}
    (readable : Line.readBlob (.str (blob lines)) = .ok (some lines)) :
    (bill id amount lines).lines = lines := by
  have read : Line.readBlob (bill id amount lines).details = .ok (some lines) := readable
  rw [Draft.lines, read]

/-! ### Netting them -/

theorem net_marker (candidates : List Line) (id : String) :
    Reconciliation.netItem candidates (marker id) = (candidates, .ok [blank id (some 0)]) := by
  rfl

open Reconciliation in
theorem net_bill {id : String} {amount : Int} {lines candidates after reversals : List Line}
    (readable : Line.readBlob (.str (blob lines)) = .ok (some lines)) (nonempty : lines ≠ [])
    (absorbed : absorbEach candidates lines = .ok after)
    (reversed : (lines.filter fun line => !isPriced (candidates.map Line.unit) line).mapM
      (fun (line : Line) => line.reversal (.str id)) = .ok reversals) :
    netItem candidates (bill id amount lines) = (after, .ok reversals) := by
  have same : (bill id amount lines).lines = lines := lines_bill readable
  refine netItem_eq_ok.2 ⟨⟨_, readable⟩, ?_, ?_⟩
  · rw [same]
    exact absorbed
  · rw [adjustments, same, if_neg (by simpa using nonempty)]
    exact reversed

open Reconciliation in
theorem net35 : net (itemsOf [after25]) [line 1 1 2 2 none, line 2 2 2 4 none] = .ok lines35 := by
  have bill25 : netItem [line 1 1 2 2 none, line 2 2 2 4 none] (bill "new-2" 4 lines25) =
      ([line 1 1 2 (-2) (some 4), line 2 2 2 4 none], .ok []) :=
    net_bill read25 (by decide) (by rfl) (by rfl)
  exact net_of_items (netItems_cons (net_marker _ _) (netItems_cons bill25 (netItems_nil _)))

open Reconciliation in
theorem net45 : net (itemsOf [after35, after25]) [line 1 1 2 2 none, line 2 2 3 6 none] =
    .ok [line 1 1 2 (-8) (some 10), line 2 2 3 6 none, blank "new-1" (some 0), blank "new-3" (some 0),
      blank "new-4" none] := by
  have bill25 : netItem [line 1 1 2 2 none, line 2 2 3 6 none] (bill "new-2" 4 lines25) =
      ([line 1 1 2 (-2) (some 4), line 2 2 3 6 none], .ok []) :=
    net_bill read25 (by decide) (by rfl) (by rfl)
  have bill35 : netItem [line 1 1 2 (-2) (some 4), line 2 2 3 6 none] (bill "new-4" 2 lines35) =
      ([line 1 1 2 (-8) (some 10), line 2 2 3 6 none], .ok [blank "new-4" none]) :=
    net_bill read35 (by decide) (by rfl) (by rfl)
  exact net_of_items (netItems_cons (net_marker _ _) (netItems_cons bill25
    (netItems_cons (net_marker _ _) (netItems_cons bill35 (netItems_nil _)))))

/-! ### Running three times -/

theorem ready (run : Run) : Ready (interval.under run) event march where
  built := rfl
  begins := rfl
  next := by
    have next : interval.nextNotification = .ok march := by rfl
    exact next

-- All usage of a run is that of January, and so is its bill.
theorem history_after {run : Run} {used : RolledUsage} {earlier : List Turn} {issued : List Item}
    {drafts : List Draft} {stakes : List Int} (before : interval.History earlier)
    (whole : (interval.under run).stakes (itemsOf earlier) = stakes.map Decimal.ofInt)
    (small : (stakes.map Int.natAbs).sum < 10 ^ 27)
    (only : (interval.under run).usageRolledUp = [used])
    (billed : (interval.under run).billRolled event (itemsOf earlier) used = .ok drafts)
    (made : issued.map Item.toDraft = (interval.under run).markers event ++ drafts)
    (ids : ∀ item ∈ issued, item.id.hasFloat = false) :
    interval.History (⟨run, issued⟩ :: earlier) := by
  have each : ∀ rolled ∈ (interval.under run).usageRolledUp,
      (interval.under run).billRolled event (itemsOf earlier) rolled = .ok ((fun _ => drafts) rolled) := by
    rw [only]
    exact List.forall_mem_cons.2 ⟨billed, List.forall_mem_nil _⟩
  obtain ⟨next, all⟩ := bill_of_each (ready run) each
  rw [only, List.flatMap_singleton] at all
  refine .next before ?_ next ⟨made.trans all.symm, ids⟩
  rw [whole]
  exact Decimal.exact_ofInt small

theorem stakes_bill {lines : List Line}
    (readable : Line.readBlob (.str (blob lines)) = .ok (some lines)) (id other : String) (amount : Int) :
    Reconciliation.stakes [marker id, bill other amount lines] =
      .zero :: .ofInt amount :: lines.map Line.amount := by
  have same : (bill other amount lines).lines = lines := lines_bill readable
  simp only [Reconciliation.stakes, List.flatMap_cons, List.flatMap_nil, List.append_nil, Draft.stakes, same]
  rfl

theorem stakes_after25 : Reconciliation.stakes (itemsOf [after25]) = [0, 4, 2, 2].map Decimal.ofInt :=
  stakes_bill read25 "new-1" "new-2" 4

theorem history_after25 : interval.History [after25] := by
  have billed : (interval.under (run 25 .aggregate)).billRolled event [] (rolled 25) =
      .ok [(bill "new-2" 4 lines25).toDraft] := by rfl
  exact @history_after _ _ _ _ _ [2, 2] .start (by rfl) (by decide) (by rfl) billed (by rfl) (by decide)

theorem history_after35 : interval.History [after35, after25] := by
  have whole : (interval.under (run 35 .aggregate)).stakes (itemsOf [after25]) =
      [2, 4, 0, 4, 2, 2].map Decimal.ofInt := by
    rw [UsageInterval.stakes, stakes_after25]
    rfl
  have billed : (interval.under (run 35 .aggregate)).billRolled event (itemsOf [after25]) (rolled 35) =
      .ok [(bill "new-4" 2 lines35).toDraft] := by
    refine billRolled_eq_ok.2 ⟨_, .ofInt 6, .ofInt 4, by rfl, by rfl, by rfl, ?_⟩
    exact .billed (by rfl) net35 (by rfl) (by rfl) (by rfl)
  exact history_after history_after25 whole (by decide) (by rfl) billed (by rfl) (by decide)

theorem history_after45 : interval.History [after45, after35, after25] := by
  have whole : (interval.under (run 45 .aggregate)).stakes (itemsOf [after35, after25]) =
      [2, 6, 0, 4, 2, 2, 0, 2, -2, 4, 0].map Decimal.ofInt := by
    have latest : Reconciliation.stakes after35.issued = [0, 2, -2, 4, 0].map Decimal.ofInt :=
      stakes_bill read35 "new-3" "new-4" 2
    rw [UsageInterval.stakes, itemsOf, Reconciliation.stakes_append, stakes_after25, latest]
    rfl
  have billed : (interval.under (run 45 .aggregate)).billRolled event (itemsOf [after35, after25])
      (rolled 45) = .ok [] := by
    refine billRolled_eq_ok.2 ⟨_, .ofInt 8, .ofInt 6, by rfl, by rfl, by rfl, ?_⟩
    exact .absorbed (by rfl) net45 (by rfl) (by rfl)
  exact history_after history_after35 whole (by decide) (by rfl) billed (by rfl) (by decide)

theorem due_after25 : (interval.under after25.toRun).due january february = 4 := by
  have due : (interval.under after25.toRun).due january february = (Decimal.ofInt 4).value := by rfl
  rw [due, Decimal.value_ofInt]
  rfl

theorem due_after35 : (interval.under after35.toRun).due january february = 6 := by
  have due : (interval.under after35.toRun).due january february = (Decimal.ofInt 6).value := by rfl
  rw [due, Decimal.value_ofInt]
  rfl

theorem due_after45 : (interval.under after45.toRun).due january february = 8 := by
  have due : (interval.under after45.toRun).due january february = (Decimal.ofInt 8).value := by rfl
  rw [due, Decimal.value_ofInt]
  rfl

theorem growing_after45 : interval.Growing january february [after45, after35, after25] := by
  simp only [Growing, List.isChain_cons_cons, List.isChain_singleton, due_after25, due_after35, due_after45]
  norm_num

end Calls

namespace UsageInterval

/-- Growing usage is billed in full after every run just if no run with a higher price than before
meets an earlier item with a negative line of a unit that it prices. -/
theorem growing_billed_iff {fresh interval : UsageInterval} {closed : Bool} {turns : List Turn}
    {start stop : Date} (built : fresh.build closed = .ok interval)
    (wellPriced : interval.usage.WellPriced) (history : History interval turns)
    (pair : (start, stop) ∈ Rollup.pairs interval.transitions)
    (growing : interval.Growing start stop turns) :
    (∀ turn earlier, turn :: earlier <:+ turns →
      billedIn start stop (turn :: earlier) =
        max 0 ((interval.under turn.toRun).due start stop)) ↔
    ∀ turn earlier, turn :: earlier <:+ turns →
      interval.highestDue start stop earlier < (interval.under turn.toRun).due start stop →
      ∀ item ∈ Reconciliation.billedItems interval.usage.name start stop (itemsOf earlier),
        Reconciliation.Unsigned ((interval.under turn.toRun).unitsDue start stop) item.toDraft := by
  have increasing := increasing_of_build built
  have highest {turn : Turn} {earlier : List Turn} (suffix : turn :: earlier <:+ turns) :
      interval.highestDue start stop (turn :: earlier) =
        max 0 ((interval.under turn.toRun).due start stop) :=
    highestDue_of_growing (List.IsChain.suffix growing suffix)
  constructor
  · intro full turn earlier suffix
    -- all was billed after the run before, which is a suffix as well
    have before : billedIn start stop earlier = interval.highestDue start stop earlier := by
      cases earlier with
      | nil => rfl
      | cons previous earlier =>
        have within := (List.suffix_cons turn _).trans suffix
        rw [full previous earlier within, highest within]
    apply ((history.suffix suffix).billed_next_iff increasing wellPriced pair before).1
    rw [full turn earlier suffix, highest suffix]
  · intro unsigned
    -- by induction on the runs so far, each of which keeps all billed
    have full : ∀ earlier, earlier <:+ turns →
        billedIn start stop earlier = interval.highestDue start stop earlier := by
      intro earlier suffix
      induction earlier with
      | nil => rfl
      | cons turn earlier ih =>
        have before := ih ((List.suffix_cons turn earlier).trans suffix)
        exact ((history.suffix suffix).billed_next_iff increasing wellPriced pair before).2
          (unsigned turn earlier suffix)
    intro turn earlier suffix
    rw [full _ suffix, highest suffix]

open Calls (january february after25 after35 after45) in
theorem growing_billed_iff_calls :
    (∀ turn earlier, turn :: earlier <:+ [after45, after35, after25] →
      billedIn january february (turn :: earlier) =
        max 0 ((Calls.interval.under turn.toRun).due january february)) ↔
    ∀ turn earlier, turn :: earlier <:+ [after45, after35, after25] →
      Calls.interval.highestDue january february earlier <
        (Calls.interval.under turn.toRun).due january february →
      ∀ item ∈ Reconciliation.billedItems "calls" january february (itemsOf earlier),
        Reconciliation.Unsigned ((Calls.interval.under turn.toRun).unitsDue january february)
          item.toDraft := by
  have pair : (january, february) ∈ Rollup.pairs Calls.interval.transitions := List.mem_cons_self
  exact growing_billed_iff Calls.build_collecting Calls.wellPriced_usage Calls.history_after45 pair
    Calls.growing_after45

open Calls (january february after25 after35 after45) in
/-- The condition fails at the third run of these calls: 8 are due, and 6 stay billed. -/
theorem growing_underbilled :
    Calls.interval.History [after45, after35, after25] ∧
      (∀ turn ∈ [after45, after35, after25], turn.mode = .aggregate) ∧
      (Calls.interval.under after25.toRun).due january february = 4 ∧
      (Calls.interval.under after35.toRun).due january february = 6 ∧
      (Calls.interval.under after45.toRun).due january february = 8 ∧
      billedIn january february [after45, after35, after25] = 6 := by
  have modes : ∀ turn ∈ [after45, after35, after25], turn.mode = .aggregate :=
    List.forall_mem_cons.2 ⟨rfl, List.forall_mem_cons.2 ⟨rfl,
      List.forall_mem_cons.2 ⟨rfl, List.forall_mem_nil _⟩⟩⟩
  have amounts : (((itemsOf [after45, after35, after25]).map Item.toDraft).filter
      (Draft.isFor january february)).map Draft.amount = [0, 4, 0, 2, 0].map Decimal.ofInt := by rfl
  have billed : billedIn january february [after45, after35, after25] = 6 := by
    rw [billedIn, billedFor, amounts, Decimal.total_ofInt]
    rfl
  exact ⟨Calls.history_after45, modes, Calls.due_after25, Calls.due_after35, Calls.due_after45, billed⟩

end UsageInterval

end Arrears
