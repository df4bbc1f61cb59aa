import Arrears.Pricing.Capacity
import Arrears.Proofs.Decimal.Rounded
import Arrears.Proofs.Outcome

/-! Capacity is priced at the first tier that admits what was used of every unit, and the price of that
tier is due once. To use more of a unit leaves fewer tiers to choose from, so that it never leads to a
lower one. -/

set_option autoImplicit false

namespace Arrears

variable {limit : Limit} {tier : Tier} {tiers : List Tier} {used raised : List RolledUnit}
  {amount more : Int}

def Limit.Covers (limit : Limit) (amount : Int) : Prop :=
  match limit.max.number.exact with
  | .finite negative coefficient exponent =>
    (Decimal.finite negative coefficient exponent).value = unlimited ∨
      (amount : ℚ) ≤ (Decimal.finite negative coefficient exponent).value
  | .infinite negative => negative = false
  | .nan .. => False

/-- The limit covers the amount or is no number, which no amount exceeds. -/
def Limit.Admits (limit : Limit) (amount : Int) : Prop :=
  limit.Covers amount ∨ limit.max = .binary .nan

def Tier.Covers (tier : Tier) (used : List RolledUnit) : Prop :=
  ∀ rolled ∈ used, ∃ limit, tier.limitOf? rolled.unit = some limit ∧ limit.Covers rolled.amount

def Tier.Admits (tier : Tier) (used : List RolledUnit) : Prop :=
  ∀ rolled ∈ used, ∃ limit, tier.limitOf? rolled.unit = some limit ∧ limit.Admits rolled.amount

def Raises (used raised : List RolledUnit) : Prop :=
  List.Forall₂ (fun rolled more => more.unit = rolled.unit ∧ rolled.amount ≤ more.amount) used raised

theorem Raises.refl (used : List RolledUnit) : Raises used used :=
  List.forall₂_same.2 fun _ _ => ⟨rfl, le_rfl⟩

theorem Limit.admits_finite {negative : Bool} {coefficient : Nat} {exponent : Int}
    (bounded : limit.max.number.exact = .finite negative coefficient exponent) :
    limit.admits amount = true ↔ limit.Covers amount := by
  have sizes (n : Int) : (Decimal.finite (decide (n < 0)) n.natAbs 0).value = n := Decimal.value_ofInt n
  rw [Limit.admits, Limit.isUnbounded, Number.eqv, Limit.Covers, Number.exact.eq_def (.int unlimited), bounded]
  simp only [Decimal.ofInt, Decimal.order?, Decimal.compareFinite_eq, sizes, Bool.or_eq_true, beq_iff_eq,
    bne_iff_ne, ne_eq, Option.some.injEq, compare_eq_iff_eq, compare_gt_iff_gt, not_lt]

theorem Limit.admits_iff : limit.admits amount = true ↔ limit.Admits amount := by
  obtain ⟨unit, max, min⟩ := limit
  cases max with
  | int n => exact (Limit.admits_finite rfl).trans (or_iff_left nofun).symm
  | binary x =>
    cases x with
    | finite => exact (Limit.admits_finite rfl).trans (or_iff_left nofun).symm
    | infinite negative =>
      cases negative with
      | false => exact iff_of_true rfl (.inl rfl)
      | true => exact iff_of_false Bool.false_ne_true (Or.elim · nofun nofun)
    | nan => exact iff_of_true rfl (.inr rfl)

theorem Limit.Covers.mono (covers : limit.Covers more) (less : amount ≤ more) : limit.Covers amount := by
  unfold Limit.Covers at covers ⊢
  split at covers
  next => exact covers.imp_right (le_trans (Int.cast_le.2 less))
  next => exact covers
  next => exact covers

theorem Tier.Admits.mono (admits : tier.Admits raised) (raises : Raises used raised) : tier.Admits used := by
  induction raises with
  | nil => exact List.forall_mem_nil _
  | cons more _ ih =>
    obtain ⟨⟨limit, found, admitted⟩, others⟩ := List.forall_mem_cons.1 admits
    obtain ⟨same, less⟩ := more
    rw [same] at found
    exact List.forall_mem_cons.2 ⟨⟨limit, found, admitted.imp_left fun covers => covers.mono less⟩, ih others⟩

namespace Capacity

theorem complies_iff : complies tier used = true ↔ tier.Admits used := by
  rw [complies, List.all_eq_true]
  refine forall₂_congr fun rolled _ => ?_
  cases tier.limitOf? rolled.unit with
  | none => simp
  | some limit => simp [Limit.admits_iff]

/-! ## The search for a tier -/

/-- The tier above so many others is the first that admits what was used. -/
structure FirstAdmitting (tiers : List Tier) (used : List RolledUnit) (lower : Nat) (tier : Tier) : Prop where
  standing : tiers[lower]? = some tier
  admits : tier.Admits used
  below : ∀ other ∈ tiers.take lower, ¬other.Admits used

variable {lower higher : Nat} {upper : Tier}

theorem FirstAdmitting.le (first : FirstAdmitting tiers used lower tier) (raises : Raises used raised)
    (later : FirstAdmitting tiers raised higher upper) : lower ≤ higher := by
  by_contra earlier
  have among : (tiers.take lower)[higher]? = some upper := by
    rw [List.getElem?_take_of_lt (Nat.lt_of_not_le earlier)]
    exact later.standing
  exact first.below upper (List.mem_of_getElem? among) (later.admits.mono raises)

theorem FirstAdmitting.unique (first : FirstAdmitting tiers used lower tier)
    (other : FirstAdmitting tiers used higher upper) : lower = higher ∧ tier = upper := by
  obtain rfl := Nat.le_antisymm (first.le (.refl used) other) (other.le (.refl used) first)
  exact ⟨rfl, Option.some.inj (first.standing.symm.trans other.standing)⟩

theorem FirstAdmitting.mem (first : FirstAdmitting tiers used lower tier) : tier ∈ tiers :=
  List.mem_of_getElem? first.standing

theorem firstComplying?_cases (used : List RolledUnit) (tiers : List Tier) :
    (∃ lower tier, FirstAdmitting tiers used lower tier ∧
      firstComplying? used tiers = some (lower + 1, tier)) ∨
    (∀ tier ∈ tiers, ¬tier.Admits used) ∧ firstComplying? used tiers = none := by
  induction tiers with
  | nil => exact .inr ⟨List.forall_mem_nil _, rfl⟩
  | cons tier tiers ih =>
    unfold firstComplying?
    split
    next here =>
      exact .inl ⟨0, tier, ⟨rfl, complies_iff.1 here, List.forall_mem_nil _⟩, rfl⟩
    next passed =>
      rw [complies_iff] at passed
      rcases ih with ⟨lower, found, first, same⟩ | ⟨refused, same⟩
      · refine .inl ⟨lower + 1, found, ⟨first.standing, first.admits, ?_⟩, by rw [same]; rfl⟩
        exact List.forall_mem_cons.2 ⟨passed, first.below⟩
      · exact .inr ⟨List.forall_mem_cons.2 ⟨passed, refused⟩, by rw [same]; rfl⟩

theorem firstComplying?_eq_some (first : FirstAdmitting tiers used lower tier) :
    firstComplying? used tiers = some (lower + 1, tier) := by
  rcases firstComplying?_cases used tiers with ⟨_, _, found, same⟩ | ⟨refused, _⟩
  · obtain ⟨rfl, rfl⟩ := found.unique first
    exact same
  · exact absurd first.admits (refused tier first.mem)

theorem firstComplying?_eq_none (refused : ∀ tier ∈ tiers, ¬tier.Admits used) :
    firstComplying? used tiers = none := by
  rcases firstComplying?_cases used tiers with ⟨_, tier, found, _⟩ | ⟨_, same⟩
  · exact absurd found.admits (refused tier found.mem)
  · exact same

/-! ## What is priced and what is refused -/

def Declared (tiers : List Tier) (used : List RolledUnit) : Prop :=
  ∀ rolled ∈ used, ∃ tier ∈ tiers, ∃ limit ∈ tier.limits, limit.unit = rolled.unit

theorem mem_undeclared {unit : String} :
    unit ∈ undeclared tiers used ↔
      (∃ rolled ∈ used, rolled.unit = unit) ∧ ¬∃ tier ∈ tiers, ∃ limit ∈ tier.limits, limit.unit = unit := by
  have declared : unit ∈ (tiers.flatMap Tier.limits).map Limit.unit ↔
      ∃ tier ∈ tiers, ∃ limit ∈ tier.limits, limit.unit = unit := by
    rw [List.mem_map]
    constructor
    · rintro ⟨limit, among, same⟩
      obtain ⟨tier, member, within⟩ := List.mem_flatMap.1 among
      exact ⟨tier, member, limit, within, same⟩
    · rintro ⟨tier, member, limit, within, same⟩
      exact ⟨limit, List.mem_flatMap.2 ⟨tier, member, within⟩, same⟩
  rw [undeclared, mem_sortedNames, List.mem_filter, List.mem_map, decide_eq_true_eq, declared]

theorem undeclared_eq_nil : undeclared tiers used = [] ↔ Declared tiers used := by
  rw [List.eq_nil_iff_forall_not_mem]
  constructor
  · intro none rolled member
    by_contra nowhere
    exact none rolled.unit (mem_undeclared.2 ⟨⟨rolled, member, rfl⟩, nowhere⟩)
  · intro declared unit among
    obtain ⟨⟨rolled, member, rfl⟩, nowhere⟩ := mem_undeclared.1 among
    exact nowhere (declared rolled member)

variable {usage : Usage} {currency : String} {fault : CatalogFault} {due : Decimal} {lines : List Line}

/-- What a section has that prices what was used: limits of all units, a tier that admits it, and the
price of that tier. -/
structure Selects (usage : Usage) (used : List RolledUnit) (currency : String) (lower : Nat) (tier : Tier)
    (due : Decimal) : Prop where
  declared : Declared usage.tiers used
  first : FirstAdmitting usage.tiers used lower tier
  priced : Assoc.get? currency tier.recurringPrices = some due

/-- What a section lacks that does not price what was used. -/
inductive Refuses (usage : Usage) (used : List RolledUnit) (currency : String) : CatalogFault → Prop where
  | noTiers (empty : usage.tiers = []) : Refuses usage used currency (.noTiers usage.name)
  | undeclared (tiered : usage.tiers ≠ []) (missing : ¬Declared usage.tiers used) :
    Refuses usage used currency (.undeclaredUnits usage.name (undeclared usage.tiers used))
  | noTier (tiered : usage.tiers ≠ []) (declared : Declared usage.tiers used)
    (refused : ∀ tier ∈ usage.tiers, ¬tier.Admits used) :
    Refuses usage used currency (.noTier usage.name (used.map fun rolled => (rolled.unit, rolled.amount)))
  | noPrice {lower : Nat} {tier : Tier} (declared : Declared usage.tiers used)
    (first : FirstAdmitting usage.tiers used lower tier)
    (unpriced : Assoc.get? currency tier.recurringPrices = none) :
    Refuses usage used currency (.noPrice currency .capacityTier)

theorem refuses_or_selects (usage : Usage) (used : List RolledUnit) (currency : String) :
    (∃ fault, Refuses usage used currency fault) ∨
      ∃ lower tier due, Selects usage used currency lower tier due := by
  by_cases empty : usage.tiers = []
  · exact .inl ⟨_, .noTiers empty⟩
  by_cases declared : Declared usage.tiers used
  · rcases firstComplying?_cases used usage.tiers with ⟨lower, tier, first, _⟩ | ⟨refused, _⟩
    · cases priced : Assoc.get? currency tier.recurringPrices with
      | none => exact .inl ⟨_, .noPrice declared first priced⟩
      | some due => exact .inr ⟨lower, tier, due, declared, first, priced⟩
    · exact .inl ⟨_, .noTier empty declared refused⟩
  · exact .inl ⟨_, .undeclared empty declared⟩

section

variable (kind : usage.usageType = .capacity) (nonempty : used ≠ [])

include kind nonempty

theorem price_of_declared (tiered : usage.tiers ≠ []) (declared : Declared usage.tiers used) :
    price usage used currency =
      match firstComplying? used usage.tiers with
      | none => .error (.noTier usage.name (used.map fun rolled => (rolled.unit, rolled.amount)))
      | some (number, tier) => do
        let due ← tier.recurringPriceIn currency
        return Capacity.lines number due used := by
  rw [price, if_neg (mt List.isEmpty_iff.1 nonempty), Usage.capacityTiers_eq_ok.2 ⟨kind, tiered, rfl⟩]
  refine if_neg ?_
  rw [undeclared_eq_nil.2 declared]
  exact Bool.false_ne_true

theorem price_of_selects (selects : Selects usage used currency lower tier due) :
    price usage used currency = .ok (Capacity.lines (lower + 1) due used) := by
  have tiered : usage.tiers ≠ [] := List.ne_nil_of_mem selects.first.mem
  rw [price_of_declared kind nonempty tiered selects.declared, firstComplying?_eq_some selects.first]
  exact bind_eq_ok.2 ⟨due, priceFor_eq_ok.2 selects.priced, rfl⟩

theorem price_of_refuses (refuses : Refuses usage used currency fault) :
    price usage used currency = .error fault := by
  cases refuses with
  | noTiers empty =>
    rw [price, if_neg (mt List.isEmpty_iff.1 nonempty), Usage.capacityTiers, if_neg (not_not.2 kind), empty]
    rfl
  | undeclared tiered missing =>
    have named : (undeclared usage.tiers used).isEmpty = false :=
      List.isEmpty_eq_false_iff.2 (mt undeclared_eq_nil.1 missing)
    rw [price, if_neg (mt List.isEmpty_iff.1 nonempty), Usage.capacityTiers_eq_ok.2 ⟨kind, tiered, rfl⟩]
    refine if_pos ?_
    rw [named]
    rfl
  | noTier tiered declared refused =>
    rw [price_of_declared kind nonempty tiered declared, firstComplying?_eq_none refused]
  | noPrice declared first unpriced =>
    have tiered : usage.tiers ≠ [] := List.ne_nil_of_mem first.mem
    rw [price_of_declared kind nonempty tiered declared, firstComplying?_eq_some first]
    simp only [Tier.recurringPriceIn, priceFor, unpriced]
    rfl

theorem price_eq_ok_iff :
    price usage used currency = .ok lines ↔
      ∃ lower tier due, Selects usage used currency lower tier due ∧ lines = Capacity.lines (lower + 1) due used := by
  constructor
  · intro priced
    rcases refuses_or_selects usage used currency with ⟨fault, refuses⟩ | ⟨lower, tier, due, selects⟩
    · rw [price_of_refuses kind nonempty refuses] at priced
      cases priced
    · rw [price_of_selects kind nonempty selects] at priced
      exact ⟨lower, tier, due, selects, (Except.ok.inj priced).symm⟩
  · rintro ⟨lower, tier, due, selects, rfl⟩
    exact price_of_selects kind nonempty selects

theorem price_eq_error_iff :
    price usage used currency = .error fault ↔ Refuses usage used currency fault := by
  refine ⟨fun refused => ?_, price_of_refuses kind nonempty⟩
  rcases refuses_or_selects usage used currency with ⟨other, refuses⟩ | ⟨lower, tier, due, selects⟩
  · rw [price_of_refuses kind nonempty refuses] at refused
    exact Except.error.inj refused ▸ refuses
  · rw [price_of_selects kind nonempty selects] at refused
    cases refused

end

/-! ## What the lines come to -/

variable {number : Nat}

/-- One line for each unit, in the order they were used in, all with the tier and its price. The last line
alone charges the price. -/
def ChargedOnce (number : Nat) (due : Decimal) (used : List RolledUnit) (lines : List Line) : Prop :=
  ∃ front last, used = front ++ [last] ∧
    lines = front.map (fun rolled =>
        (⟨number, .str rolled.unit, some due, .int rolled.amount, .zero, none, .null⟩ : Line)) ++
      [⟨number, .str last.unit, some due, .int last.amount, due, none, .null⟩]

theorem lines_concat (number : Nat) (due : Decimal) (front : List RolledUnit) (last : RolledUnit) :
    Capacity.lines number due (front ++ [last]) =
      front.map (freeLine number due) ++ [{ freeLine number due last with amount := due }] := by
  induction front with
  | nil => rfl
  | cons rolled front ih =>
    rw [List.map_cons, List.cons_append, List.cons_append, ← ih]
    cases front <;> rfl

theorem chargedOnce_lines (nonempty : used ≠ []) : ChargedOnce number due used (Capacity.lines number due used) := by
  obtain ⟨front, last, rfl⟩ := List.eq_nil_or_concat' used |>.resolve_left nonempty
  exact ⟨front, last, rfl, lines_concat number due front last⟩

theorem ChargedOnce.tier_eq (charged : ChargedOnce number due used lines) :
    ∀ line ∈ lines, line.tier = number := by
  obtain ⟨front, last, rfl, rfl⟩ := charged
  refine List.forall_mem_append.2 ⟨fun line member => ?_, List.forall_mem_singleton.2 rfl⟩
  obtain ⟨rolled, _, rfl⟩ := List.mem_map.1 member
  rfl

theorem ChargedOnce.total_eq (charged : ChargedOnce number due used lines) :
    Line.total lines = Decimal.zero.add due := by
  obtain ⟨front, last, rfl, rfl⟩ := charged
  rw [Line.total, Decimal.sum]
  induction front with
  | nil => exact bind_pure _
  | cons rolled front ih => exact ih

theorem ChargedOnce.total_eqv (charged : ChargedOnce number due used lines) (finite : due.isFinite = true)
    (rounded : due.Rounded) : ∃ total, Line.total lines = .ok total ∧ total.eqv due = .ok true := by
  cases due with
  | finite negative coefficient exponent =>
    obtain ⟨same, kept, shifted, added, value⟩ := Decimal.zero_add_finite rounded
    refine ⟨_, charged.total_eq.trans added, ?_⟩
    rw [Decimal.eqv, Decimal.order?, Decimal.compareFinite_eq, value, compare_eq_iff_eq.2 rfl]
    rfl
  | infinite negative => cases finite
  | nan => cases finite

/-- What was used is priced just when each unit has a limit in some tier, some tier admits everything and
the first that does has a price in the currency. There is one line for each unit then, and together they
charge the price once. To use more never leads to a lower tier. A refusal shows the amounts, whatever
the count of their digits. -/
theorem first_admitting_charged (kind : usage.usageType = .capacity) (nonempty : used ≠ []) (currency : String) :
    ((∃ lines, price usage used currency = .ok lines) ↔
      usage.tiers ≠ [] ∧
      (∀ rolled ∈ used, ∃ tier ∈ usage.tiers, ∃ limit ∈ tier.limits, limit.unit = rolled.unit) ∧
      ∃ lower tier, FirstAdmitting usage.tiers used lower tier ∧
        ∃ due, Assoc.get? currency tier.recurringPrices = some due) ∧
    (∀ fault, price usage used currency = .error fault ↔ Refuses usage used currency fault) ∧
    (∀ lines, price usage used currency = .ok lines → ∃ lower tier due,
      FirstAdmitting usage.tiers used lower tier ∧ Assoc.get? currency tier.recurringPrices = some due ∧
      ChargedOnce (lower + 1) due used lines ∧
      (due.isFinite = true → due.Rounded →
        ∃ total, Line.total lines = .ok total ∧ total.eqv due = .ok true)) ∧
    ∀ raised, Raises used raised →
      (∀ lower tier higher upper, FirstAdmitting usage.tiers used lower tier →
        FirstAdmitting usage.tiers raised higher upper → lower ≤ higher) ∧
      ∀ lines others, price usage used currency = .ok lines → price usage raised currency = .ok others →
        ∀ line ∈ lines, ∀ other ∈ others, line.tier ≤ other.tier := by
  refine ⟨⟨?_, ?_⟩, fun fault => price_eq_error_iff kind nonempty, ?_, ?_⟩
  · rintro ⟨lines, priced⟩
    obtain ⟨lower, tier, due, ⟨declared, first, found⟩, _⟩ := (price_eq_ok_iff kind nonempty).1 priced
    exact ⟨List.ne_nil_of_mem first.mem, declared, lower, tier, first, due, found⟩
  · rintro ⟨_, declared, lower, tier, first, due, found⟩
    exact ⟨_, price_of_selects kind nonempty ⟨declared, first, found⟩⟩
  · intro lines priced
    obtain ⟨lower, tier, due, selects, rfl⟩ := (price_eq_ok_iff kind nonempty).1 priced
    have charged : ChargedOnce (lower + 1) due used _ := chargedOnce_lines nonempty
    exact ⟨lower, tier, due, selects.first, selects.priced, charged, charged.total_eqv⟩
  · intro raised raises
    refine ⟨fun lower tier higher upper first later => first.le raises later, ?_⟩
    intro lines others priced dearer line member other among
    have still : raised ≠ [] := by
      rintro rfl
      exact nonempty (List.forall₂_nil_right_iff.1 raises)
    obtain ⟨lower, tier, due, selects, rfl⟩ := (price_eq_ok_iff kind nonempty).1 priced
    obtain ⟨higher, upper, cost, chosen, rfl⟩ := (price_eq_ok_iff kind still).1 dearer
    rw [(chargedOnce_lines nonempty).tier_eq line member, (chargedOnce_lines still).tier_eq other among]
    exact Int.ofNat_le.2 (Nat.succ_le_succ (selects.first.le raises chosen.first))

def office : Usage where
  name := "office"
  usageType := .capacity
  period := .monthly
  mode := .inArrear
  policy := .allTiers
  tiers :=
    [⟨[⟨"members", .int 10, none⟩, ⟨"calls", .int 500, none⟩], [], [("USD", .finite false 4950 (-2))]⟩,
      ⟨[⟨"members", .int 50, none⟩, ⟨"calls", .int unlimited, none⟩], [], [("USD", .finite false 9990 (-2))]⟩]

theorem office_charged_once :
    office.usageType = .capacity ∧ ∃ lines total,
      price office [⟨"members", 8⟩, ⟨"calls", 700⟩] "USD" = .ok lines ∧
      ChargedOnce 2 (.finite false 9990 (-2)) [⟨"members", 8⟩, ⟨"calls", 700⟩] lines ∧
      Line.total lines = .ok total ∧ total.eqv (.finite false 9990 (-2)) = .ok true := by
  have second : FirstAdmitting office.tiers [⟨"members", 8⟩, ⟨"calls", 700⟩] 1 office.tiers[1] :=
    ⟨rfl, complies_iff.1 (by decide), List.forall_mem_singleton.2 (mt complies_iff.2 (by decide))⟩
  have kind : office.usageType = .capacity := rfl
  have nonempty : ([⟨"members", 8⟩, ⟨"calls", 700⟩] : List RolledUnit) ≠ [] := List.cons_ne_nil _ _
  obtain ⟨priced, _, charged, _⟩ := first_admitting_charged kind nonempty "USD"
  obtain ⟨lines, priced⟩ := priced.2 ⟨by decide, by decide, 1, _, second, _, rfl⟩
  obtain ⟨lower, tier, due, first, found, once, sum⟩ := charged lines priced
  obtain ⟨rfl, rfl⟩ := first.unique second
  cases found
  obtain ⟨total, summed, same⟩ := sum rfl ⟨by decide, by decide, by decide⟩
  exact ⟨kind, lines, total, priced, once, summed, same⟩

def bandwidth : Usage :=
  { office with
    name := "bandwidth"
    tiers := [⟨[⟨"A", .binary .nan, none⟩], [], [("USD", .finite false 5 0)]⟩] }

/-- A tier may be charged though none covers what was used. -/
theorem charged_uncovered :
    bandwidth.usageType = .capacity ∧ (∀ tier ∈ bandwidth.tiers, ¬tier.Covers [⟨"A", 5⟩]) ∧
      price bandwidth [⟨"A", 5⟩] "USD" =
        .ok [⟨1, .str "A", some (.finite false 5 0), .int 5, .finite false 5 0, none, .null⟩] := by
  have first : FirstAdmitting bandwidth.tiers [⟨"A", 5⟩] 0 bandwidth.tiers[0] :=
    ⟨rfl, complies_iff.1 rfl, List.forall_mem_nil _⟩
  have declared : ∀ rolled ∈ ([⟨"A", 5⟩] : List RolledUnit), ∃ tier ∈ bandwidth.tiers,
      ∃ limit ∈ tier.limits, limit.unit = rolled.unit := by decide
  refine ⟨rfl, List.forall_mem_singleton.2 fun covers => ?_,
    price_of_selects rfl (List.cons_ne_nil _ _) ⟨declared, first, rfl⟩⟩
  obtain ⟨limit, found, covered⟩ := covers ⟨"A", 5⟩ List.mem_cons_self
  cases found
  exact covered

end Capacity

end Arrears
