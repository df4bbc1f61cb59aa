import Arrears.Decimal.Arithmetic
import Arrears.Decimal.Order
import Arrears.Decimal.Text
import Mathlib.Algebra.Order.BigOperators.Group.List
import Mathlib.Algebra.Order.Field.Power
import Mathlib.Algebra.Order.Field.Rat
import Mathlib.Tactic.FieldSimp
import Mathlib.Tactic.Linarith
import Mathlib.Tactic.NormNum
import Mathlib.Tactic.Positivity
import Mathlib.Tactic.Ring

/-! The value of a decimal number, and arithmetic that keeps it. A sum of amounts with few places
and a bounded total has room for all its digits, so that it is not rounded; comparison is
comparison of values. -/

set_option autoImplicit false

namespace Arrears.Decimal

/-- The value of a finite number. What is not finite has none and counts as zero. -/
def value : Decimal → ℚ
  | finite negative coefficient exponent => (signed negative coefficient : ℚ) * 10 ^ exponent
  | _ => 0

/-- A finite number with at most so many places behind the point. -/
def HasPlaces (places : Nat) : Decimal → Prop
  | finite _ _ exponent => -(places : Int) ≤ exponent
  | _ => False

instance (places : Nat) : DecidablePred (HasPlaces places)
  | finite _ _ exponent => inferInstanceAs (Decidable (-(places : Int) ≤ exponent))
  | infinite _ => isFalse id
  | nan .. => isFalse id

def total (amounts : List Decimal) : ℚ := (amounts.map value).sum
def size (amounts : List Decimal) : ℚ := (amounts.map fun amount => |amount.value|).sum

/-- Amounts that can be added up in any order and with any signs, several times over, and leave
nothing to round. -/
def Exact (amounts : List Decimal) : Prop :=
  ∃ places ≤ 20, (∀ amount ∈ amounts, amount.HasPlaces places) ∧
    size amounts < 10 ^ (27 - places)

/-- A number counted in units of its last possible place. -/
def units (places : Nat) : Decimal → Int
  | finite negative coefficient exponent =>
    signed negative coefficient * 10 ^ (exponent + places).toNat
  | _ => 0

/-- A result that has the places and the value, unrounded. -/
def Gives (places : Nat) (result : Except Fault Decimal) (value : ℚ) : Prop :=
  ∃ d, result = .ok d ∧ d.HasPlaces places ∧ d.value = value

theorem total_nil : total [] = 0 := rfl

theorem total_cons (amount : Decimal) (amounts : List Decimal) :
    total (amount :: amounts) = amount.value + total amounts := by
  rw [total, List.map_cons, List.sum_cons, total]

theorem total_append (left right : List Decimal) : total (left ++ right) = total left + total right := by
  rw [total, List.map_append, List.sum_append, total, total]

theorem size_nil : size [] = 0 := rfl

theorem size_cons (amount : Decimal) (amounts : List Decimal) :
    size (amount :: amounts) = |amount.value| + size amounts := by
  rw [size, List.map_cons, List.sum_cons, size]

theorem size_append (left right : List Decimal) : size (left ++ right) = size left + size right := by
  rw [size, List.map_append, List.sum_append, size, size]

theorem size_nonneg (amounts : List Decimal) : 0 ≤ size amounts :=
  List.sum_nonneg (by simp)

theorem abs_total_le (amounts : List Decimal) : |total amounts| ≤ size amounts := by
  induction amounts with
  | nil => simp [total_nil, size_nil]
  | cons amount amounts ih =>
    rw [total_cons, size_cons]
    exact (abs_add_le _ _).trans (by linarith)

theorem size_le_of_sublist {chosen amounts : List Decimal} (sublist : chosen.Sublist amounts) :
    size chosen ≤ size amounts :=
  (sublist.map _).sum_le_sum (by simp)

theorem exists_finite {places : Nat} {d : Decimal} (placed : d.HasPlaces places) :
    ∃ negative coefficient exponent, d = finite negative coefficient exponent := by
  cases d with
  | finite negative coefficient exponent => exact ⟨negative, coefficient, exponent, rfl⟩
  | infinite negative => exact placed.elim
  | nan negative signalling payload => exact placed.elim

theorem HasPlaces.mono {few places : Nat} {d : Decimal} (placed : d.HasPlaces few) (more : few ≤ places) :
    d.HasPlaces places := by
  obtain ⟨negative, coefficient, exponent, rfl⟩ := exists_finite placed
  simp only [HasPlaces] at placed ⊢
  omega

theorem value_zero : zero.value = 0 := by simp [zero, ofInt, value, signed]

theorem zero_hasPlaces (places : Nat) : zero.HasPlaces places := by
  simp [zero, ofInt, HasPlaces]

theorem value_of_isZero {d : Decimal} (empty : d.isZero = true) : d.value = 0 := by
  cases d with
  | finite negative coefficient exponent =>
    have none : coefficient = 0 := by simpa [isZero] using empty
    subst none
    cases negative <;> simp [value, signed]
  | infinite negative => rfl
  | nan negative signalling payload => rfl

theorem zpow_eq_units {places : Nat} {exponent : Int} (low : -(places : Int) ≤ exponent) :
    (10 : ℚ) ^ exponent = 10 ^ (exponent + places).toNat / 10 ^ places := by
  have shifted : exponent = ((exponent + places).toNat : Int) - places := by omega
  rw [shifted, zpow_sub₀ (by norm_num), zpow_natCast, zpow_natCast, ← shifted]

theorem value_eq_units {places : Nat} {d : Decimal} (placed : d.HasPlaces places) :
    d.value = d.units places / 10 ^ places := by
  obtain ⟨negative, coefficient, exponent, rfl⟩ := exists_finite placed
  rw [value, zpow_eq_units placed, units]
  push_cast
  ring

theorem abs_value_lt_iff {places : Nat} {d : Decimal} (few : places ≤ 20) (placed : d.HasPlaces places) :
    |d.value| < 10 ^ (28 - places) ↔ (d.units places).natAbs < 10 ^ 28 := by
  have split : (10 : ℚ) ^ 28 = 10 ^ (28 - places) * 10 ^ places := by
    rw [← pow_add]; congr 1; omega
  rw [value_eq_units placed, abs_div, abs_of_pos (by positivity : (0 : ℚ) < 10 ^ places),
    div_lt_iff₀ (by positivity), ← split, ← @Nat.cast_lt ℚ, Nat.cast_natAbs]
  push_cast
  rfl

-- What an exact sum may reach leaves one more digit of room.
theorem room_eq {places : Nat} (few : places ≤ 20) :
    (10 : ℚ) ^ (28 - places) = 10 * 10 ^ (27 - places) := by
  rw [← pow_succ']
  congr 1
  omega

theorem lt_room {places : Nat} (few : places ≤ 20) : (10 : ℚ) ^ (27 - places) < 10 ^ (28 - places) :=
  pow_lt_pow_right₀ (by norm_num) (by omega)

theorem signed_decide (total : Int) (negative : Bool)
    (sign : total ≠ 0 → negative = decide (total < 0)) : signed negative total.natAbs = total := by
  by_cases none : total = 0
  · subst none
    cases negative <;> rfl
  · rw [sign none]
    by_cases below : total < 0
    · simp only [signed, below, decide_true, if_true]; omega
    · simp only [signed, below, decide_false, Bool.false_eq_true, if_false]; omega

theorem value_ofInt (n : Int) : (ofInt n).value = n := by
  rw [ofInt, value, zpow_zero, mul_one, signed_decide n _ fun _ => rfl]

theorem size_ofInt (numbers : List Int) : size (numbers.map ofInt) = ((numbers.map Int.natAbs).sum : Nat) := by
  induction numbers with
  | nil => exact Nat.cast_zero.symm
  | cons n numbers ih =>
    rw [List.map_cons, List.map_cons, List.sum_cons, size_cons, ih, value_ofInt, Nat.cast_add,
      Nat.cast_natAbs, Int.cast_abs]

theorem total_ofInt (numbers : List Int) : total (numbers.map ofInt) = (numbers.sum : Int) := by
  induction numbers with
  | nil => exact Int.cast_zero.symm
  | cons n numbers ih => rw [List.map_cons, List.sum_cons, total_cons, ih, value_ofInt, Int.cast_add]

theorem exact_ofInt {numbers : List Int} (small : (numbers.map Int.natAbs).sum < 10 ^ 27) :
    Exact (numbers.map ofInt) := by
  refine ⟨0, Nat.zero_le _, ?_, ?_⟩
  · intro amount member
    obtain ⟨n, _, rfl⟩ := List.mem_map.1 member
    exact le_refl _
  · rw [size_ofInt]
    exact_mod_cast small

theorem pow_digitCount_le {coefficient : Nat} (nonzero : coefficient ≠ 0) :
    10 ^ (digitCount coefficient - 1) ≤ coefficient := by
  have positive : 0 < digitCount coefficient := digitCount_pos _
  by_contra short
  by_cases one : digitCount coefficient = 1
  · rw [one, Nat.sub_self, pow_zero] at short
    omega
  · have := (digitCount_le_iff (by omega)).2 (Nat.not_le.1 short)
    omega

theorem digitCount_add_le {coefficient gap : Nat} (nonzero : coefficient ≠ 0)
    (small : coefficient * 10 ^ gap < 10 ^ 28) : digitCount coefficient + gap ≤ 28 := by
  have positive : 0 < digitCount coefficient := digitCount_pos _
  have bound : 10 ^ (digitCount coefficient - 1 + gap) < 10 ^ 28 := by
    rw [pow_add]
    exact lt_of_le_of_lt (Nat.mul_le_mul_right _ (pow_digitCount_le nonzero)) small
  have := (Nat.pow_lt_pow_iff_right (by norm_num : 1 < 10)).1 bound
  omega

/-- The coefficient of a bounded value with few places is short, however far it is shifted. -/
theorem coefficient_lt {places : Nat} {negative : Bool} {coefficient : Nat} {exponent : Int}
    (few : places ≤ 20) (low : -(places : Int) ≤ exponent)
    (small : |(finite negative coefficient exponent).value| < 10 ^ (28 - places)) :
    coefficient * 10 ^ (exponent + places).toNat < 10 ^ 28 := by
  have placed : (finite negative coefficient exponent).HasPlaces places := low
  rw [abs_value_lt_iff few placed, units, Int.natAbs_mul, signed_natAbs, Int.natAbs_pow] at small
  exact small

theorem finish_gives {places : Nat} {negative : Bool} {coefficient : Nat} {exponent : Int}
    (few : places ≤ 20) (low : -(places : Int) ≤ exponent)
    (small : |(finite negative coefficient exponent).value| < 10 ^ (28 - places)) :
    Gives places (Context.money.finish negative coefficient exponent)
      (finite negative coefficient exponent).value := by
  have room := coefficient_lt few low small
  -- a zero keeps its exponent only within the range, which loses no places
  by_cases none : coefficient = 0
  · subst none
    refine ⟨_, by rw [Context.finish, if_pos rfl], ?_, ?_⟩
    · simp only [HasPlaces, Context.money]; omega
    · cases negative <;> simp [value, signed]
  · have digits := digitCount_add_le none room
    refine ⟨_, Context.finish_exact none ?_ ?_ ?_, low, rfl⟩
    · simp only [Context.money]; omega
    · simp only [Context.floor, Context.money]; omega
    · simp only [leading, Context.money]; omega

/-- Of two numbers with few places and bounded values neither is too far below the other. -/
theorem horizon_le_leading {places : Nat} {coefficient₁ coefficient₂ : Nat} {exponent₁ exponent₂ : Int}
    (nonzero : coefficient₁ ≠ 0) (low₁ : -(places : Int) ≤ exponent₁) (low₂ : -(places : Int) ≤ exponent₂)
    (small : coefficient₁ * 10 ^ (exponent₁ + places).toNat < 10 ^ 28) :
    Context.money.horizon coefficient₁ exponent₁ ≤ leading coefficient₂ exponent₂ := by
  have digits := digitCount_add_le nonzero small
  have positive := digitCount_pos coefficient₂
  have short : ¬Context.money.precision < digitCount coefficient₁ := by
    simp only [Context.money]; omega
  simp only [Context.horizon, if_neg short, leading]
  simp only [Context.money] at short ⊢
  omega

theorem addAligned_gives {places : Nat} {negative₁ negative₂ : Bool} {coefficient₁ coefficient₂ : Nat}
    {exponent₁ exponent₂ : Int} (few : places ≤ 20) (low : -(places : Int) ≤ exponent₂)
    (order : exponent₂ ≤ exponent₁)
    (small : |(finite negative₁ coefficient₁ exponent₁).value| < 10 ^ (28 - places))
    (room : |(finite negative₁ coefficient₁ exponent₁).value +
      (finite negative₂ coefficient₂ exponent₂).value| < 10 ^ (28 - places)) :
    Gives places
      (Context.money.addAligned negative₁ coefficient₁ exponent₁ negative₂ coefficient₂ exponent₂)
      ((finite negative₁ coefficient₁ exponent₁).value +
        (finite negative₂ coefficient₂ exponent₂).value) := by
  have short := coefficient_lt few (low.trans order) small
  -- the second summand is never so far below that a single digit stands for it
  have near : ¬(coefficient₁ ≠ 0 ∧
      leading coefficient₂ exponent₂ < Context.money.horizon coefficient₁ exponent₁) := by
    rintro ⟨nonzero, far⟩
    have close : Context.money.horizon coefficient₁ exponent₁ ≤ leading coefficient₂ exponent₂ :=
      horizon_le_leading nonzero (low.trans order) low short
    omega
  simp only [Context.addAligned, if_neg near]
  generalize gap : (if coefficient₁ = 0 then 0 else (exponent₁ - exponent₂).toNat) = shift
  generalize same : signed negative₁ (coefficient₁ * 10 ^ shift) + signed negative₂ coefficient₂ = total
  have value : (finite negative₁ coefficient₁ exponent₁).value +
      (finite negative₂ coefficient₂ exponent₂).value = total * 10 ^ exponent₂ := by
    rw [← same]
    by_cases none : coefficient₁ = 0
    · subst none
      cases negative₁ <;> simp [Decimal.value, signed]
    · rw [if_neg none] at gap
      have raised : (10 : ℚ) ^ exponent₁ = 10 ^ shift * 10 ^ exponent₂ := by
        rw [← zpow_natCast, ← zpow_add₀ (by norm_num)]
        congr 1
        omega
      simp only [Decimal.value, raised]
      cases negative₁ <;> simp only [signed] <;> push_cast <;> ring
  have sum : (finite (if total = 0 then negative₁ && negative₂ else decide (total < 0))
      total.natAbs exponent₂).value = total * 10 ^ exponent₂ := by
    rw [Decimal.value, signed_decide total _ fun nonzero => if_neg nonzero]
  rw [value, ← sum] at room ⊢
  exact finish_gives few low room

theorem add_gives {places : Nat} {left right : Decimal} (few : places ≤ 20)
    (left_placed : left.HasPlaces places) (right_placed : right.HasPlaces places)
    (left_small : |left.value| < 10 ^ (28 - places)) (right_small : |right.value| < 10 ^ (28 - places))
    (room : |left.value + right.value| < 10 ^ (28 - places)) :
    Gives places (left.add right) (left.value + right.value) := by
  obtain ⟨negative₁, coefficient₁, exponent₁, rfl⟩ := exists_finite left_placed
  obtain ⟨negative₂, coefficient₂, exponent₂, rfl⟩ := exists_finite right_placed
  simp only [add, Context.add]
  split
  next order => exact addAligned_gives few right_placed order left_small room
  next order =>
    -- the other way round the summands are aligned with their places exchanged
    rw [add_comm] at room ⊢
    exact addAligned_gives few left_placed (by omega) right_small room

theorem opposite_hasPlaces {places : Nat} {d : Decimal} (placed : d.HasPlaces places) :
    d.opposite.HasPlaces places := by
  cases d <;> exact placed

theorem value_opposite (d : Decimal) : d.opposite.value = -d.value := by
  cases d with
  | finite negative coefficient exponent => cases negative <;> simp [opposite, value, signed]
  | infinite negative => simp [opposite, value]
  | nan negative signalling payload => simp [opposite, value]

theorem sub_gives {places : Nat} {left right : Decimal} (few : places ≤ 20)
    (left_placed : left.HasPlaces places) (right_placed : right.HasPlaces places)
    (left_small : |left.value| < 10 ^ (28 - places)) (right_small : |right.value| < 10 ^ (28 - places))
    (room : |left.value - right.value| < 10 ^ (28 - places)) :
    Gives places (left.sub right) (left.value - right.value) := by
  have value := value_opposite right
  have sum := add_gives few left_placed (opposite_hasPlaces right_placed) left_small
    (by rw [value, abs_neg]; exact right_small) (by rw [value, ← sub_eq_add_neg]; exact room)
  rwa [value, ← sub_eq_add_neg] at sum

theorem value_signs (left right : Bool) (coefficient : Nat) (exponent : Int) :
    |(finite left coefficient exponent).value| = |(finite right coefficient exponent).value| := by
  cases left <;> cases right <;> simp [value, signed]

theorem resign_gives {places : Nat} (change : Bool → Bool) {negative : Bool} {coefficient : Nat}
    {exponent : Int} (few : places ≤ 20) (low : -(places : Int) ≤ exponent)
    (small : |(finite negative coefficient exponent).value| < 10 ^ (28 - places)) :
    Gives places (Context.money.resign change (finite negative coefficient exponent))
      (finite (change negative) coefficient exponent).value := by
  -- a zero comes out positive, with the same value
  have same : (finite (change negative && coefficient != 0) coefficient exponent).value =
      (finite (change negative) coefficient exponent).value := by
    by_cases none : coefficient = 0
    · subst none
      simp [value, signed]
    · rw [bne_iff_ne.2 none, Bool.and_true]
  rw [← same]
  exact finish_gives few low (by rw [value_signs _ negative]; exact small)

theorem neg_gives {places : Nat} {d : Decimal} (few : places ≤ 20) (placed : d.HasPlaces places)
    (small : |d.value| < 10 ^ (28 - places)) : Gives places d.neg (-d.value) := by
  obtain ⟨negative, coefficient, exponent, rfl⟩ := exists_finite placed
  rw [← value_opposite]
  exact resign_gives not few placed small

theorem abs_gives {places : Nat} {d : Decimal} (few : places ≤ 20) (placed : d.HasPlaces places)
    (small : |d.value| < 10 ^ (28 - places)) : Gives places d.abs |d.value| := by
  obtain ⟨negative, coefficient, exponent, rfl⟩ := exists_finite placed
  have positive : 0 ≤ (finite false coefficient exponent).value := by
    rw [value]
    exact mul_nonneg (by simp [signed]) (by positivity)
  rw [value_signs negative false, abs_of_nonneg positive]
  exact resign_gives (fun _ => false) few placed small

theorem mul_ofInt_gives {places : Nat} {d : Decimal} (few : places ≤ 20) (placed : d.HasPlaces places) (n : Int)
    (small : |d.value * n| < 10 ^ (28 - places)) : Gives places (d.mul (ofInt n)) (d.value * n) := by
  obtain ⟨negative, coefficient, exponent, rfl⟩ := exists_finite placed
  have product : (finite (negative != decide (n < 0)) (coefficient * n.natAbs) (exponent + 0)).value =
      (finite negative coefficient exponent).value * n := by
    have sign : signed (negative != decide (n < 0)) (coefficient * n.natAbs) =
        signed negative coefficient * n := by
      rcases lt_or_ge n 0 with below | above
      · have size : (n.natAbs : Int) = -n := by omega
        cases negative <;> simp [signed, below, size]
      · have size : (n.natAbs : Int) = n := by omega
        cases negative <;> simp [signed, not_lt.2 above, size]
    rw [value, value, sign, add_zero]
    push_cast
    ring
  rw [← product] at small ⊢
  exact finish_gives few (by rw [add_zero]; exact placed) small

theorem foldlM_add_gives {places : Nat} (few : places ≤ 20) {amounts : List Decimal} {start : Decimal}
    (start_placed : start.HasPlaces places) (placed : ∀ amount ∈ amounts, amount.HasPlaces places)
    (room : |start.value| + size amounts < 10 ^ (28 - places)) :
    Gives places (amounts.foldlM add start) (start.value + total amounts) := by
  -- the sum so far takes its room from the sizes of the amounts behind it
  induction amounts generalizing start with
  | nil => exact ⟨start, rfl, start_placed, by rw [total_nil, add_zero]⟩
  | cons amount amounts ih =>
    rw [size_cons] at room
    have rest := size_nonneg amounts
    have bound := abs_add_le start.value amount.value
    have first := abs_nonneg start.value
    have second := abs_nonneg amount.value
    obtain ⟨next, added, next_placed, next_value⟩ := add_gives few start_placed
      (placed amount (by simp)) (by linarith) (by linarith) (by linarith)
    obtain ⟨sum, folded, sum_placed, sum_value⟩ := ih next_placed
      (fun amount member => placed amount (by simp [member])) (by rw [next_value]; linarith)
    refine ⟨sum, ?_, sum_placed, ?_⟩
    · rw [List.foldlM_cons, added]
      exact folded
    · rw [sum_value, next_value, total_cons, add_assoc]

theorem sum_gives {places : Nat} (few : places ≤ 20) {amounts : List Decimal}
    (placed : ∀ amount ∈ amounts, amount.HasPlaces places) (room : size amounts < 10 ^ (28 - places)) :
    Gives places (sum amounts) (total amounts) := by
  have result := foldlM_add_gives few (zero_hasPlaces places) placed
    (by rw [value_zero, abs_zero, zero_add]; exact room)
  rwa [value_zero, zero_add] at result

end Arrears.Decimal
