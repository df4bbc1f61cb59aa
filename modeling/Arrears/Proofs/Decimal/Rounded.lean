import Arrears.Proofs.Decimal.Comparison
import Arrears.Proofs.Outcome

/-! Results of arithmetic have at most 28 digits. Such a number keeps its value when it is added to
zero, whatever becomes of its exponent. So a bill that is added up again comes to itself. -/

set_option autoImplicit false

namespace Arrears.Decimal

/-- A number as arithmetic gives it. -/
def Rounded : Decimal → Prop
  | finite _ coefficient exponent =>
    coefficient < 10 ^ 28 ∧ Context.money.floor ≤ exponent ∧
      leading coefficient exponent ≤ Context.money.maxExponent
  | _ => True

theorem zero_rounded : zero.Rounded := by
  simp only [zero, ofInt, Rounded]
  decide

/-- Dropping digits leaves at most as many as were to be left, or rounds up to the next power. -/
theorem dropDigits_le {coefficient kept n : Nat} (short : coefficient < 10 ^ (kept + n)) :
    dropDigits coefficient n ≤ 10 ^ kept := by
  have front : coefficient / 10 ^ n < 10 ^ kept := by
    rw [Nat.div_lt_iff_lt_mul (by positivity), ← pow_add]
    exact short
  have parity := Nat.mod_lt (coefficient / 10 ^ n) (by norm_num : 2 > 0)
  unfold dropDigits
  split
  next => exact Nat.zero_le _
  next =>
    simp only [Nat.pow_eq]
    split
    next => omega
    next => split <;> omega

theorem finish_rounded {negative : Bool} {coefficient : Nat} {exponent : Int} {d : Decimal}
    (finished : Context.money.finish negative coefficient exponent = .ok d) : d.Rounded := by
  have digits : Context.money.precision = 28 := rfl
  unfold Context.finish at finished
  split at finished
  next =>
    cases finished
    have one : digitCount 0 = 1 := rfl
    refine ⟨by norm_num, by omega, ?_⟩
    simp only [leading, one, Context.money, Context.floor]
    omega
  next nonzero =>
    have long : coefficient < 10 ^ (28 + Context.money.excess coefficient exponent) := by
      refine (digitCount_le_iff (by omega)).1 ?_
      simp only [Context.excess, digits]
      omega
    have kept := dropDigits_le long
    have low : Context.money.floor ≤ exponent + (Context.money.excess coefficient exponent : Nat) := by
      simp only [Context.excess]
      omega
    dsimp only at finished
    rw [Nat.pow_eq, digits] at finished
    -- what was rounded up to one digit too many loses its last zero
    split at finished
    next full =>
      rw [full] at finished
      split at finished
      next => cases finished
      next bounded =>
        cases finished
        exact ⟨by norm_num, by omega, Int.not_lt.1 bounded⟩
    next part =>
      split at finished
      next => cases finished
      next bounded =>
        cases finished
        exact ⟨lt_of_le_of_ne kept part, low, Int.not_lt.1 bounded⟩

theorem add_rounded {left right d : Decimal} (added : left.add right = .ok d) : d.Rounded := by
  unfold add Context.add at added
  split at added
  next => split at added <;> exact finish_rounded added
  next => split at added <;> cases added; trivial
  next => cases added; trivial
  next => cases added; trivial
  next =>
    unfold Context.nanOfTwo at added
    split at added <;> cases added <;> trivial

theorem sum_rounded {amounts : List Decimal} {d : Decimal} (summed : sum amounts = .ok d) : d.Rounded := by
  have running (start : Decimal) (rounded : start.Rounded) (folded : amounts.foldlM add start = .ok d) :
      d.Rounded := by
    clear summed
    induction amounts generalizing start with
    | nil => cases folded; exact rounded
    | cons amount amounts ih =>
      rw [List.foldlM_cons] at folded
      obtain ⟨next, added, rest⟩ := bind_eq_ok.1 folded
      exact ih next (add_rounded added) rest
  exact running zero zero_rounded summed

/-! ## Adding to zero -/

theorem digitCount_mul_pow {coefficient : Nat} (nonzero : coefficient ≠ 0) (gap : Nat) :
    digitCount (coefficient * 10 ^ gap) = digitCount coefficient + gap := by
  have positive := digitCount_pos coefficient
  have low := pow_digitCount_le nonzero
  have high := lt_pow_digitCount coefficient
  rw [Nat.pow_eq] at high
  apply le_antisymm
  · refine (digitCount_le_iff (by omega)).2 ?_
    rw [Nat.pow_eq, pow_add]
    exact Nat.mul_lt_mul_of_pos_right high (by positivity)
  · have bound : 10 ^ (digitCount coefficient - 1 + gap) < 10 ^ digitCount (coefficient * 10 ^ gap) := by
      refine lt_of_le_of_lt ?_ (lt_pow_digitCount _)
      rw [pow_add]
      exact Nat.mul_le_mul_right _ low
    have := (Nat.pow_lt_pow_iff_right (by norm_num : 1 < 10)).1 bound
    omega

theorem dropDigits_mul_pow {coefficient gap n : Nat} (nonzero : coefficient ≠ 0) (within : n ≤ gap) :
    dropDigits (coefficient * 10 ^ gap) n = coefficient * 10 ^ (gap - n) := by
  have split : coefficient * 10 ^ gap = coefficient * 10 ^ (gap - n) * 10 ^ n := by
    rw [mul_assoc, ← pow_add, Nat.sub_add_cancel within]
  have positive : 0 < 10 ^ n := by positivity
  have long : ¬ digitCount (coefficient * 10 ^ gap) < n := by
    rw [digitCount_mul_pow nonzero]
    omega
  rw [dropDigits, if_neg long]
  dsimp only
  rw [Nat.pow_eq, split, Nat.mul_mod_left, Nat.mul_div_cancel _ positive]
  exact if_pos positive

theorem value_mul_pow (negative : Bool) (coefficient gap : Nat) (exponent : Int) :
    (finite negative (coefficient * 10 ^ gap) exponent).value =
      (finite negative coefficient (exponent + gap)).value := by
  have places : (10 : ℚ) ^ (exponent + gap) = 10 ^ gap * 10 ^ exponent := by
    rw [add_comm, zpow_add₀ (by norm_num), zpow_natCast]
  rw [value, value, places]
  cases negative <;> simp only [signed] <;> push_cast <;> ring

/-- A coefficient of at most 28 digits with zeros behind it keeps its value when it is rounded. -/
theorem finish_multiple (negative : Bool) {coefficient gap : Nat} {exponent : Int}
    (nonzero : coefficient ≠ 0) (short : coefficient < 10 ^ 28) (low : Context.money.floor ≤ exponent)
    (high : leading coefficient (exponent + gap) ≤ Context.money.maxExponent) :
    ∃ kept shifted, Context.money.finish negative (coefficient * 10 ^ gap) exponent =
        .ok (finite negative kept shifted) ∧
      (finite negative kept shifted).value =
        (finite negative coefficient (exponent + gap)).value := by
  have digits : Context.money.precision = 28 := rfl
  have few : digitCount coefficient ≤ 28 := (digitCount_le_iff (by norm_num)).2 short
  have count := digitCount_mul_pow nonzero gap
  generalize dropped : digitCount coefficient + gap - 28 = n
  have excess : Context.money.excess (coefficient * 10 ^ gap) exponent = n := by
    simp only [Context.excess, digits, count]
    omega
  have some_digit : coefficient * 10 ^ gap ≠ 0 := by positivity
  have room : coefficient * 10 ^ (gap - n) < 10 ^ 28 := by
    refine (digitCount_le_iff (by norm_num)).1 ?_
    rw [digitCount_mul_pow nonzero]
    omega
  have place : leading (coefficient * 10 ^ (gap - n)) (exponent + n) = leading coefficient (exponent + gap) := by
    simp only [leading, digitCount_mul_pow nonzero]
    omega
  refine ⟨coefficient * 10 ^ (gap - n), exponent + n, ?_, ?_⟩
  · simp only [Context.finish, if_neg some_digit, excess, dropDigits_mul_pow nonzero (by omega : n ≤ gap),
      digits, Nat.pow_eq, if_neg room.ne, place, if_neg (Int.not_lt.2 high)]
  · have places : exponent + n + (gap - n : Nat) = exponent + gap := by omega
    rw [value_mul_pow, places]

theorem sign_of_signed {negative other : Bool} {coefficient : Nat} (nonzero : coefficient ≠ 0) :
    (if signed negative coefficient = 0 then other else decide (signed negative coefficient < 0)) =
      negative := by
  have some_digit : signed negative coefficient ≠ 0 := by
    rw [← Int.natAbs_ne_zero, signed_natAbs]
    exact nonzero
  rw [if_neg some_digit]
  cases negative with
  | false => exact decide_eq_false (Int.not_lt.2 (Int.natCast_nonneg coefficient))
  | true => exact decide_eq_true (Int.neg_neg_of_pos (Int.natCast_pos.2 (Nat.pos_of_ne_zero nonzero)))

theorem addAligned_zero_left {negative : Bool} {coefficient : Nat} {exponent : Int}
    (nonzero : coefficient ≠ 0) :
    Context.money.addAligned false 0 0 negative coefficient exponent =
      Context.money.finish negative coefficient exponent := by
  have none : signed false (0 * Nat.pow 10 0) = 0 := rfl
  simp only [Context.addAligned, ne_eq, not_true_eq_false, false_and, if_false, if_true, none, zero_add,
    sign_of_signed nonzero, signed_natAbs]

/-- Zero lets a number with a positive exponent show some of its zeros. -/
theorem addAligned_zero_right (negative : Bool) {coefficient : Nat} {exponent : Int}
    (nonzero : coefficient ≠ 0) (short : coefficient < 10 ^ 28) (positive : 0 < exponent) :
    ∃ (gap : Nat) (low : Int), low + gap = exponent ∧ 0 ≤ low ∧
      Context.money.addAligned negative coefficient exponent false 0 0 =
        Context.money.finish negative (coefficient * 10 ^ gap) low := by
  have few : digitCount coefficient ≤ 28 := (digitCount_le_iff (by norm_num)).2 short
  have horizon : Context.money.horizon coefficient exponent = exponent - 30 + digitCount coefficient := by
    simp only [Context.horizon, Context.money]
    omega
  have none (choice : Prop) [Decidable choice] : (if choice then min 0 1 else 0) = 0 := by
    split <;> rfl
  have absent : signed false 0 = 0 := rfl
  have some_digit (gap : Nat) : coefficient * 10 ^ gap ≠ 0 := by positivity
  unfold Context.addAligned
  simp only [none, absent, add_zero, if_neg nonzero, Nat.pow_eq]
  -- the zero is taken at its own place, or no further below than counts
  generalize place : (if coefficient ≠ 0 ∧ leading 0 0 < Context.money.horizon coefficient exponent then
    Context.money.horizon coefficient exponent else 0) = low
  obtain ⟨nonneg, below⟩ : 0 ≤ low ∧ low ≤ exponent := by
    have first : leading 0 0 = 0 := rfl
    rw [first, horizon] at place
    split at place <;> omega
  rw [sign_of_signed (some_digit _), signed_natAbs]
  exact ⟨_, low, by omega, nonneg, rfl⟩

theorem addAligned_zeros (negative₁ negative₂ : Bool) (exponent₁ exponent₂ : Int) :
    ∃ negative exponent, Context.money.addAligned negative₁ 0 exponent₁ negative₂ 0 exponent₂ =
      .ok (finite negative 0 exponent) := by
  have none (negative : Bool) : signed negative 0 = 0 := by cases negative <;> rfl
  simp only [Context.addAligned, Nat.zero_mul, none, ne_eq, not_true_eq_false, false_and, if_false]
  exact ⟨_, _, rfl⟩

/-- A number that is rounded already keeps its value when it is added to zero. -/
theorem zero_add_finite {negative : Bool} {coefficient : Nat} {exponent : Int}
    (rounded : (finite negative coefficient exponent).Rounded) :
    ∃ same kept shifted, zero.add (finite negative coefficient exponent) = .ok (finite same kept shifted) ∧
      (finite same kept shifted).value = (finite negative coefficient exponent).value := by
  obtain ⟨short, low, high⟩ := rounded
  have zero_eq : zero = finite false 0 0 := rfl
  rw [zero_eq]
  simp only [add, Context.add]
  by_cases none : coefficient = 0
  · subst none
    have worthless (sign : Bool) (place : Int) : (finite sign 0 place).value = 0 := by
      cases sign <;> simp [value, signed]
    split
    next =>
      obtain ⟨same, place, sum⟩ := addAligned_zeros false negative 0 exponent
      exact ⟨same, 0, place, sum, by rw [worthless, worthless]⟩
    next =>
      obtain ⟨same, place, sum⟩ := addAligned_zeros negative false exponent 0
      exact ⟨same, 0, place, sum, by rw [worthless, worthless]⟩
  · by_cases positive : 0 < exponent
    · rw [if_neg (Int.not_le.2 positive)]
      obtain ⟨gap, place, shift, nonneg, same⟩ := addAligned_zero_right negative none short positive
      rw [same, ← shift]
      rw [← shift] at high
      obtain ⟨kept, shifted, finished, value⟩ := finish_multiple negative none short
        (by simp only [Context.floor, Context.money]; omega) high
      exact ⟨negative, kept, shifted, finished, value⟩
    · rw [if_pos (Int.not_lt.1 positive), addAligned_zero_left none]
      have digits : digitCount coefficient ≤ 28 := (digitCount_le_iff (by norm_num)).2 short
      exact ⟨negative, coefficient, exponent, Context.finish_exact none digits low high, rfl⟩

/-! ## The order of a number and itself -/

theorem lt_self {d other : Decimal} {answer : Bool} (compared : d.le other = .ok answer) :
    d.lt d = .ok false := by
  cases d with
  | finite negative coefficient exponent =>
    rw [lt, order?, compareFinite_eq, compare_eq_iff_eq.2 rfl]
    rfl
  | infinite negative => cases negative <;> rfl
  | nan => cases compared

theorem zero_add_not_lt {amounts : List Decimal} {d other : Decimal} {answer : Bool}
    (summed : sum amounts = .ok d) (compared : d.le other = .ok answer) :
    ∃ again, zero.add d = .ok again ∧ again.lt d = .ok false := by
  have rounded := sum_rounded summed
  cases d with
  | finite negative coefficient exponent =>
    obtain ⟨same, kept, shifted, added, value⟩ := zero_add_finite rounded
    refine ⟨_, added, ?_⟩
    rw [lt, order?, compareFinite_eq, value, compare_eq_iff_eq.2 rfl]
    rfl
  | infinite negative =>
    refine ⟨.infinite negative, rfl, ?_⟩
    cases negative <;> rfl
  | nan => cases compared

theorem zero_lt_zero_add {amounts : List Decimal} {d : Decimal} (summed : sum amounts = .ok d)
    (more : zero.lt d = .ok true) : ∃ again, zero.add d = .ok again ∧ zero.lt again = .ok true := by
  have rounded := sum_rounded summed
  cases d with
  | finite negative coefficient exponent =>
    obtain ⟨same, kept, shifted, added, value⟩ := zero_add_finite rounded
    refine ⟨_, added, ?_⟩
    rw [zero, ofInt, lt, order?, compareFinite_eq] at more ⊢
    rw [value]
    exact more
  | infinite negative => exact ⟨.infinite negative, rfl, more⟩
  | nan => cases more

end Arrears.Decimal
