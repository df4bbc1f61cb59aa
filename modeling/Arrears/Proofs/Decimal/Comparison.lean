import Arrears.Proofs.Decimal.Value

/-! Comparison of decimal numbers is comparison of their values. -/

set_option autoImplicit false

namespace Arrears.Decimal

theorem compare_congr {α β : Type} [LinearOrder α] [LinearOrder β] {a b : α} {c d : β}
    (below : a < b ↔ c < d) (above : b < a ↔ d < c) : compare a b = compare c d := by
  rcases lt_trichotomy a b with less | same | more
  · rw [compare_lt_iff_lt.2 less, compare_lt_iff_lt.2 (below.1 less)]
  · have equal : c = d :=
      le_antisymm (not_lt.1 fun more => absurd (above.2 more) (by simp [same]))
        (not_lt.1 fun less => absurd (below.2 less) (by simp [same]))
    rw [compare_eq_iff_eq.2 same, compare_eq_iff_eq.2 equal]
  · rw [compare_gt_iff_gt.2 more, compare_gt_iff_gt.2 (above.1 more)]

/-- The value of a nonzero number lies between the powers of ten beside its first digit. -/
theorem magnitude_bounds {coefficient : Nat} (exponent : Int) (nonzero : coefficient ≠ 0) :
    (10 : ℚ) ^ leading coefficient exponent ≤ coefficient * 10 ^ exponent ∧
      (coefficient : ℚ) * 10 ^ exponent < 10 ^ (leading coefficient exponent + 1) := by
  have positive : (0 : ℚ) < 10 ^ exponent := by positivity
  have count := digitCount_pos coefficient
  have low : (10 : ℚ) ^ (digitCount coefficient - 1) ≤ coefficient := by
    exact_mod_cast pow_digitCount_le nonzero
  have high : (coefficient : ℚ) < 10 ^ digitCount coefficient := by
    exact_mod_cast lt_pow_digitCount coefficient
  have first : leading coefficient exponent = ((digitCount coefficient - 1 : Nat) : Int) + exponent := by
    simp only [leading]; omega
  have next : leading coefficient exponent + 1 = (digitCount coefficient : Int) + exponent := by
    simp only [leading]; omega
  rw [next, first, zpow_add₀ (by norm_num), zpow_add₀ (by norm_num), zpow_natCast, zpow_natCast]
  exact ⟨mul_le_mul_of_nonneg_right low positive.le, mul_lt_mul_of_pos_right high positive⟩

theorem compareMagnitude_eq (coefficient₁ : Nat) (exponent₁ : Int) (coefficient₂ : Nat) (exponent₂ : Int) :
    compareMagnitude coefficient₁ exponent₁ coefficient₂ exponent₂ =
      compare ((coefficient₁ : ℚ) * 10 ^ exponent₁) ((coefficient₂ : ℚ) * 10 ^ exponent₂) := by
  have positive₁ : (0 : ℚ) < 10 ^ exponent₁ := by positivity
  have positive₂ : (0 : ℚ) < 10 ^ exponent₂ := by positivity
  unfold compareMagnitude
  split
  next zero =>
    rcases zero with zero | zero
    · subst zero
      apply compare_congr <;> simp [positive₂]
    · subst zero
      apply compare_congr <;> simp [positive₁]
  next nonzero =>
    obtain ⟨nonzero₁, nonzero₂⟩ := not_or.1 nonzero
    obtain ⟨low₁, high₁⟩ := magnitude_bounds exponent₁ nonzero₁
    obtain ⟨low₂, high₂⟩ := magnitude_bounds exponent₂ nonzero₂
    split
    next apart =>
      -- a power of ten lies between the two, so that their other digits do not matter
      rcases lt_or_gt_of_ne apart with less | more
      · have step : (10 : ℚ) ^ (leading coefficient₁ exponent₁ + 1) ≤ 10 ^ leading coefficient₂ exponent₂ :=
          zpow_le_zpow_right₀ (by norm_num) less
        rw [compare_lt_iff_lt.2 less, compare_lt_iff_lt.2 (high₁.trans_le (step.trans low₂))]
      · have step : (10 : ℚ) ^ (leading coefficient₂ exponent₂ + 1) ≤ 10 ^ leading coefficient₁ exponent₁ :=
          zpow_le_zpow_right₀ (by norm_num) more
        rw [compare_gt_iff_gt.2 more, compare_gt_iff_gt.2 (high₂.trans_le (step.trans low₁))]
    next =>
      -- both coefficients are brought to the lower of the exponents
      have scale : (0 : ℚ) < 10 ^ min exponent₁ exponent₂ := by positivity
      have shift₁ : (coefficient₁ : ℚ) * 10 ^ exponent₁ =
          ((coefficient₁ * 10 ^ (exponent₁ - exponent₂).toNat : Nat) : ℚ) * 10 ^ min exponent₁ exponent₂ := by
        push_cast
        rw [mul_assoc, ← zpow_natCast, ← zpow_add₀ (by norm_num)]
        congr 2
        omega
      have shift₂ : (coefficient₂ : ℚ) * 10 ^ exponent₂ =
          ((coefficient₂ * 10 ^ (exponent₂ - exponent₁).toNat : Nat) : ℚ) * 10 ^ min exponent₁ exponent₂ := by
        push_cast
        rw [mul_assoc, ← zpow_natCast, ← zpow_add₀ (by norm_num)]
        congr 2
        omega
      rw [shift₁, shift₂, Nat.pow_eq, Nat.pow_eq]
      apply compare_congr <;> rw [mul_lt_mul_iff_left₀ scale, Nat.cast_lt]

theorem value_of_sign (negative : Bool) (coefficient : Nat) (exponent : Int) :
    (finite negative coefficient exponent).value =
      if negative && coefficient != 0 then -((coefficient : ℚ) * 10 ^ exponent)
      else coefficient * 10 ^ exponent := by
  by_cases none : coefficient = 0
  · subst none
    cases negative <;> simp [value, signed]
  · rw [bne_iff_ne.2 none, Bool.and_true]
    cases negative <;> simp [value, signed]

theorem compareFinite_eq (negative₁ : Bool) (coefficient₁ : Nat) (exponent₁ : Int)
    (negative₂ : Bool) (coefficient₂ : Nat) (exponent₂ : Int) :
    compareFinite negative₁ coefficient₁ exponent₁ negative₂ coefficient₂ exponent₂ =
      compare (finite negative₁ coefficient₁ exponent₁).value
        (finite negative₂ coefficient₂ exponent₂).value := by
  have nonneg₁ : (0 : ℚ) ≤ coefficient₁ * 10 ^ exponent₁ := by positivity
  have nonneg₂ : (0 : ℚ) ≤ coefficient₂ * 10 ^ exponent₂ := by positivity
  have positive (coefficient : Nat) (exponent : Int) (negative : Bool)
      (sign : (negative && coefficient != 0) = true) : (0 : ℚ) < coefficient * 10 ^ exponent := by
    have nonzero : coefficient ≠ 0 := by
      rw [Bool.and_eq_true, bne_iff_ne] at sign
      exact sign.2
    positivity
  rw [value_of_sign, value_of_sign]
  unfold compareFinite
  split
  next sign₁ sign₂ => simp only [sign₁, sign₂, Bool.false_eq_true, if_false, compareMagnitude_eq]
  next sign₁ sign₂ =>
    simp only [sign₁, sign₂, if_true, compareMagnitude_eq]
    apply compare_congr <;> rw [neg_lt_neg_iff]
  next sign₁ sign₂ =>
    have below := positive _ exponent₁ _ sign₁
    simp only [sign₁, sign₂, if_true, Bool.false_eq_true, if_false]
    rw [compare_lt_iff_lt.2 (by linarith)]
  next sign₁ sign₂ =>
    have above := positive _ exponent₂ _ sign₂
    simp only [sign₁, sign₂, if_true, Bool.false_eq_true, if_false]
    rw [compare_gt_iff_gt.2 (by linarith)]

theorem order?_swap (left right : Decimal) : order? right left = (order? left right).map Ordering.swap := by
  cases left with
  | finite negative₁ coefficient₁ exponent₁ =>
    cases right with
    | finite negative₂ coefficient₂ exponent₂ =>
      simp only [order?, compareFinite_eq, Option.map_some]
      exact congrArg some Std.OrientedOrd.eq_swap
    | infinite negative => cases negative <;> rfl
    | nan => rfl
  | infinite negative =>
    cases right with
    | finite => cases negative <;> rfl
    | infinite other => cases negative <;> cases other <;> rfl
    | nan => rfl
  | nan => cases right <;> rfl

theorem lt_of_not_le {left right : Decimal} (more : left.le right = .ok false) :
    right.lt left = .ok true := by
  unfold le at more
  rw [lt, order?_swap left right]
  cases found : order? left right with
  | none =>
    rw [found] at more
    cases more
  | some order =>
    rw [found] at more
    cases order with
    | gt => rfl
    | _ => cases more

theorem lt_of_le {left right : Decimal} (less : left.le right = .ok true) : right.lt left = .ok false := by
  unfold le at less
  rw [lt, order?_swap left right]
  cases found : order? left right with
  | none =>
    rw [found] at less
    cases less
  | some order =>
    rw [found] at less
    cases order with
    | gt => cases less
    | _ => rfl

theorem order?_eq {places : Nat} {left right : Decimal} (left_placed : left.HasPlaces places)
    (right_placed : right.HasPlaces places) : order? left right = some (compare left.value right.value) := by
  obtain ⟨negative₁, coefficient₁, exponent₁, rfl⟩ := exists_finite left_placed
  obtain ⟨negative₂, coefficient₂, exponent₂, rfl⟩ := exists_finite right_placed
  simp only [order?, compareFinite_eq]

theorem lt_eq {places : Nat} {left right : Decimal} (left_placed : left.HasPlaces places)
    (right_placed : right.HasPlaces places) : left.lt right = .ok (decide (left.value < right.value)) := by
  rw [lt, order?_eq left_placed right_placed]
  by_cases less : left.value < right.value
  · simp [compare_lt_iff_lt.2 less, less]
  · have other : compare left.value right.value ≠ .lt := fun same => less (compare_lt_iff_lt.1 same)
    simp [less, other]

theorem le_eq {places : Nat} {left right : Decimal} (left_placed : left.HasPlaces places)
    (right_placed : right.HasPlaces places) : left.le right = .ok (decide (left.value ≤ right.value)) := by
  rw [le, order?_eq left_placed right_placed]
  by_cases more : right.value < left.value
  · simp [compare_gt_iff_gt.2 more, not_le.2 more]
  · have other : compare left.value right.value ≠ .gt := fun same => more (compare_gt_iff_gt.1 same)
    simp [not_lt.1 more, other]

theorem le_zero_eq {places : Nat} {d : Decimal} (placed : d.HasPlaces places) :
    d.le zero = .ok (decide (d.value ≤ 0)) := by
  rw [le_eq placed (zero_hasPlaces places), value_zero]

end Arrears.Decimal
