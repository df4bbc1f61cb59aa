import Arrears.Decimal.Basic

/-! Rounding of exact results. A context says how many digits a result may have and between which
exponents its first digit may lie; whatever does not fit is rounded once, a half going to the even
neighbour. A result that fits is left alone. -/

set_option autoImplicit false

namespace Arrears.Decimal

structure Context where
  precision : Nat
  maxExponent : Int
  minExponent : Int
  deriving DecidableEq, Repr

def Context.money : Context := ⟨28, 999999, -999999⟩

def Context.floor (context : Context) : Int := context.minExponent - context.precision + 1

def dropDigits (coefficient n : Nat) : Nat :=
  if digitCount coefficient < n then 0 else
    let unit := Nat.pow 10 n
    let kept := coefficient / unit
    let lost := coefficient % unit
    if 2 * lost < unit then kept
    else if unit < 2 * lost then kept + 1
    else kept + kept % 2

def Context.excess (context : Context) (coefficient : Nat) (exponent : Int) : Nat :=
  max (digitCount coefficient - context.precision) (context.floor - exponent).toNat

def Context.finish (context : Context) (negative : Bool) (coefficient : Nat) (exponent : Int) :
    Except Fault Decimal :=
  if coefficient = 0 then
    .ok (finite negative 0 (max context.floor (min context.maxExponent exponent)))
  else
    let excess := context.excess coefficient exponent
    let kept := dropDigits coefficient excess
    let shifted := exponent + excess
    -- rounding up may give one digit too many, and then it ends in a zero
    let (kept, shifted) :=
      if kept = Nat.pow 10 context.precision then (kept / 10, shifted + 1) else (kept, shifted)
    if context.maxExponent < leading kept shifted then .error .overflow
    else .ok (finite negative kept shifted)

theorem dropDigits_zero (coefficient : Nat) : dropDigits coefficient 0 = coefficient := by
  simp [dropDigits, Nat.mod_one]

theorem Context.finish_exact {context : Context} {negative : Bool} {coefficient : Nat} {exponent : Int}
    (nonzero : coefficient ≠ 0) (short : digitCount coefficient ≤ context.precision)
    (low : context.floor ≤ exponent) (high : leading coefficient exponent ≤ context.maxExponent) :
    context.finish negative coefficient exponent = .ok (finite negative coefficient exponent) := by
  have fits : context.excess coefficient exponent = 0 := by
    simp only [Context.excess]; omega
  have room : coefficient < Nat.pow 10 context.precision :=
    (digitCount_le_iff (Nat.lt_of_lt_of_le (digitCount_pos coefficient) short)).1 short
  simp [Context.finish, nonzero, fits, dropDigits_zero, Nat.ne_of_lt room, Int.not_lt.2 high, -Nat.pow_eq]

theorem Context.finish_eq_error {context : Context} {negative : Bool} {coefficient : Nat} {exponent : Int}
    {fault : Fault} (failed : context.finish negative coefficient exponent = .error fault) :
    fault = .overflow := by
  unfold Context.finish at failed
  split at failed
  next => cases failed
  next =>
    dsimp only at failed
    -- with or without the digit too many
    split at failed <;> split at failed <;> cases failed <;> rfl

end Arrears.Decimal
