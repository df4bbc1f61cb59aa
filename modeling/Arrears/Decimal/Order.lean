import Arrears.Decimal.Basic

/-! The order of decimal numbers by value. It never rounds, and `1.5` and `1.50` are equal in it. -/

set_option autoImplicit false

namespace Arrears.Decimal

/-- Coefficients with exponents, compared by value. First digits at different places settle the
matter, so that the powers of ten stay as small as the coefficients are long. -/
def compareMagnitude (coefficient₁ : Nat) (exponent₁ : Int) (coefficient₂ : Nat) (exponent₂ : Int) :
    Ordering :=
  if coefficient₁ = 0 ∨ coefficient₂ = 0 then compare coefficient₁ coefficient₂
  else if leading coefficient₁ exponent₁ ≠ leading coefficient₂ exponent₂ then
    compare (leading coefficient₁ exponent₁) (leading coefficient₂ exponent₂)
  else
    compare (coefficient₁ * Nat.pow 10 (exponent₁ - exponent₂).toNat)
      (coefficient₂ * Nat.pow 10 (exponent₂ - exponent₁).toNat)

def compareFinite (negative₁ : Bool) (coefficient₁ : Nat) (exponent₁ : Int)
    (negative₂ : Bool) (coefficient₂ : Nat) (exponent₂ : Int) : Ordering :=
  match negative₁ && coefficient₁ != 0, negative₂ && coefficient₂ != 0 with
  | false, false => compareMagnitude coefficient₁ exponent₁ coefficient₂ exponent₂
  | true, true => compareMagnitude coefficient₂ exponent₂ coefficient₁ exponent₁
  | true, false => .lt
  | false, true => .gt

def order? : Decimal → Decimal → Option Ordering
  | finite negative₁ coefficient₁ exponent₁, finite negative₂ coefficient₂ exponent₂ =>
    some (compareFinite negative₁ coefficient₁ exponent₁ negative₂ coefficient₂ exponent₂)
  | infinite negative₁, infinite negative₂ => some (compare negative₂ negative₁)
  | infinite negative, finite .. => some (if negative then .lt else .gt)
  | finite .., infinite negative => some (if negative then .gt else .lt)
  | _, _ => none

def lt (left right : Decimal) : Except Fault Bool :=
  match order? left right with
  | some order => .ok (order == .lt)
  | none => .error .invalid

def le (left right : Decimal) : Except Fault Bool :=
  match order? left right with
  | some order => .ok (order != .gt)
  | none => .error .invalid

/-- Equality of value. What is no number equals nothing, and cannot be asked if it signals. -/
def eqv (left right : Decimal) : Except Fault Bool :=
  if left.isSignalling || right.isSignalling then .error .invalid
  else .ok (order? left right == some .eq)

end Arrears.Decimal
