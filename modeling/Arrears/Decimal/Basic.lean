import Arrears.Text.Digit

/-! Decimal numbers as ledgers write them: a coefficient and a power of ten, kept apart, so that
`1.5` and `1.50` are two numbers of one value. Beside the finite ones stand the infinities and
the results that are no number. -/

set_option autoImplicit false

namespace Arrears

inductive Decimal where
  | finite (negative : Bool) (coefficient : Nat) (exponent : Int)
  | infinite (negative : Bool)
  | nan (negative signalling : Bool) (payload : Nat)
  deriving DecidableEq, Repr

namespace Decimal

inductive Fault where
  | invalid
  | overflow
  deriving DecidableEq, Repr

def ofInt (n : Int) : Decimal := finite (decide (n < 0)) n.natAbs 0

def zero : Decimal := ofInt 0

def isSignalling : Decimal → Bool
  | nan _ signalling _ => signalling
  | _ => false

def isFinite : Decimal → Bool
  | finite .. => true
  | _ => false

def isZero : Decimal → Bool
  | finite _ coefficient _ => coefficient == 0
  | _ => false

-- How many digits write a coefficient; zero takes one.
def digitCount (n : Nat) : Nat := (Text.digits n).length

-- The exponent of the first digit.
def leading (coefficient : Nat) (exponent : Int) : Int := exponent + digitCount coefficient - 1

def signed (negative : Bool) (coefficient : Nat) : Int :=
  if negative then -(coefficient : Int) else coefficient

theorem digitCount_pos (n : Nat) : 0 < digitCount n := Nat.length_toDigits_pos

theorem digitCount_le_iff {n k : Nat} (h : 0 < k) : digitCount n ≤ k ↔ n < Nat.pow 10 k :=
  Nat.length_toDigits_le_iff (by decide) h

theorem lt_pow_digitCount (n : Nat) : n < Nat.pow 10 (digitCount n) :=
  (digitCount_le_iff (digitCount_pos n)).1 (Nat.le_refl _)

theorem signed_natAbs (negative : Bool) (coefficient : Nat) :
    (signed negative coefficient).natAbs = coefficient := by
  cases negative <;> simp [signed]

end Decimal

end Arrears
