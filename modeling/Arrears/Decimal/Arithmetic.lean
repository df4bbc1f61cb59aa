import Arrears.Decimal.Rounding

/-! Sums, products and signs of decimal numbers. Each result is computed exactly and rounded once.
A sum has the smaller of the two exponents and a product their sum, so that amounts keep their
places. -/

set_option autoImplicit false

namespace Arrears.Decimal

/-- What stands for an operand that is no number: its payload, as far as there is room. -/
def Context.quiet (context : Context) (negative : Bool) (payload : Nat) : Decimal :=
  nan negative false (payload % Nat.pow 10 context.precision)

/-- The result of an operation on two operands of which one at least is no number: the first such
operand, unless one of them signals. -/
def Context.nanOfTwo (context : Context) : Decimal → Decimal → Except Fault Decimal
  | nan _ true _, _ => .error .invalid
  | _, nan _ true _ => .error .invalid
  | nan negative _ payload, _ => .ok (context.quiet negative payload)
  | _, nan negative _ payload => .ok (context.quiet negative payload)
  | _, _ => .error .invalid

/-- The highest exponent at which a digit cannot touch the rounded sum with a coefficient far
above it, other than as a sign. -/
def Context.horizon (context : Context) (coefficient : Nat) (exponent : Int) : Int :=
  if context.precision < digitCount coefficient then exponent - 1
  else exponent - 2 - context.precision + digitCount coefficient

/-- The sum of two coefficients, the first with the larger exponent. A summand far below the last
digit that counts is replaced by a single one there. -/
def Context.addAligned (context : Context) (negative₁ : Bool) (coefficient₁ : Nat) (exponent₁ : Int)
    (negative₂ : Bool) (coefficient₂ : Nat) (exponent₂ : Int) : Except Fault Decimal :=
  let horizon := context.horizon coefficient₁ exponent₁
  let far := coefficient₁ ≠ 0 ∧ leading coefficient₂ exponent₂ < horizon
  let coefficient₂ := if far then min coefficient₂ 1 else coefficient₂
  let exponent₂ := if far then horizon else exponent₂
  -- a zero has no digits to shift
  let gap := if coefficient₁ = 0 then 0 else (exponent₁ - exponent₂).toNat
  let total := signed negative₁ (coefficient₁ * Nat.pow 10 gap) + signed negative₂ coefficient₂
  let negative := if total = 0 then negative₁ && negative₂ else decide (total < 0)
  context.finish negative total.natAbs exponent₂

def Context.add (context : Context) : Decimal → Decimal → Except Fault Decimal
  | finite negative₁ coefficient₁ exponent₁, finite negative₂ coefficient₂ exponent₂ =>
    if exponent₂ ≤ exponent₁ then
      context.addAligned negative₁ coefficient₁ exponent₁ negative₂ coefficient₂ exponent₂
    else
      context.addAligned negative₂ coefficient₂ exponent₂ negative₁ coefficient₁ exponent₁
  | infinite negative₁, infinite negative₂ =>
    if negative₁ = negative₂ then .ok (infinite negative₁) else .error .invalid
  | infinite negative, finite .. => .ok (infinite negative)
  | finite .., infinite negative => .ok (infinite negative)
  | left, right => context.nanOfTwo left right

def opposite : Decimal → Decimal
  | finite negative coefficient exponent => finite (!negative) coefficient exponent
  | infinite negative => infinite (!negative)
  | other => other

def Context.sub (context : Context) (left right : Decimal) : Except Fault Decimal :=
  context.add left (opposite right)

def Context.mul (context : Context) : Decimal → Decimal → Except Fault Decimal
  | finite negative₁ coefficient₁ exponent₁, finite negative₂ coefficient₂ exponent₂ =>
    context.finish (negative₁ != negative₂) (coefficient₁ * coefficient₂) (exponent₁ + exponent₂)
  | infinite negative₁, infinite negative₂ => .ok (infinite (negative₁ != negative₂))
  | infinite negative₁, finite negative₂ coefficient _ =>
    if coefficient = 0 then .error .invalid else .ok (infinite (negative₁ != negative₂))
  | finite negative₁ coefficient _, infinite negative₂ =>
    if coefficient = 0 then .error .invalid else .ok (infinite (negative₁ != negative₂))
  | left, right => context.nanOfTwo left right

/-- A number with the sign that `change` makes of its own; a zero comes out positive. -/
def Context.resign (context : Context) (change : Bool → Bool) : Decimal → Except Fault Decimal
  | finite negative coefficient exponent =>
    context.finish (change negative && coefficient != 0) coefficient exponent
  | infinite negative => .ok (infinite (change negative))
  | nan _ true _ => .error .invalid
  | nan negative false payload => .ok (context.quiet negative payload)

def Context.neg (context : Context) : Decimal → Except Fault Decimal := context.resign not

def Context.abs (context : Context) : Decimal → Except Fault Decimal :=
  context.resign fun _ => false

def add : Decimal → Decimal → Except Fault Decimal := Context.money.add
def sub : Decimal → Decimal → Except Fault Decimal := Context.money.sub
def mul : Decimal → Decimal → Except Fault Decimal := Context.money.mul
def neg : Decimal → Except Fault Decimal := Context.money.neg
def abs : Decimal → Except Fault Decimal := Context.money.abs

def sum (amounts : List Decimal) : Except Fault Decimal := amounts.foldlM add zero

end Arrears.Decimal
