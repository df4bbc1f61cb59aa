import Arrears.Yaml.Basic

/-! The order in which a set shows its items. Items have slots in a table whose size is a power of
two. A number goes to the slot that its remainder names, or, if that is taken, to the first free
one of a row of others. Sets with items other than numbers keep the order they are written in. -/

set_option autoImplicit false

namespace Arrears.Yaml

/-- The modulus of remainders of numbers; two to the power of 61 leaves one. -/
def setModulus : Nat := Nat.pow 2 61 - 1

/-- The remainder of a number, which is the same for numbers of one value. -/
def remainder? : Yaml → Option Int
  | bool b => some b.toNat
  | num (.int n) => some (signedRemainder (decide (n < 0)) n.natAbs)
  | num (.binary (.finite negative mantissa exponent)) =>
    some (signedRemainder negative (mantissa * Nat.pow 2 (exponent % 61).toNat))
  | num (.binary (.infinite negative)) => some (if negative then -314159 else 314159)
  | _ => none
where
  -- Minus one is kept free for other use.
  signedRemainder (negative : Bool) (n : Nat) : Int :=
    let remainder := Decimal.signed negative (n % setModulus)
    if remainder = -1 then -2 else remainder

def slotCount (items : Nat) : Nat := if items < 5 then 8 else Nat.pow 2 (Nat.log2 (2 * items) + 1)

/-- The first free slot of a row: the slots from one on, up to ten if there are so many, and then
those from another slot on, which more and more of the item's bits choose. -/
def freeSlot (slots : Array (Option Yaml)) : Nat → Nat → Nat → Nat
  | 0, _, slot => slot
  | rounds + 1, bits, slot =>
    let run := if slot + 10 ≤ slots.size then 10 else 1
    match (List.range' slot run).find? fun slot => (slots[slot]?.join).isNone with
    | some slot => slot
    | none => freeSlot slots rounds (bits / 32) ((slot * 5 + 1 + bits / 32) % slots.size)

def putSlot (slots : Array (Option Yaml)) (item : Yaml) (remainder : Int) : Array (Option Yaml) :=
  let bits := (remainder % 0x10000000000000000).toNat
  -- once the bits are used up, the row goes through all slots
  slots.setIfInBounds (freeSlot slots (slots.size + 13) bits (bits % slots.size)) (some item)

def setOrder (items : List Yaml) : List Yaml :=
  match items.mapM fun item => (remainder? item).map fun remainder => (item, remainder) with
  | none => items
  | some placed =>
    (placed.foldl (fun slots (item, remainder) => putSlot slots item remainder)
      (Array.replicate (slotCount items.length) none)).toList.filterMap id

end Arrears.Yaml
