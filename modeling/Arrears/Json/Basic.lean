import Arrears.Assoc
import Arrears.Number.Basic

/-! Data values in the shape of JSON. An object keeps its members in order, each key once. Numbers
keep the form they came in, and values that hold a decimal number have no JSON text. -/

set_option autoImplicit false

namespace Arrears

inductive Json where
  | null
  | bool (b : Bool)
  | num (n : Number)
  | str (s : String)
  | arr (items : List Json)
  | obj (members : List (String × Json))
  deriving Repr, Inhabited

namespace Json

@[match_pattern] abbrev int (n : Int) : Json := num (.int n)

-- The number of a value; a truth value counts as one or zero.
def number? : Json → Option Number
  | num n => some n
  | bool b => some (.int b.toNat)
  | _ => none

/-- Nothing, zero, or a text or collection without content. -/
def isVacant : Json → Bool
  | null => true
  | bool b => !b
  | num n => n.isZero
  | str s => s.isEmpty
  | arr items => items.isEmpty
  | obj members => members.isEmpty

def get? (key : String) : Json → Option Json
  | obj members => Assoc.get? key members
  | _ => none

def getD (key : String) (value : Json) : Json := (value.get? key).getD null

mutual

/-- Equality of data: numbers by value, objects whatever the order of their members. What is no number
equals nothing, also where it is one and the same thing that two lists or objects hold. -/
def eqv : Json → Json → Bool
  | null, null => true
  | str s, str t => s == t
  | arr items, arr others => eqvItems items others
  | obj members, obj others => members.length == others.length && eqvMembers members others
  | left, right =>
    match left.number?, right.number? with
    | some m, some n => m.eqv n
    | _, _ => false

def eqvItems : List Json → List Json → Bool
  | [], [] => true
  | item :: items, other :: others => eqv item other && eqvItems items others
  | _, _ => false

def eqvMembers : List (String × Json) → List (String × Json) → Bool
  | [], _ => true
  | (key, value) :: members, others =>
    (match Assoc.get? key others with
      | some other => eqv value other
      | none => false) && eqvMembers members others

end

mutual

/-- Whether a number of a kind occurs in the value, at any depth. -/
def hasNumber (kind : Number → Bool) : Json → Bool
  | num n => kind n
  | arr items => itemsHave kind items
  | obj members => membersHave kind members
  | _ => false

def itemsHave (kind : Number → Bool) : List Json → Bool
  | [] => false
  | item :: items => hasNumber kind item || itemsHave kind items

def membersHave (kind : Number → Bool) : List (String × Json) → Bool
  | [] => false
  | (_, value) :: members => hasNumber kind value || membersHave kind members

end

abbrev hasDecimal (value : Json) : Bool := value.hasNumber Number.isDecimal

abbrev hasLong (most : Nat) (value : Json) : Bool := value.hasNumber (Number.isLong most)

theorem eqv_str (s t : String) : eqv (str s) (str t) = (s == t) := by simp [eqv]

end Json

end Arrears
