import Arrears.Json.Basic
import Arrears.Json.Token

/-! Reading a JSON value from its tokens. The containers that are still open wait on a stack, and
each token meets one expectation: a value, a key, or what may follow them. -/

set_option autoImplicit false

namespace Arrears.Json

inductive ReadFault where
  | malformed
  | unreadableNumber
  deriving DecidableEq, Repr

inductive Fractions where
  | decimal
  | binary
  deriving DecidableEq, Repr

/-- A container that is still open: its items last first, or its members and the key at hand. -/
inductive Frame where
  | array (items : List Json)
  | object (members : List (String × Json)) (key : String)

inductive Expectation where
  | value
  | valueOrEnd
  | key (members : List (String × Json))
  | keyOrEnd
  | colon (members : List (String × Json)) (key : String)
  | next
  | complete (value : Json)

structure State where
  stack : List Frame
  expectation : Expectation

def deliver (value : Json) : List Frame → State
  | [] => ⟨[], .complete value⟩
  | .array items :: stack => ⟨.array (value :: items) :: stack, .next⟩
  | .object members key :: stack => ⟨.object (Assoc.put key value members) key :: stack, .next⟩

def fraction (fractions : Fractions) (negative : Bool) (coefficient : Nat) (exponent : Int) :
    Except ReadFault Number :=
  match fractions with
  | .decimal =>
    if Decimal.InRange coefficient exponent then .ok (.decimal (.finite negative coefficient exponent))
    else .error .unreadableNumber
  | .binary => .ok (.binary (.ofDecimal (.finite negative coefficient exponent)))

def acceptValue (fractions : Fractions) (stack : List Frame) : Token → Except ReadFault State
  | .null => .ok (deliver .null stack)
  | .bool b => .ok (deliver (.bool b) stack)
  | .str s => .ok (deliver (.str s) stack)
  | .int n => .ok (deliver (.int n) stack)
  | .binary x => .ok (deliver (.num (.binary x)) stack)
  | .fraction negative coefficient exponent =>
    (fraction fractions negative coefficient exponent).map fun n => deliver (.num n) stack
  | .openArray => .ok ⟨.array [] :: stack, .valueOrEnd⟩
  | .openObject => .ok ⟨stack, .keyOrEnd⟩
  | _ => .error .malformed

def acceptNext (stack : List Frame) (token : Token) : Except ReadFault State :=
  match stack, token with
  | .array items :: stack, .comma => .ok ⟨.array items :: stack, .value⟩
  | .array items :: stack, .closeArray => .ok (deliver (.arr items.reverse) stack)
  | .object members _ :: stack, .comma => .ok ⟨stack, .key members⟩
  | .object members _ :: stack, .closeObject => .ok (deliver (.obj members) stack)
  | _, _ => .error .malformed

def accept (fractions : Fractions) (state : State) (token : Token) : Except ReadFault State :=
  match state.expectation, token with
  | .value, token => acceptValue fractions state.stack token
  | .valueOrEnd, .closeArray => acceptNext state.stack .closeArray
  | .valueOrEnd, token => acceptValue fractions state.stack token
  | .keyOrEnd, .closeObject => .ok (deliver (.obj []) state.stack)
  | .keyOrEnd, .str key => .ok ⟨state.stack, .colon [] key⟩
  | .key members, .str key => .ok ⟨state.stack, .colon members key⟩
  | .colon members key, .colon => .ok ⟨.object members key :: state.stack, .value⟩
  | .next, token => acceptNext state.stack token
  | _, _ => .error .malformed

def acceptAll (fractions : Fractions) : State → List Token → Except ReadFault State
  | state, [] => .ok state
  | state, token :: tokens => (accept fractions state token).bind fun state =>
      acceptAll fractions state tokens

def result (state : State) : Except ReadFault Json :=
  match state.expectation with
  | .complete value => .ok value
  | _ => .error .malformed

def read (fractions : Fractions) (text : String) : Except ReadFault Json :=
  (acceptAll fractions ⟨[], .value⟩ (tokens text.toList)).bind result

/-- A whole number of more digits than the limit is no number. -/
def Token.within (limit : Option Nat) : Token → Token
  | .int n => if limit.any (· < (Text.digits n.natAbs).length) then .bad else .int n
  | token => token

def readWithin (limit : Option Nat) (fractions : Fractions) (text : String) : Except ReadFault Json :=
  (acceptAll fractions ⟨[], .value⟩ ((tokens text.toList).map (Token.within limit))).bind result

theorem readWithin_none (fractions : Fractions) (text : String) :
    readWithin none fractions text = read fractions text := by
  have same : (tokens text.toList).map (Token.within none) = tokens text.toList := by
    refine (List.map_congr_left fun token _ => ?_).trans (List.map_id _)
    cases token <;> rfl
  rw [readWithin, same, read]

end Arrears.Json
