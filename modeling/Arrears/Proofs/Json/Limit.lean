import Arrears.Json.Amount
import Arrears.Proofs.Json.RoundTrip
import Arrears.Proofs.Outcome

/-! A limit on the digits of whole numbers. What is read under it is read without it too, as a number that
is too long makes reading fail where it stands. And the text of a value without long numbers is read
back as it is without a limit. -/

set_option autoImplicit false

namespace Arrears.Json

variable {limit : Option Nat}

/-! ## What is read under a limit -/

section

variable {fractions : Fractions} {state after : State}

theorem accept_bad (state : State) : accept fractions state .bad = .error .malformed := by
  obtain ⟨stack, expectation⟩ := state
  cases expectation with
  | next =>
    cases stack with
    | nil => rfl
    | cons frame stack => cases frame <;> rfl
  | _ => rfl

theorem accept_of_within {token : Token} (accepted : accept fractions state (token.within limit) = .ok after) :
    accept fractions state token = .ok after := by
  cases token with
  | int n =>
    simp only [Token.within] at accepted
    split at accepted
    next => rw [accept_bad] at accepted; cases accepted
    next => exact accepted
  | _ => exact accepted

theorem acceptAll_of_within {tokens : List Token}
    (accepted : acceptAll fractions state (tokens.map (Token.within limit)) = .ok after) :
    acceptAll fractions state tokens = .ok after := by
  induction tokens generalizing state with
  | nil => exact accepted
  | cons token tokens ih =>
    obtain ⟨next, stepped, rest⟩ := bind_eq_ok.1 accepted
    exact bind_eq_ok.2 ⟨next, accept_of_within stepped, ih rest⟩

theorem read_of_readWithin {text : String} {value : Json} (found : readWithin limit fractions text = .ok value) :
    read fractions text = .ok value := by
  obtain ⟨state, accepted, complete⟩ := bind_eq_ok.1 found
  exact bind_eq_ok.2 ⟨state, acceptAll_of_within accepted, complete⟩

end

theorem count_of_within {value : Json} {n : Int} (counted : value.count limit = .ok n) :
    value.count none = .ok n := by
  cases value with
  | str s =>
    unfold count at counted ⊢
    dsimp only at counted ⊢
    split at counted
    next =>
      split at counted
      next => cases counted
      next => exact counted
    next => cases counted
  | num m => cases m <;> exact counted
  | _ => exact counted

/-! ## What is written within a limit -/

mutual

theorem map_within_tokensOf {most : Nat} : ∀ value : Json, hasLong most value = false →
    (tokensOf value).map (Token.within (some most)) = tokensOf value
  | null, _ => rfl
  | bool _, _ => rfl
  | num (.int n), short => by
    simp only [hasNumber, Number.isLong, decide_eq_false_iff_not] at short
    simp [tokensOf, numberToken, Token.within, short]
  | num (.binary _), _ => rfl
  | num (.decimal _), _ => rfl
  | str _, _ => rfl
  | arr [], _ => rfl
  | arr (item :: items), short => by
    simp only [hasNumber, itemsHave, Bool.or_eq_false_iff] at short
    rw [tokensOf, List.cons_append, List.map_cons, List.map_append, map_within_tokensOf item short.1,
      map_within_itemsTokens items short.2]
    rfl
  | obj [], _ => rfl
  | obj ((key, value) :: members), short => by
    simp only [hasNumber, membersHave, Bool.or_eq_false_iff] at short
    simp only [tokensOf, List.cons_append, List.map_cons, List.map_append, map_within_tokensOf value short.1,
      map_within_membersTokens members short.2, Token.within]

theorem map_within_itemsTokens {most : Nat} : ∀ items : List Json, itemsHave (Number.isLong most) items = false →
    (itemsTokens items).map (Token.within (some most)) = itemsTokens items
  | [], _ => rfl
  | item :: items, short => by
    simp only [itemsHave, Bool.or_eq_false_iff] at short
    rw [itemsTokens, List.cons_append, List.map_cons, List.map_append, map_within_tokensOf item short.1,
      map_within_itemsTokens items short.2]
    rfl

theorem map_within_membersTokens {most : Nat} : ∀ members : List (String × Json),
    membersHave (Number.isLong most) members = false →
    (membersTokens members).map (Token.within (some most)) = membersTokens members
  | [], _ => rfl
  | (key, value) :: members, short => by
    simp only [membersHave, Bool.or_eq_false_iff] at short
    simp only [membersTokens, List.cons_append, List.map_cons, List.map_append,
      map_within_tokensOf value short.1, map_within_membersTokens members short.2, Token.within]

end

/-- Under a limit that no number of a value exceeds its text is read back as without one. -/
theorem readWithin_toText (fractions : Fractions) {value : Json} (exact : hasDecimal value = false)
    (whole : hasFloat value = false) (short : limit.any (value.hasLong ·) = false) :
    readWithin limit fractions value.toText = .ok (reread value) := by
  have read := read_toText fractions exact whole
  cases limit with
  | none => exact (readWithin_none fractions _).trans read
  | some most =>
    have kept := map_within_tokensOf value short
    rw [← tokens_toText exact whole] at kept
    rw [readWithin, kept]
    exact read

end Arrears.Json
