import Arrears.Decimal.Arithmetic
import Arrears.Decimal.Text

/-! Decimal numbers and their written form. A representable number is read back as it was written,
digit by digit, and whatever arithmetic gives is representable. -/

set_option autoImplicit false

namespace Arrears.Decimal

open Text

/-! ## Results of arithmetic -/

theorem finish_representable {negative : Bool} {coefficient : Nat} {exponent : Int} {d : Decimal}
    (finished : Context.money.finish negative coefficient exponent = .ok d) : d.Representable := by
  unfold Context.finish at finished
  split at finished
  next zero =>
    cases finished
    have one : digitCount 0 = 1 := rfl
    constructor <;> simp only [leading, one, Context.money, Context.floor, highest, lowest] <;> omega
  next nonzero =>
    have kept : Context.money.floor ≤ exponent + (Context.money.excess coefficient exponent : Nat) := by
      simp only [Context.excess, Context.money, Context.floor]; omega
    simp only [Context.money, Context.floor] at kept
    dsimp only at finished
    split at finished
    all_goals
      split at finished
      next => cases finished
      next bounded =>
        cases finished
        simp only [Context.money] at bounded
        constructor <;> simp only [highest, lowest, Context.money] <;> omega

theorem nanOfTwo_representable {left right d : Decimal}
    (result : Context.money.nanOfTwo left right = .ok d) : d.Representable := by
  unfold Context.nanOfTwo at result
  split at result <;> cases result <;> trivial

theorem add_representable {left right d : Decimal} (added : left.add right = .ok d) :
    d.Representable := by
  unfold add Context.add at added
  split at added
  next => split at added <;> exact finish_representable added
  next => split at added <;> cases added; trivial
  next => cases added; trivial
  next => cases added; trivial
  next => exact nanOfTwo_representable added

theorem mul_representable {left right d : Decimal} (multiplied : left.mul right = .ok d) :
    d.Representable := by
  unfold mul Context.mul at multiplied
  split at multiplied
  next => exact finish_representable multiplied
  next => cases multiplied; trivial
  next => split at multiplied <;> cases multiplied; trivial
  next => split at multiplied <;> cases multiplied; trivial
  next => exact nanOfTwo_representable multiplied

theorem neg_representable {number d : Decimal} (negated : number.neg = .ok d) : d.Representable := by
  unfold neg Context.neg Context.resign at negated
  split at negated
  next => exact finish_representable negated
  next => cases negated; trivial
  next => cases negated
  next => cases negated; trivial

/-! ## Reading what was written -/

theorem digit_bounds {c : Char} (digit : c.isDigit = true) : 48 ≤ c.toNat ∧ c.toNat ≤ 57 := by
  simp only [Char.isDigit, Bool.and_eq_true, decide_eq_true_eq, ge_iff_le,
    UInt32.le_iff_toNat_le] at digit
  exact digit

def isPlain (c : Char) : Bool := !isBlank c && c != '_' && decide (c.toNat < 128)

theorem digit_plain {c : Char} (digit : c.isDigit = true) : isPlain c = true := by
  have bounds := digit_bounds digit
  have other : c ≠ '_' := by
    rintro rfl
    exact absurd bounds (by decide)
  have visible : isBlank c = false := by
    simp only [isBlank, inRuns, blankRuns, List.any_cons, List.any_nil, Bool.or_false,
      Bool.or_eq_false_iff, Bool.and_eq_false_iff, decide_eq_false_iff_not]
    omega
  simp only [isPlain, visible, bne_iff_ne.2 other, Bool.not_false, Bool.true_and, decide_eq_true_eq]
  omega

theorem readChars?_plain {cs : List Char} (plain : ∀ c ∈ cs, isPlain c = true) :
    readChars? cs = readPlain? cs := by
  have each : ∀ c ∈ cs, isBlank c = false ∧ (c != '_') = true ∧ c.toNat < 128 := by
    intro c member
    simpa [isPlain, and_assoc] using plain c member
  have trimmed : trim cs = cs :=
    trimWith_eq_self (fun c first => (each c (List.mem_of_head? first)).1)
      (fun c last => (each c (List.mem_of_getLast? last)).1)
  have kept : cs.filter (· != '_') = cs := List.filter_eq_self.2 fun c member => (each c member).2.1
  have same : cs.map asciiDigit = cs := by
    have each : ∀ c ∈ cs, asciiDigit c = id c := fun c member => if_pos (each c member).2.2
    rw [List.map_congr_left each, List.map_id]
  rw [readChars?, trimmed, kept, same]

theorem signChars_plain (negative : Bool) : ∀ c ∈ signChars negative, isPlain c = true := by
  apply List.all_eq_true.1
  cases negative <;> decide

theorem digits_plain (n : Nat) : ∀ c ∈ digits n, isPlain c = true :=
  fun _ member => digit_plain (isDigit_of_mem_digits member)

theorem exponentChars_plain (n : Int) : ∀ c ∈ exponentChars n, isPlain c = true := by
  intro c member
  rcases List.mem_cons.1 member with sign | digit
  · subst sign
    split <;> decide
  · exact digits_plain _ c digit

theorem pointed_plain {cs : List Char} (plain : ∀ c ∈ cs, isPlain c = true) (places : Nat) :
    ∀ c ∈ pointed cs places, isPlain c = true := by
  have zero : isPlain '0' = true := by decide
  have point : isPlain '.' = true := by decide
  intro c member
  unfold pointed at member
  split at member
  · exact plain c member
  · split at member
    · simp only [List.mem_append, List.mem_cons] at member
      rcases member with front | same | back
      · exact plain c (List.mem_of_mem_take front)
      · exact same ▸ point
      · exact plain c (List.mem_of_mem_drop back)
    · simp only [List.mem_append, List.mem_cons, List.mem_replicate] at member
      rcases member with (same | same | ⟨_, same⟩) | digit
      · exact same ▸ zero
      · exact same ▸ point
      · exact same ▸ zero
      · exact plain c digit

theorem chars_plain (d : Decimal) : ∀ c ∈ d.chars, isPlain c = true := by
  intro c member
  cases d with
  | finite negative coefficient exponent =>
    simp only [chars, List.mem_append] at member
    rcases member with sign | body
    · exact signChars_plain negative c sign
    · split at body
      · exact pointed_plain (digits_plain _) _ c body
      · simp only [scaled, List.mem_append, List.mem_cons] at body
        rcases body with front | mark | power
        · exact pointed_plain (digits_plain _) _ c front
        · exact mark ▸ (by decide)
        · exact exponentChars_plain _ c power
  | infinite negative =>
    simp only [chars, List.mem_append] at member
    rcases member with sign | word
    · exact signChars_plain negative c sign
    · exact List.all_eq_true.1 (by decide) c word
  | nan negative signalling payload =>
    simp only [chars, List.mem_append] at member
    rcases member with (sign | word) | payload
    · exact signChars_plain negative c sign
    · exact List.all_eq_true.1 (by cases signalling <;> decide) c word
    · unfold payloadChars at payload
      split at payload
      · exact absurd payload List.not_mem_nil
      · exact digits_plain _ c payload

/-- Where a row of digits ends. -/
def Stops (rest : List Char) : Prop := ∀ c, rest.head? = some c → c.isDigit = false

theorem takeWhile_digits {cs rest : List Char} (digits : ∀ c ∈ cs, c.isDigit = true)
    (stops : Stops rest) : (cs ++ rest).takeWhile Char.isDigit = cs := by
  rw [List.takeWhile_append_of_pos digits]
  cases rest with
  | nil => simp
  | cons c rest => simp [stops c rfl]

theorem dropWhile_digits {cs rest : List Char} (digits : ∀ c ∈ cs, c.isDigit = true)
    (stops : Stops rest) : (cs ++ rest).dropWhile Char.isDigit = rest := by
  rw [List.dropWhile_append_of_pos digits]
  cases rest with
  | nil => rfl
  | cons c rest => simp [stops c rfl]

theorem readPower?_exponentChars (n : Int) : readPower? ('E' :: exponentChars n) = some n := by
  have digits : (Text.digits n.natAbs).all Char.isDigit = true :=
    List.all_eq_true.2 fun c member => isDigit_of_mem_digits member
  have some : Text.digits n.natAbs ≠ [] := Nat.toDigits_ne_nil
  -- the size stays as it is, so that what is left is for omega
  by_cases negative : n < 0 <;>
    simp only [readPower?, ↓Char.isValue, Char.reduceEq, or_true, ↓reduceIte, readExponent?, splitSign,
      exponentChars, negative, ne_eq, some, not_false_eq_true, digits, and_self, signed,
      Bool.false_eq_true, ofDigits_digits, Option.some.injEq]
  · omega
  · omega

structure Ends (tail : List Char) (power : Int) : Prop where
  marked : ∀ c, tail.head? = some c → c = 'E'
  read : readPower? tail = some power

theorem Ends.stops {tail : List Char} {power : Int} (ends : Ends tail power) : Stops tail := by
  intro c first
  rw [ends.marked c first]
  decide

theorem readScaled?_whole {whole tail : List Char} {power : Int}
    (digits : ∀ c ∈ whole, c.isDigit = true) (some : whole ≠ []) (ends : Ends tail power) :
    readScaled? (whole ++ tail) = .some (ofDigits whole, power) := by
  unfold readScaled?
  rw [takeWhile_digits digits ends.stops, dropWhile_digits digits ends.stops]
  cases tail with
  | nil => simp [some, ends.read]
  | cons c rest =>
    cases ends.marked c rfl
    simp [some, ends.read]

theorem readScaled?_point {whole places tail : List Char} {power : Int}
    (digits : ∀ c ∈ whole ++ places, c.isDigit = true) (some : whole ++ places ≠ [])
    (ends : Ends tail power) :
    readScaled? (whole ++ '.' :: (places ++ tail)) =
      .some (ofDigits (whole ++ places), power - places.length) := by
  have front : ∀ c ∈ whole, c.isDigit = true :=
    fun c member => digits c (List.mem_append_left _ member)
  have back : ∀ c ∈ places, c.isDigit = true :=
    fun c member => digits c (List.mem_append_right _ member)
  have stops : Stops ('.' :: (places ++ tail)) := by
    rintro c same
    cases same
    decide
  unfold readScaled?
  rw [takeWhile_digits front stops, dropWhile_digits front stops]
  simp only [takeWhile_digits back ends.stops, dropWhile_digits back ends.stops, if_neg some,
    ends.read, Option.map_some]

theorem ofDigits_padded (n : Nat) (cs : List Char) :
    ofDigits ('0' :: (List.replicate n '0' ++ cs)) = ofDigits cs := by
  have one (rest : List Char) : ofDigits ('0' :: rest) = ofDigits rest := by
    simp [ofDigits, Nat.ofDigitChars]
  rw [one]
  induction n with
  | zero => rfl
  | succ n ih => rw [List.replicate_succ, List.cons_append, one, ih]

theorem readScaled?_pointed {cs tail : List Char} {places : Nat} {power : Int}
    (digits : ∀ c ∈ cs, c.isDigit = true) (some : cs ≠ []) (ends : Ends tail power) :
    readScaled? (pointed cs places ++ tail) = .some (ofDigits cs, power - places) := by
  unfold pointed
  split
  next whole =>
    subst whole
    rw [readScaled?_whole digits some ends, Int.natCast_zero, Int.sub_zero]
  next =>
    split
    next short =>
      -- the point stands among the digits
      have same := List.take_append_drop (cs.length - places) cs
      rw [List.append_assoc, List.cons_append, readScaled?_point (same.symm ▸ digits)
        (same.symm ▸ some) ends, same, List.length_drop]
      congr 2
      omega
    next long =>
      -- zeros are put in front, and change nothing of the number
      have padded : ∀ c ∈ ['0'] ++ (List.replicate (places - cs.length) '0' ++ cs),
          c.isDigit = true := by
        intro c member
        simp only [List.mem_append, List.mem_singleton, List.mem_replicate] at member
        rcases member with same | ⟨_, same⟩ | member
        · exact same ▸ rfl
        · exact same ▸ rfl
        · exact digits c member
      have read := readScaled?_point padded (by simp) ends
      simp only [List.cons_append, List.nil_append, List.append_assoc, ofDigits_padded,
        List.length_append, List.length_replicate] at read ⊢
      rw [read]
      congr 2
      omega

theorem splitSign_signChars (negative : Bool) {rest : List Char}
    (unsigned : ∀ c, rest.head? = some c → c ≠ '-' ∧ c ≠ '+') :
    splitSign (signChars negative ++ rest) = (negative, rest) := by
  cases negative with
  | true => rfl
  | false =>
    cases rest with
    | nil => rfl
    | cons c rest =>
      obtain ⟨minus, plus⟩ := unsigned c rfl
      simp [signChars, splitSign, minus, plus]

theorem toLower_digit {c : Char} (digit : c.isDigit = true) : c.toLower = c := by
  have bounds := digit_bounds digit
  have small : ¬ (c.val ≥ 'A'.val ∧ c.val ≤ 'Z'.val) := by
    rintro ⟨above, _⟩
    have above : 65 ≤ c.toNat := UInt32.le_iff_toNat_le.1 above
    omega
  exact dif_neg small

theorem dropWord?_digit {c w : Char} {word cs : List Char} (digit : c.isDigit = true)
    (letter : w.isDigit = false) : dropWord? (w :: word) (c :: cs) = none := by
  have other : c ≠ w := by
    rintro rfl
    exact absurd digit (by simp [letter])
  simp [dropWord?, toLower_digit digit, other]

theorem readPlain?_digit (negative : Bool) {c : Char} {cs : List Char} (digit : c.isDigit = true) :
    readPlain? (signChars negative ++ c :: cs) = readFinite? negative (c :: cs) := by
  have unsigned : ∀ d, (c :: cs).head? = some d → d ≠ '-' ∧ d ≠ '+' := by
    rintro d same
    cases same
    constructor <;>
      · rintro rfl
        exact absurd digit (by decide)
  unfold readPlain?
  rw [splitSign_signChars negative unsigned]
  have inf : dropWord? "inf".toList (c :: cs) = none := dropWord?_digit digit rfl
  have nan : dropWord? "nan".toList (c :: cs) = none := dropWord?_digit digit rfl
  have snan : dropWord? "snan".toList (c :: cs) = none := dropWord?_digit digit rfl
  simp only [inf, nan, snan]

theorem pointed_head {cs : List Char} (digits : ∀ c ∈ cs, c.isDigit = true) (some : cs ≠ [])
    (places : Nat) : ∃ c rest, pointed cs places = c :: rest ∧ c.isDigit = true := by
  unfold pointed
  split
  next =>
    obtain ⟨c, rest, rfl⟩ := List.exists_cons_of_ne_nil some
    exact ⟨c, rest, rfl, digits c List.mem_cons_self⟩
  next =>
    split
    next short =>
      obtain ⟨c, rest, rfl⟩ := List.exists_cons_of_ne_nil some
      obtain ⟨n, length⟩ : ∃ n, (c :: rest).length - places = n + 1 :=
        Nat.exists_eq_succ_of_ne_zero (by omega)
      rw [length]
      exact ⟨c, _, rfl, digits c List.mem_cons_self⟩
    next => exact ⟨'0', _, rfl, rfl⟩

theorem readScaled?_body (coefficient : Nat) (exponent : Int) :
    readScaled? (if exponent ≤ 0 ∧ -6 ≤ leading coefficient exponent then
        pointed (digits coefficient) exponent.natAbs
      else scaled (digits coefficient) (leading coefficient exponent)) =
      some (coefficient, exponent) := by
  have all : ∀ c ∈ digits coefficient, c.isDigit = true := fun _ => isDigit_of_mem_digits
  have some : digits coefficient ≠ [] := Nat.toDigits_ne_nil
  split
  next positional =>
    have ends : Ends [] 0 := { read := rfl, marked := nofun }
    rw [← List.append_nil (pointed _ _), readScaled?_pointed all some ends, ofDigits_digits]
    congr 2
    omega
  next =>
    have ends : Ends ('E' :: exponentChars (leading coefficient exponent))
        (leading coefficient exponent) :=
      { marked := fun _ first => (Option.some.inj first).symm, read := readPower?_exponentChars _ }
    have count := digitCount_pos coefficient
    rw [scaled, readScaled?_pointed all some ends, ofDigits_digits]
    simp only [leading, digitCount] at count ⊢
    congr 2
    omega

theorem body_head (coefficient : Nat) (exponent : Int) :
    ∃ c rest, (if exponent ≤ 0 ∧ -6 ≤ leading coefficient exponent then
        pointed (digits coefficient) exponent.natAbs
      else scaled (digits coefficient) (leading coefficient exponent)) = c :: rest ∧
      c.isDigit = true := by
  have all : ∀ c ∈ digits coefficient, c.isDigit = true := fun _ => isDigit_of_mem_digits
  have some : digits coefficient ≠ [] := Nat.toDigits_ne_nil
  split
  next => exact pointed_head all some _
  next =>
    obtain ⟨c, rest, same, digit⟩ := pointed_head all some ((digits coefficient).length - 1)
    exact ⟨c, _, by rw [scaled, same]; rfl, digit⟩

theorem readPayload?_payloadChars (negative signalling : Bool) (payload : Nat) :
    readPayload? negative signalling (payloadChars payload) = some (nan negative signalling payload) := by
  unfold payloadChars
  split
  next zero => subst zero; rfl
  next =>
    have all : (digits payload).all Char.isDigit = true :=
      List.all_eq_true.2 fun _ => isDigit_of_mem_digits
    rw [readPayload?, if_pos all, ofDigits_digits]

theorem readPlain?_chars {d : Decimal} (representable : d.Representable) :
    readPlain? d.chars = some d := by
  cases d with
  | finite negative coefficient exponent =>
    -- the first digit settles that this is no word
    obtain ⟨c, rest, same, digit⟩ := body_head coefficient exponent
    have read := readScaled?_body coefficient exponent
    simp only [chars]
    rw [same] at read ⊢
    rw [readPlain?_digit negative digit, readFinite?, read, Option.bind_some]
    exact if_pos representable
  | infinite negative => cases negative <;> decide
  | nan negative signalling payload =>
    have read := readPayload?_payloadChars negative signalling payload
    cases negative <;> cases signalling <;> exact read

/-- A representable number is read back as it was written. -/
theorem ofText?_toText {d : Decimal} (representable : d.Representable) :
    ofText? d.toText = some d := by
  rw [ofText?, toText, String.toList_ofList, readChars?_plain (chars_plain d)]
  exact readPlain?_chars representable

end Arrears.Decimal
