import Arrears.Json.Reader
import Arrears.Proofs.Decimal.RoundTrip
import Arrears.Proofs.Json.Text

/-! JSON text, written and read back. Without decimal and finite binary numbers a value has tokens of
its own, and the reader builds from them the value that was written: its texts as they are read
back, and its objects with each key once. -/

set_option autoImplicit false

namespace Arrears

def Number.isFloat : Number → Bool
  | .binary (.finite ..) => true
  | _ => false

namespace Json

open Text

abbrev hasFloat (value : Json) : Bool := value.hasNumber Number.isFloat

mutual

def reread : Json → Json
  | str s => str (Text.reread s)
  | arr items => arr (rereadItems items)
  | obj members => obj (Assoc.ofPairs (rereadMembers members))
  | value => value

def rereadItems : List Json → List Json
  | [] => []
  | item :: items => reread item :: rereadItems items

def rereadMembers : List (String × Json) → List (String × Json)
  | [] => []
  | (key, value) :: members => (Text.reread key, reread value) :: rereadMembers members

end

def numberToken : Number → Token
  | .int n => .int n
  | .binary x => .binary x
  | .decimal _ => .bad

mutual

def tokensOf : Json → List Token
  | null => [.null]
  | bool b => [.bool b]
  | num n => [numberToken n]
  | str s => [.str (Text.reread s)]
  | arr [] => [.openArray, .closeArray]
  | arr (item :: items) => .openArray :: tokensOf item ++ itemsTokens items
  | obj [] => [.openObject, .closeObject]
  | obj ((key, value) :: members) =>
    .openObject :: .str (Text.reread key) :: .colon :: tokensOf value ++ membersTokens members

def itemsTokens : List Json → List Token
  | [] => [.closeArray]
  | item :: items => .comma :: tokensOf item ++ itemsTokens items

def membersTokens : List (String × Json) → List Token
  | [] => [.closeObject]
  | (key, value) :: members =>
    .comma :: .str (Text.reread key) :: .colon :: tokensOf value ++ membersTokens members

end

/-! ## Atoms -/

def endsAtom (c : Char) : Bool := (punctuation? c).isSome || isSpace c || c == '"'

def Delimited (rest : List Char) : Prop := ∀ c, rest.head? = some c → endsAtom c = true

theorem tokensFrom_atom {cs rest : List Char} (inside : ∀ c ∈ cs, endsAtom c = false)
    (delimited : Delimited rest) (read : List Char) :
    tokensFrom (.atom read) (cs ++ rest) =
      atomTokens (read.reverse ++ cs) ++ tokensFrom .between rest := by
  induction cs generalizing read with
  | nil =>
    cases rest with
    | nil => simp [tokensFrom, finish]
    | cons c rest =>
      have ending : ((punctuation? c).isSome || isSpace c || c == '"') = true := delimited c rfl
      simp [tokensFrom, step, ending]
  | cons c cs ih =>
    have within : ((punctuation? c).isSome || isSpace c || c == '"') = false :=
      inside c List.mem_cons_self
    have later := ih (fun d member => inside d (List.mem_cons_of_mem c member)) (c :: read)
    simp only [List.cons_append, tokensFrom, step, within, Bool.false_eq_true, if_false,
      List.nil_append, later, List.reverse_cons, List.append_assoc]

theorem tokensFrom_atomChars {cs rest : List Char} (nonempty : cs ≠ [])
    (inside : ∀ c ∈ cs, endsAtom c = false) (delimited : Delimited rest) :
    tokensFrom .between (cs ++ rest) = atomTokens cs ++ tokensFrom .between rest := by
  obtain ⟨c, cs, rfl⟩ := List.exists_cons_of_ne_nil nonempty
  have within := inside c List.mem_cons_self
  have opened : start c = ([], .atom [c]) := by
    simp only [endsAtom, Bool.or_eq_false_iff, Option.isSome_eq_false_iff, Option.isNone_iff_eq_none,
      beq_eq_false_iff_ne] at within
    simp [start, within.1.1, within.1.2, within.2]
  have later := tokensFrom_atom (fun d member => inside d (List.mem_cons_of_mem c member))
    delimited [c]
  simp only [List.cons_append, tokensFrom, step, opened, List.nil_append, later,
    List.reverse_singleton]

theorem tokensFrom_word {cs rest : List Char} (nonempty : cs ≠ [])
    (inside : cs.all (fun c => !endsAtom c) = true) (delimited : Delimited rest) :
    tokensFrom .between (cs ++ rest) = atomTokens cs ++ tokensFrom .between rest := by
  apply tokensFrom_atomChars nonempty ?_ delimited
  intro c member
  have within := List.all_eq_true.1 inside c member
  rw [Bool.not_eq_eq_eq_not, Bool.not_true] at within
  exact within

theorem digits_head {n : Nat} (positive : 0 < n) : ∃ c rest, digits n = c :: rest ∧ c ≠ '0' := by
  induction n using Nat.strongRecOn with
  | ind n ih =>
    -- the first digit is that of a tenth, down to a single one
    by_cases small : n < 10
    · have nonzero : n.digitChar ≠ '0' := fun same =>
        Nat.ne_of_gt positive (Nat.digitChar_eq_zero.1 same)
      exact ⟨n.digitChar, [], Nat.toDigits_of_lt_base small, nonzero⟩
    · obtain ⟨c, rest, same, other⟩ := ih (n / 10) (by omega) (by omega)
      refine ⟨c, rest ++ [Nat.digitChar (n % 10)], ?_, other⟩
      rw [digits] at same
      rw [digits, Nat.toDigits_of_base_le (by decide) (by omega), same]
      rfl

theorem takeWhile_all (n : Nat) : (digits n).takeWhile Char.isDigit = digits n := by
  have all : ∀ c ∈ digits n, c.isDigit = true := fun _ => isDigit_of_mem_digits
  have stops : Decimal.Stops [] := nofun
  simpa only [List.append_nil] using Decimal.takeWhile_digits all stops

theorem dropWhile_all (n : Nat) : (digits n).dropWhile Char.isDigit = [] := by
  have all : ∀ c ∈ digits n, c.isDigit = true := fun _ => isDigit_of_mem_digits
  have stops : Decimal.Stops [] := nofun
  simpa only [List.append_nil] using Decimal.dropWhile_digits all stops

theorem unsigned_digits (n : Nat) : ∀ c, (digits n).head? = some c → c ≠ '-' ∧ c ≠ '+' := by
  intro c first
  have digit : c.isDigit = true := isDigit_of_mem_digits (List.mem_of_head? first)
  constructor <;>
    · rintro rfl
      exact absurd digit (by decide)

theorem splitWhole?_digits (negative : Bool) (n : Nat) :
    splitWhole? (Decimal.signChars negative ++ digits n) =
      some (Decimal.signChars negative ++ digits n, []) := by
  have taken := takeWhile_all n
  have dropped := dropWhile_all n
  have unsigned := unsigned_digits n
  rcases Nat.eq_zero_or_pos n with rfl | positive
  · cases negative <;> rfl
  · obtain ⟨c, rest, same, other⟩ := digits_head positive
    rw [same] at taken dropped unsigned ⊢
    have minus := (unsigned c rfl).1
    cases negative <;> simp [Decimal.signChars, splitWhole?, minus, other, taken, dropped]

theorem readInt_intChars (n : Int) : readInt (Number.intChars n) = n := by
  rw [readInt, Number.intChars, Decimal.splitSign_signChars _ (unsigned_digits n.natAbs)]
  simp only [ofDigits_digits, Decimal.signed, decide_eq_true_eq]
  omega

theorem numberTokens_intChars (n : Int) : numberTokens (Number.intChars n) = [.int n] := by
  rw [numberTokens, Number.intChars, splitWhole?_digits]
  simp only [splitFraction, splitPower, List.isEmpty_nil, Bool.and_self, if_true]
  rw [← Number.intChars, readInt_intChars]

theorem mem_intChars {n : Int} {c : Char} (member : c ∈ Number.intChars n) :
    c = '-' ∨ c.isDigit = true := by
  rcases List.mem_append.1 member with sign | digit
  · unfold Decimal.signChars at sign
    split at sign
    · exact .inl (List.mem_singleton.1 sign)
    · exact absurd sign List.not_mem_nil
  · exact .inr (isDigit_of_mem_digits digit)

theorem atomTokens_intChars (n : Int) : atomTokens (Number.intChars n) = [.int n] := by
  -- each of the six words has a character that no whole number has
  have other (word : List Char) (letter : word.any (fun c => c != '-' && !c.isDigit) = true) :
      Number.intChars n ≠ word := by
    rintro rfl
    obtain ⟨c, member, outside⟩ := List.any_eq_true.1 letter
    simp only [Bool.and_eq_true, bne_iff_ne, Bool.not_eq_true'] at outside
    rcases mem_intChars member with sign | digit
    · exact outside.1 sign
    · exact absurd digit (Bool.eq_false_iff.1 outside.2)
  rw [atomTokens, if_neg (other _ (by decide)), if_neg (other _ (by decide)),
    if_neg (other _ (by decide)), if_neg (other _ (by decide)), if_neg (other _ (by decide)),
    if_neg (other _ (by decide)), numberTokens_intChars]

theorem endsAtom_digitChar : ∀ n : Fin 10, endsAtom (Nat.digitChar n) = false := by decide

theorem endsAtom_digit {c : Char} (digit : c.isDigit = true) : endsAtom c = false := by
  have bounds := Decimal.digit_bounds digit
  have small : c.toNat - 48 < 10 := by omega
  have same : c = Nat.digitChar (c.toNat - 48) := by
    apply Char.toNat_inj.1
    rw [Nat.toNat_digitChar_of_lt_ten small]
    omega
  rw [same]
  exact endsAtom_digitChar ⟨c.toNat - 48, small⟩

theorem tokensFrom_numberChars {n : Number} (exact : hasDecimal (.num n) = false)
    (whole : hasFloat (.num n) = false) {rest : List Char} (delimited : Delimited rest) :
    tokensFrom .between (numberChars n ++ rest) = numberToken n :: tokensFrom .between rest := by
  cases n with
  | int n =>
    have nonempty : Number.intChars n ≠ [] := List.append_ne_nil_of_right_ne_nil _ Nat.toDigits_ne_nil
    have inside : ∀ c ∈ Number.intChars n, endsAtom c = false := by
      intro c member
      rcases mem_intChars member with rfl | digit
      · decide
      · exact endsAtom_digit digit
    exact (tokensFrom_atomChars nonempty inside delimited).trans (by rw [atomTokens_intChars]; rfl)
  | binary x =>
    cases x with
    | finite negative mantissa exponent => cases whole
    | infinite negative =>
      cases negative <;> exact tokensFrom_word (by decide) (by decide) delimited
    | nan => exact tokensFrom_word (by decide) (by decide) delimited
  | decimal d => cases exact

/-! ## Values -/

theorem tokensFrom_mark {c : Char} {token : Token} (mark : punctuation? c = some token)
    (rest : List Char) : tokensFrom .between (c :: rest) = token :: tokensFrom .between rest := by
  simp [tokensFrom, step, start, mark]

theorem delimited_mark {c : Char} {token : Token} (mark : punctuation? c = some token)
    (rest : List Char) : Delimited (c :: rest) := by
  rintro d same
  cases same
  simp [endsAtom, mark]

theorem delimited_itemsChars (items : List Json) (rest : List Char) :
    Delimited (itemsChars items ++ rest) := by
  cases items with
  | nil => exact delimited_mark (c := ']') rfl _
  | cons item items => exact delimited_mark (c := ',') rfl _

theorem delimited_membersChars (members : List (String × Json)) (rest : List Char) :
    Delimited (membersChars members ++ rest) := by
  cases members with
  | nil => exact delimited_mark (c := '\x7d') rfl _
  | cons member members => exact delimited_mark (c := ',') rfl _

mutual

theorem tokensFrom_chars : ∀ value : Json, hasDecimal value = false → hasFloat value = false →
    ∀ rest, Delimited rest →
      tokensFrom .between (chars value ++ rest) = tokensOf value ++ tokensFrom .between rest
  | null, _, _, _, delimited => tokensFrom_word (by decide) (by decide) delimited
  | bool true, _, _, _, delimited => tokensFrom_word (by decide) (by decide) delimited
  | bool false, _, _, _, delimited => tokensFrom_word (by decide) (by decide) delimited
  | num n, exact, whole, _, delimited => tokensFrom_numberChars exact whole delimited
  | str s, _, _, rest, _ => tokensFrom_stringChars s rest
  | arr [], _, _, rest, _ => by
    rw [chars, tokensOf]
    exact (tokensFrom_mark (c := '[') rfl _).trans (congrArg _ (tokensFrom_mark (c := ']') rfl rest))
  | arr (item :: items), exact, whole, rest, _ => by
    simp only [hasNumber, itemsHave, Bool.or_eq_false_iff] at exact
    simp only [hasNumber, itemsHave, Bool.or_eq_false_iff] at whole
    have first := tokensFrom_chars item exact.1 whole.1 _ (delimited_itemsChars items rest)
    have others := tokensFrom_itemsChars items exact.2 whole.2 rest
    simp only [chars, tokensOf, List.cons_append, List.append_assoc]
    rw [tokensFrom_mark (c := '[') rfl, first, others]
  | obj [], _, _, rest, _ => by
    rw [chars, tokensOf]
    exact (tokensFrom_mark (c := '\x7b') rfl _).trans
      (congrArg _ (tokensFrom_mark (c := '\x7d') rfl rest))
  | obj ((key, value) :: members), exact, whole, rest, _ => by
    simp only [hasNumber, membersHave, Bool.or_eq_false_iff] at exact
    simp only [hasNumber, membersHave, Bool.or_eq_false_iff] at whole
    have first := tokensFrom_chars value exact.1 whole.1 _ (delimited_membersChars members rest)
    have others := tokensFrom_membersChars members exact.2 whole.2 rest
    simp only [chars, tokensOf, List.cons_append, List.append_assoc]
    rw [tokensFrom_mark (c := '\x7b') rfl, tokensFrom_stringChars, tokensFrom_mark (c := ':') rfl,
      first, others]

theorem tokensFrom_itemsChars : ∀ items : List Json, itemsHave Number.isDecimal items = false →
    itemsHave Number.isFloat items = false → ∀ rest,
      tokensFrom .between (itemsChars items ++ rest) =
        itemsTokens items ++ tokensFrom .between rest
  | [], _, _, rest => tokensFrom_mark rfl rest
  | item :: items, exact, whole, rest => by
    simp only [itemsHave, Bool.or_eq_false_iff] at exact
    simp only [itemsHave, Bool.or_eq_false_iff] at whole
    have first := tokensFrom_chars item exact.1 whole.1 _ (delimited_itemsChars items rest)
    have others := tokensFrom_itemsChars items exact.2 whole.2 rest
    simp only [itemsChars, itemsTokens, List.cons_append, List.append_assoc]
    rw [tokensFrom_mark (c := ',') rfl, first, others]

theorem tokensFrom_membersChars : ∀ members : List (String × Json),
    membersHave Number.isDecimal members = false → membersHave Number.isFloat members = false → ∀ rest,
      tokensFrom .between (membersChars members ++ rest) =
        membersTokens members ++ tokensFrom .between rest
  | [], _, _, rest => tokensFrom_mark rfl rest
  | (key, value) :: members, exact, whole, rest => by
    simp only [membersHave, Bool.or_eq_false_iff] at exact
    simp only [membersHave, Bool.or_eq_false_iff] at whole
    have first := tokensFrom_chars value exact.1 whole.1 _ (delimited_membersChars members rest)
    have others := tokensFrom_membersChars members exact.2 whole.2 rest
    simp only [membersChars, membersTokens, List.cons_append, List.append_assoc]
    rw [tokensFrom_mark (c := ',') rfl, tokensFrom_stringChars, tokensFrom_mark (c := ':') rfl,
      first, others]

end

/-! ## Reading the tokens -/

variable (fractions : Fractions)

theorem acceptAll_cons (state : State) (token : Token) (rest : List Token) :
    acceptAll fractions state (token :: rest) =
      (accept fractions state token).bind fun state => acceptAll fractions state rest := rfl

theorem tokensOf_head (value : Json) :
    ∃ token rest, tokensOf value = token :: rest ∧ token ≠ .closeArray := by
  match value with
  | null => exact ⟨_, _, rfl, nofun⟩
  | bool b => exact ⟨_, _, rfl, nofun⟩
  | num n => exact ⟨numberToken n, [], rfl, by cases n <;> nofun⟩
  | str s => exact ⟨_, _, rfl, nofun⟩
  | arr [] => exact ⟨_, _, rfl, nofun⟩
  | arr (_ :: _) => exact ⟨_, _, rfl, nofun⟩
  | obj [] => exact ⟨_, _, rfl, nofun⟩
  | obj ((_, _) :: _) => exact ⟨_, _, rfl, nofun⟩

/-- Where an array may end, a value may start as well. -/
theorem acceptAll_valueOrEnd (stack : List Frame) (value : Json) (rest : List Token) :
    acceptAll fractions ⟨stack, .valueOrEnd⟩ (tokensOf value ++ rest) =
      acceptAll fractions ⟨stack, .value⟩ (tokensOf value ++ rest) := by
  obtain ⟨token, more, same, open_⟩ := tokensOf_head value
  have accepted : accept fractions ⟨stack, .valueOrEnd⟩ token = accept fractions ⟨stack, .value⟩ token := by
    cases token with
    | closeArray => exact absurd rfl open_
    | _ => rfl
  rw [same, List.cons_append, acceptAll_cons, acceptAll_cons, accepted]

mutual

/-- The tokens of a value build the value that is read back. -/
theorem acceptAll_tokensOf : ∀ value : Json, hasDecimal value = false → ∀ stack rest,
    acceptAll fractions ⟨stack, .value⟩ (tokensOf value ++ rest) =
      acceptAll fractions (deliver (reread value) stack) rest
  | null, _, _, _ => rfl
  | bool _, _, _, _ => rfl
  | num (.int _), _, _, _ => rfl
  | num (.binary _), _, _, _ => rfl
  | num (.decimal _), exact, _, _ => nomatch exact
  | str _, _, _, _ => rfl
  | arr [], _, _, _ => rfl
  | arr (item :: items), exact, stack, rest => by
    simp only [hasNumber, itemsHave, Bool.or_eq_false_iff] at exact
    have first := acceptAll_tokensOf item exact.1 (.array [] :: stack) (itemsTokens items ++ rest)
    have others := acceptAll_itemsTokens items exact.2 [reread item] stack rest
    simp only [tokensOf, List.cons_append, List.append_assoc]
    exact (acceptAll_valueOrEnd ..).trans (first.trans others)
  | obj [], _, _, _ => rfl
  | obj ((key, value) :: members), exact, stack, rest => by
    simp only [hasNumber, membersHave, Bool.or_eq_false_iff] at exact
    have first := acceptAll_tokensOf value exact.1 (.object [] (Text.reread key) :: stack)
      (membersTokens members ++ rest)
    have others := acceptAll_membersTokens members exact.2
      (Assoc.put (Text.reread key) (reread value) []) (Text.reread key) stack rest
    simp only [tokensOf, List.cons_append, List.append_assoc]
    exact first.trans others

theorem acceptAll_itemsTokens : ∀ items : List Json, itemsHave Number.isDecimal items = false →
    ∀ done stack rest,
      acceptAll fractions ⟨.array done :: stack, .next⟩ (itemsTokens items ++ rest) =
        acceptAll fractions (deliver (.arr (done.reverse ++ rereadItems items)) stack) rest
  | [], _, done, stack, rest => by
    rw [rereadItems, List.append_nil]
    rfl
  | item :: items, exact, done, stack, rest => by
    simp only [itemsHave, Bool.or_eq_false_iff] at exact
    have first := acceptAll_tokensOf item exact.1 (.array done :: stack) (itemsTokens items ++ rest)
    have others := acceptAll_itemsTokens items exact.2 (reread item :: done) stack rest
    simp only [itemsTokens, List.cons_append, List.append_assoc, rereadItems]
    simp only [List.reverse_cons, List.append_assoc] at others
    exact first.trans others

theorem acceptAll_membersTokens : ∀ members : List (String × Json),
    membersHave Number.isDecimal members = false → ∀ done last stack rest,
      acceptAll fractions ⟨.object done last :: stack, .next⟩ (membersTokens members ++ rest) =
        acceptAll fractions (deliver (.obj ((rereadMembers members).foldl
          (fun map member => Assoc.put member.1 member.2 map) done)) stack) rest
  | [], _, _, _, _, _ => rfl
  | (key, value) :: members, exact, done, last, stack, rest => by
    simp only [membersHave, Bool.or_eq_false_iff] at exact
    have first := acceptAll_tokensOf value exact.1 (.object done (Text.reread key) :: stack)
      (membersTokens members ++ rest)
    have others := acceptAll_membersTokens members exact.2
      (Assoc.put (Text.reread key) (reread value) done) (Text.reread key) stack rest
    simp only [membersTokens, List.cons_append, List.append_assoc]
    exact first.trans others

end

theorem tokens_toText {value : Json} (exact : hasDecimal value = false) (whole : hasFloat value = false) :
    tokens value.toText.toList = tokensOf value := by
  have tokens_eq := tokensFrom_chars value exact whole [] nofun
  simp only [List.append_nil, tokensFrom, finish] at tokens_eq
  rw [toText, String.toList_ofList, tokens, tokens_eq]

/-- A value without decimal and finite binary numbers is read back as it was written. -/
theorem read_toText {value : Json} (exact : hasDecimal value = false) (whole : hasFloat value = false) :
    read fractions value.toText = .ok (reread value) := by
  have accepted := acceptAll_tokensOf fractions value exact [] []
  simp only [List.append_nil] at accepted
  rw [read, tokens_toText exact whole, accepted]
  rfl

end Json

end Arrears
