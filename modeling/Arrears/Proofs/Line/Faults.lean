import Arrears.Line.Blob
import Arrears.Proofs.Outcome

/-! What reading a blob fails with. A blob that breaks the form is refused with a wording. Apart from
that there are three causes, which have none: a number beyond all decimal numbers, a count without
end, and an amount in parts of which one needs more than 64 bits. -/

set_option autoImplicit false

namespace Arrears

namespace Json

/-! ## Numbers beyond range -/

def Token.BeyondRange : Token → Prop
  | .fraction _ coefficient exponent => ¬Decimal.InRange coefficient exponent
  | _ => False

def Expectation.AwaitsValue : Expectation → Prop
  | .value | .valueOrEnd => True
  | _ => False

/-- A number beyond range stands where a value may come, and what is in front of it has been read. -/
def Overruns (text : String) : Prop :=
  ∃ front token back state, tokens text.toList = front ++ token :: back ∧
    acceptAll .decimal ⟨[], .value⟩ front = .ok state ∧
    state.expectation.AwaitsValue ∧ token.BeyondRange

theorem acceptValue_unreadable_iff {stack : List Frame} {token : Token} :
    acceptValue .decimal stack token = .error .unreadableNumber ↔ token.BeyondRange := by
  cases token with
  | fraction negative coefficient exponent =>
    rw [acceptValue, map_eq_error, fraction, Token.BeyondRange]
    split
    next inRange => exact iff_of_false nofun (not_not.2 inRange)
    next beyond => exact iff_of_true rfl beyond
  | _ => exact iff_of_false nofun id

theorem acceptNext_readable (stack : List Frame) (token : Token) :
    acceptNext stack token ≠ .error .unreadableNumber := by
  unfold acceptNext
  split <;> exact nofun

theorem accept_unreadable_iff {state : State} {token : Token} :
    accept .decimal state token = .error .unreadableNumber ↔
      state.expectation.AwaitsValue ∧ token.BeyondRange := by
  obtain ⟨stack, expectation⟩ := state
  have expected (token : Token) : acceptValue .decimal stack token = .error .unreadableNumber ↔
      True ∧ token.BeyondRange := acceptValue_unreadable_iff.trans (and_iff_right trivial).symm
  cases expectation with
  | value => exact expected token
  | valueOrEnd =>
    by_cases closes : token = .closeArray
    · subst closes
      exact iff_of_false (acceptNext_readable stack .closeArray) And.right
    · have same : accept .decimal ⟨stack, .valueOrEnd⟩ token = acceptValue .decimal stack token := by
        cases token with
        | closeArray => exact absurd rfl closes
        | _ => rfl
      rw [same]
      exact expected token
  | next => exact iff_of_false (acceptNext_readable stack token) And.left
  | complete value => exact iff_of_false nofun And.left
  | _ => cases token <;> exact iff_of_false nofun And.left

theorem acceptAll_eq_error_iff {fractions : Fractions} {state : State} {tokens : List Token}
    {fault : ReadFault} :
    acceptAll fractions state tokens = .error fault ↔ ∃ front token back reached,
      tokens = front ++ token :: back ∧ acceptAll fractions state front = .ok reached ∧
      accept fractions reached token = .error fault := by
  induction tokens generalizing state with
  | nil => simp [acceptAll]
  | cons token tokens ih =>
    constructor
    · intro failed
      rcases bind_eq_error.1 failed with failed | ⟨next, stepped, failed⟩
      · exact ⟨[], token, tokens, state, rfl, rfl, failed⟩
      · obtain ⟨front, later, back, reached, rfl, before, failed⟩ := ih.1 failed
        exact ⟨token :: front, later, back, reached, rfl, bind_eq_ok.2 ⟨next, stepped, before⟩, failed⟩
    · rintro ⟨front, later, back, reached, same, before, failed⟩
      cases front with
      | nil => cases same; cases before; exact bind_eq_error.2 (.inl failed)
      | cons first front =>
        obtain ⟨rfl, rfl⟩ := List.cons.inj same
        obtain ⟨next, stepped, before⟩ := bind_eq_ok.1 before
        exact bind_eq_error.2 (.inr ⟨next, stepped, ih.2 ⟨front, later, back, reached, rfl, before, failed⟩⟩)

theorem read_unreadable_iff {text : String} :
    read .decimal text = .error .unreadableNumber ↔ Overruns text := by
  have complete (state : State) : result state ≠ .error .unreadableNumber := by
    unfold result
    split <;> exact nofun
  constructor
  · intro failed
    rcases bind_eq_error.1 failed with failed | ⟨state, _, never⟩
    · obtain ⟨front, token, back, state, split, before, failed⟩ := acceptAll_eq_error_iff.1 failed
      exact ⟨front, token, back, state, split, before, accept_unreadable_iff.1 failed⟩
    · exact absurd never (complete state)
  · rintro ⟨front, token, back, state, split, before, failed⟩
    exact bind_eq_error.2 (.inl (acceptAll_eq_error_iff.2
      ⟨front, token, back, state, split, before, accept_unreadable_iff.2 failed⟩))

/-! ## Counts without end and parts of more than 64 bits -/

def Endless : Json → Prop
  | num n => ∃ negative, n.exact = .infinite negative
  | _ => False

def Huge : Json → Prop
  | num (.int n) => ¬(-0x8000000000000000 ≤ n ∧ n < 0x8000000000000000)
  | _ => False

/-- An amount in three parts of which one needs more than 64 bits. The sign is looked at first, then
the exponent, then the digits one by one, and all that comes before is as it has to be. -/
inductive HugeAmount : Json → Prop
  | sign {sign digits scale : Json} (huge : sign.Huge) : HugeAmount (arr [sign, digits, scale])
  | scale {sign digits scale : Json} {negative : Bool} (signed : signPart sign = .ok negative)
      (huge : scale.Huge) : HugeAmount (arr [sign, digits, scale])
  | digit {sign digit scale : Json} {front back : List Json} {negative : Bool} {power : Scale}
      (signed : signPart sign = .ok negative) (scaled : scalePart scale = .ok power)
      (before : ∀ earlier ∈ front, ∃ n, digitPart earlier = .ok n) (huge : digit.Huge) :
      HugeAmount (arr [sign, arr (front ++ digit :: back), scale])

theorem count_infinite_iff {limit : Option Nat} {value : Json} :
    value.count limit = .error .infinite ↔ value.Endless := by
  have whole (d : Decimal) : wholePart d = .error .infinite ↔ ∃ negative, d = .infinite negative := by
    cases d <;> simp [wholePart]
  cases value with
  | num n =>
    cases n with
    | int n => exact iff_of_false nofun nofun
    | binary x => exact whole x.exact
    | decimal d => exact whole d
  | str s =>
    unfold count
    dsimp only
    split
    next => split <;> exact iff_of_false nofun id
    next => exact iff_of_false nofun id
  | _ => exact iff_of_false nofun id

theorem part_huge_iff {value : Json} : part value = .error .hugePart ↔ value.Huge := by
  cases value with
  | num n =>
    cases n with
    | int n =>
      rw [part, Huge]
      split
      next fits => exact iff_of_false nofun (not_not.2 fits)
      next beyond => exact iff_of_true rfl beyond
    | _ => exact iff_of_false nofun id
  | _ => exact iff_of_false nofun id

theorem signPart_huge_iff {value : Json} : signPart value = .error .hugePart ↔ value.Huge := by
  rw [signPart, bind_eq_error, part_huge_iff]
  refine or_iff_left ?_
  rintro ⟨n, _, failed⟩
  split at failed
  next => cases failed
  next => split at failed <;> cases failed

theorem digitPart_huge_iff {value : Json} : digitPart value = .error .hugePart ↔ value.Huge := by
  rw [digitPart, bind_eq_error, part_huge_iff]
  refine or_iff_left ?_
  rintro ⟨n, _, failed⟩
  split at failed <;> cases failed

theorem scalePart_huge_iff {value : Json} : scalePart value = .error .hugePart ↔ value.Huge := by
  unfold scalePart
  split
  case h_5 => rw [map_eq_error, part_huge_iff]
  all_goals exact iff_of_false nofun id

theorem digitsPart_huge_iff {value : Json} :
    digitsPart value = .error .hugePart ↔ ∃ front digit back, value = arr (front ++ digit :: back) ∧
      (∀ earlier ∈ front, ∃ n, digitPart earlier = .ok n) ∧ digit.Huge := by
  cases value with
  | arr items => simp only [digitsPart, mapM_eq_error_iff, digitPart_huge_iff, arr.injEq]
  | _ => exact iff_of_false nofun nofun

theorem amountOfParts_huge_iff {sign digits scale : Json} :
    amountOfParts sign digits scale = .error .hugePart ↔ (arr [sign, digits, scale]).HugeAmount := by
  rw [amountOfParts, bind_eq_error, signPart_huge_iff]
  constructor
  · rintro (huge | ⟨negative, signed, failed⟩)
    · exact .sign huge
    · rcases bind_eq_error.1 failed with failed | ⟨power, scaled, failed⟩
      · exact .scale signed (scalePart_huge_iff.1 failed)
      · rcases bind_eq_error.1 failed with failed | ⟨read, _, failed⟩
        · obtain ⟨front, digit, back, rfl, before, huge⟩ := digitsPart_huge_iff.1 failed
          exact .digit signed scaled before huge
        · dsimp only at failed
          split at failed
          next => cases failed
          next => cases failed
          next => split at failed <;> cases failed
  · intro huge
    cases huge with
    | sign huge => exact .inl huge
    | scale signed huge =>
      exact .inr ⟨_, signed, bind_eq_error.2 (.inl (scalePart_huge_iff.2 huge))⟩
    | digit signed scaled before huge =>
      refine .inr ⟨_, signed, bind_eq_error.2 (.inr ⟨_, scaled, bind_eq_error.2 (.inl ?_)⟩)⟩
      exact digitsPart_huge_iff.2 ⟨_, _, _, rfl, before, huge⟩

theorem amount_huge_iff {value : Json} : value.amount = .error .hugePart ↔ value.HugeAmount := by
  unfold amount
  split
  next => split <;> exact iff_of_false nofun nofun
  next => exact iff_of_false nofun nofun
  next => split <;> exact iff_of_false nofun nofun
  next => exact amountOfParts_huge_iff
  next other =>
    refine iff_of_false nofun fun huge => ?_
    cases huge <;> exact other _ _ _ rfl
  next => exact iff_of_false nofun nofun
  next => exact iff_of_false nofun nofun

end Json

namespace Line

variable {fault : BlobFault}

/-! ## Fields -/

theorem readAmount?_unworded_iff {value : Json} (unworded : fault.message = none) :
    readAmount? value = .error fault ↔ fault = .hugePart ∧ value.HugeAmount := by
  unfold readAmount?
  split
  next => exact iff_of_false nofun nofun
  next =>
    rw [map_eq_error, mapError_eq_error]
    constructor
    · rintro ⟨cause, failed, rfl⟩
      cases cause with
      | hugePart => exact ⟨rfl, Json.amount_huge_iff.1 failed⟩
      | _ => cases unworded
    · rintro ⟨rfl, huge⟩
      exact ⟨.hugePart, Json.amount_huge_iff.2 huge, rfl⟩

theorem readCount_unworded_iff {value : Json} (unworded : fault.message = none) :
    readCount none value = .error fault ↔ fault = .endlessCount ∧ value.Endless := by
  rw [readCount, mapError_eq_error]
  constructor
  · rintro ⟨cause, failed, rfl⟩
    cases cause with
    | infinite => exact ⟨rfl, Json.count_infinite_iff.1 failed⟩
    | notACount => cases unworded
  · rintro ⟨rfl, endless⟩
    exact ⟨.infinite, Json.count_infinite_iff.2 endless, rfl⟩

theorem readQuantity_unworded_iff {value : Json} (unworded : fault.message = none) :
    readQuantity none value = .error fault ↔ fault = .endlessCount ∧ value.Endless := by
  unfold readQuantity
  split
  next => exact iff_of_false nofun And.right
  next => rw [map_eq_error, readCount_unworded_iff unworded]

/-! ## Records -/

/-- The field that a record fails at without a wording. Fields are read in this order, and those
before it are as they have to be. -/
inductive Derails (members : List (String × Json)) : BlobFault → Prop
  | amount (huge : ((Json.obj members).getD "amount").HugeAmount) : Derails members .hugePart
  | tier {amount : Option Decimal}
      (amount_read : readAmount? ((Json.obj members).getD "amount") = .ok amount)
      (endless : (((Json.obj members).get? "tier").getD (.int 0)).Endless) :
      Derails members .endlessCount
  | price {amount : Option Decimal} {tier : Int}
      (amount_read : readAmount? ((Json.obj members).getD "amount") = .ok amount)
      (tier_read : readCount none (((Json.obj members).get? "tier").getD (.int 0)) = .ok tier)
      (huge : ((Json.obj members).getD "tierPrice").HugeAmount) : Derails members .hugePart
  | quantity {amount price : Option Decimal} {tier : Int}
      (amount_read : readAmount? ((Json.obj members).getD "amount") = .ok amount)
      (tier_read : readCount none (((Json.obj members).get? "tier").getD (.int 0)) = .ok tier)
      (price_read : readAmount? ((Json.obj members).getD "tierPrice") = .ok price)
      (endless : ((Json.obj members).getD "quantity").Endless) : Derails members .endlessCount
  | absorbed {amount price : Option Decimal} {tier : Int} {quantity : Json}
      (amount_read : readAmount? ((Json.obj members).getD "amount") = .ok amount)
      (tier_read : readCount none (((Json.obj members).get? "tier").getD (.int 0)) = .ok tier)
      (price_read : readAmount? ((Json.obj members).getD "tierPrice") = .ok price)
      (quantity_read : readQuantity none ((Json.obj members).getD "quantity") = .ok quantity)
      (huge : ((Json.obj members).getD "existingUsageAmount").HugeAmount) : Derails members .hugePart

theorem ofJson_unworded_iff {record : Json} (unworded : fault.message = none) :
    ofJson none record = .error fault ↔ ∃ members, record = .obj members ∧ Derails members fault := by
  constructor
  · intro failed
    unfold ofJson at failed
    split at failed
    next members =>
      refine ⟨members, rfl, ?_⟩
      rcases bind_eq_error.1 failed with failed | ⟨amount, amount_read, failed⟩
      · obtain ⟨rfl, huge⟩ := (readAmount?_unworded_iff unworded).1 failed
        exact .amount huge
      rcases bind_eq_error.1 failed with failed | ⟨tier, tier_read, failed⟩
      · obtain ⟨rfl, endless⟩ := (readCount_unworded_iff unworded).1 failed
        exact .tier amount_read endless
      rcases bind_eq_error.1 failed with failed | ⟨price, price_read, failed⟩
      · obtain ⟨rfl, huge⟩ := (readAmount?_unworded_iff unworded).1 failed
        exact .price amount_read tier_read huge
      rcases bind_eq_error.1 failed with failed | ⟨quantity, quantity_read, failed⟩
      · obtain ⟨rfl, endless⟩ := (readQuantity_unworded_iff unworded).1 failed
        exact .quantity amount_read tier_read price_read endless
      rcases bind_eq_error.1 failed with failed | ⟨absorbed, _, never⟩
      · obtain ⟨rfl, huge⟩ := (readAmount?_unworded_iff unworded).1 failed
        exact .absorbed amount_read tier_read price_read quantity_read huge
      · cases never
    next => cases failed; cases unworded
  · rintro ⟨members, rfl, derails⟩
    cases derails with
    | amount huge => exact bind_eq_error.2 (.inl ((readAmount?_unworded_iff rfl).2 ⟨rfl, huge⟩))
    | tier amount_read endless =>
      refine bind_eq_error.2 (.inr ⟨_, amount_read, bind_eq_error.2 (.inl ?_)⟩)
      exact (readCount_unworded_iff rfl).2 ⟨rfl, endless⟩
    | price amount_read tier_read huge =>
      refine bind_eq_error.2 (.inr ⟨_, amount_read, bind_eq_error.2 (.inr ⟨_, tier_read, ?_⟩)⟩)
      exact bind_eq_error.2 (.inl ((readAmount?_unworded_iff rfl).2 ⟨rfl, huge⟩))
    | quantity amount_read tier_read price_read endless =>
      refine bind_eq_error.2 (.inr ⟨_, amount_read, bind_eq_error.2 (.inr ⟨_, tier_read, ?_⟩)⟩)
      refine bind_eq_error.2 (.inr ⟨_, price_read, bind_eq_error.2 (.inl ?_)⟩)
      exact (readQuantity_unworded_iff rfl).2 ⟨rfl, endless⟩
    | absorbed amount_read tier_read price_read quantity_read huge =>
      refine bind_eq_error.2 (.inr ⟨_, amount_read, bind_eq_error.2 (.inr ⟨_, tier_read, ?_⟩)⟩)
      refine bind_eq_error.2 (.inr ⟨_, price_read, bind_eq_error.2 (.inr ⟨_, quantity_read, ?_⟩)⟩)
      exact bind_eq_error.2 (.inl ((readAmount?_unworded_iff rfl).2 ⟨rfl, huge⟩))

/-! ## Blobs -/

/-- What a text fails with without a wording: it has a number beyond all decimal numbers, or it is an
array in which the first record that cannot be read is one that derails. -/
inductive Escapes (text : String) : BlobFault → Prop
  | number (overruns : Json.Overruns text) : Escapes text .unreadableNumber
  | record {front back : List Json} {members : List (String × Json)} {fault : BlobFault}
      (parsed : Json.read .decimal text = .ok (.arr (front ++ .obj members :: back)))
      (before : ∀ earlier ∈ front, ∃ line, ofJson none earlier = .ok line)
      (derails : Derails members fault) : Escapes text fault

variable {text : String}

theorem Escapes.unworded (escapes : Escapes text fault) : fault.message = none := by
  cases escapes with
  | number => rfl
  | record _ _ derails => cases derails <;> rfl

theorem readBlob_unworded_iff (unworded : fault.message = none) :
    readBlob (.str text) = .error fault ↔ Escapes text fault := by
  rw [readBlob_str]
  constructor
  · intro failed
    rcases bind_eq_error.1 failed with failed | ⟨value, parsed, failed⟩
    · obtain ⟨cause, refused, rfl⟩ := mapError_eq_error.1 failed
      cases cause with
      | malformed => cases unworded
      | unreadableNumber => exact .number (Json.read_unreadable_iff.1 refused)
    · split at failed
      next records =>
        rcases bind_eq_error.1 failed with failed | ⟨_, _, never⟩
        · obtain ⟨front, record, back, rfl, before, failed⟩ := mapM_eq_error_iff.1 failed
          obtain ⟨members, rfl, derails⟩ := (ofJson_unworded_iff unworded).1 failed
          exact .record (mapError_eq_ok.1 parsed) before derails
        · cases never
      next => cases failed; cases unworded
  · intro escapes
    cases escapes with
    | number overruns =>
      exact bind_eq_error.2 (.inl (mapError_eq_error.2 ⟨_, Json.read_unreadable_iff.2 overruns, rfl⟩))
    | record parsed before derails =>
      refine bind_eq_error.2 (.inr ⟨_, mapError_eq_ok.2 parsed, bind_eq_error.2 (.inl ?_)⟩)
      have failed := (ofJson_unworded_iff unworded).2 ⟨_, rfl, derails⟩
      exact mapM_eq_error_iff.2 ⟨_, _, _, rfl, before, failed⟩

/-- Reading a text gives lines or fails with a wording, except for three causes: a number beyond all
decimal numbers, a count without end, and an amount in parts of which one needs more than 64 bits,
where it is the first thing that reading fails at. Numbers may have any count of digits here: there is
no limit on them, and room for the whole part of a decimal number whatever its exponent. -/
theorem reading_worded_iff (text : String) :
    ((∃ lines, readBlob (.str text) = .ok (some lines)) ∨
        (∃ fault message, readBlob (.str text) = .error fault ∧ fault.message = some message) ↔
      ¬∃ fault, Escapes text fault) ∧
    ∀ fault, Escapes text fault → readBlob (.str text) = .error fault ∧ fault.message = none := by
  refine ⟨⟨?_, fun none_escapes => ?_⟩, fun fault escapes =>
    ⟨(readBlob_unworded_iff escapes.unworded).2 escapes, escapes.unworded⟩⟩
  · rintro answered ⟨fault, escapes⟩
    have failed := (readBlob_unworded_iff escapes.unworded).2 escapes
    rcases answered with ⟨lines, read⟩ | ⟨other, message, read, worded⟩
    · cases failed.symm.trans read
    · cases failed.symm.trans read
      cases escapes.unworded.symm.trans worded
  · cases read : readBlob (.str text) with
    | ok lines =>
      rw [readBlob_str] at read
      obtain ⟨value, _, rest⟩ := bind_eq_ok.1 read
      split at rest
      next =>
        obtain ⟨found, _, same⟩ := bind_eq_ok.1 rest
        cases same
        exact .inl ⟨found, rfl⟩
      next => cases rest
    | error fault =>
      refine .inr ⟨fault, ?_⟩
      cases worded : fault.message with
      | some message => exact ⟨message, rfl, rfl⟩
      | none => exact absurd ⟨fault, (readBlob_unworded_iff worded).1 read⟩ none_escapes

def endless : String := "[\x7b\x7d,\x7b\"tier\":2,\"quantity\":-Infinity\x7d]"

theorem endless_unworded :
    Escapes endless .endlessCount ∧ readBlob (.str endless) = .error .endlessCount ∧
      BlobFault.endlessCount.message = none ∧
      ¬((∃ lines, readBlob (.str endless) = .ok (some lines)) ∨
        ∃ fault message, readBlob (.str endless) = .error fault ∧ fault.message = some message) := by
  have parsed : Json.read .decimal endless = .ok (.arr ([.obj []] ++
      .obj [("tier", .int 2), ("quantity", .num (.binary (.infinite true)))] :: [])) := rfl
  have escapes : Escapes endless .endlessCount :=
    .record parsed (List.forall_mem_singleton.2 ⟨_, rfl⟩) (.quantity rfl rfl rfl ⟨true, rfl⟩)
  obtain ⟨worded_iff, failed⟩ := reading_worded_iff endless
  obtain ⟨read, unworded⟩ := failed .endlessCount escapes
  exact ⟨escapes, read, unworded, fun worded => worded_iff.1 worded ⟨_, escapes⟩⟩

/-- A text may be neither read nor refused with a wording. -/
theorem not_always_worded :
    ¬∀ text, (∃ lines, readBlob (.str text) = .ok (some lines)) ∨
      ∃ fault message, readBlob (.str text) = .error fault ∧ fault.message = some message := by
  intro always
  have read : readBlob (.str "[\x7b\"tier\":Infinity\x7d]") = .error .endlessCount := rfl
  rcases always _ with ⟨lines, other⟩ | ⟨fault, message, other, worded⟩
  · cases read.symm.trans other
  · cases read.symm.trans other
    cases worded

end Line

end Arrears
