import Arrears.Line.Blob
import Arrears.Proofs.Decimal.RoundTrip
import Arrears.Proofs.Json.Exactness
import Arrears.Proofs.Json.Limit
import Arrears.Proofs.Outcome

/-! Lines in a blob, written and read back. What is read from a blob is sound: it can be written
again and comes back with the same amounts. Text that stands for other parties comes back as text
is read. -/

set_option autoImplicit false

namespace Arrears

def Json.IsCount : Json → Prop
  | .null => True
  | .int _ => True
  | _ => False

namespace Line

/-- A line that can be written and read back. -/
structure Sound (line : Line) : Prop where
  price : ∀ d, line.price = some d → d.Representable
  amount : line.amount.Representable
  absorbed : ∀ d, line.absorbed = some d → d.Representable
  quantity : line.quantity.IsCount
  unit : line.unit.hasFloat = false
  reference : line.reference.hasFloat = false

def reread (line : Line) : Line :=
  { line with unit := line.unit.reread, reference := line.reference.reread }

variable {limit : Option Nat}

/-! ## Reading what was written -/

theorem reread_toText (d : Decimal) : Text.reread d.toText = d.toText := by
  -- plain characters are below the mark of what is no character
  apply Text.reread_plain
  intro c member
  rw [Decimal.toText, String.toList_ofList] at member
  have plain := Decimal.chars_plain d c member
  rintro rfl
  exact absurd plain (by decide)

theorem reread_amountJson (amount : Option Decimal) : (amountJson amount).reread = amountJson amount := by
  cases amount with
  | none => rfl
  | some d => exact congrArg Json.str (reread_toText d)

theorem readAmount?_amountJson {amount : Option Decimal}
    (representable : ∀ d, amount = some d → d.Representable) :
    readAmount? (amountJson amount) = .ok amount := by
  cases amount with
  | none => rfl
  | some d =>
    have read := Decimal.ofText?_toText (representable d rfl)
    simp [amountJson, readAmount?, Json.amount, read, mapError_ok, Except.map]

theorem readQuantity_count {value : Json} (count : value.IsCount) : readQuantity limit value = .ok value := by
  match value, count with
  | .null, _ => rfl
  | .int _, _ => rfl

theorem reread_count {value : Json} (count : value.IsCount) : value.reread = value := by
  match value, count with
  | .null, _ => rfl
  | .int _, _ => rfl

-- The keys of a record are texts of plain characters.
theorem reread_keys : Text.reread "tier" = "tier" ∧ Text.reread "tierUnit" = "tierUnit" ∧
    Text.reread "tierPrice" = "tierPrice" ∧ Text.reread "quantity" = "quantity" ∧
    Text.reread "amount" = "amount" ∧ Text.reread "existingUsageAmount" = "existingUsageAmount" ∧
    Text.reread "reference" = "reference" := by
  refine ⟨?_, ?_, ?_, ?_, ?_, ?_, ?_⟩ <;> exact Text.reread_of_all (by decide)

theorem reread_toJson {line : Line} (count : line.quantity.IsCount) :
    line.toJson.reread = line.reread.toJson := by
  simp only [toJson, Json.reread, Json.rereadMembers, reread_amountJson, reread_count count, reread_keys]
  rfl

theorem ofJson_reread {line : Line} (sound : line.Sound) :
    ofJson limit line.toJson.reread = .ok line.reread := by
  have price := readAmount?_amountJson sound.price
  have amount : readAmount? (amountJson (some line.amount)) = .ok (some line.amount) :=
    readAmount?_amountJson (by rintro d same; cases same; exact sound.amount)
  have absorbed := readAmount?_amountJson sound.absorbed
  have quantity : readQuantity limit line.quantity = .ok line.quantity := readQuantity_count sound.quantity
  have tier : readCount limit (.int line.tier) = .ok line.tier := rfl
  rw [reread_toJson sound.quantity]
  simp [toJson, reread, ofJson, Json.getD, Json.get?, Assoc.get?, price, amount, absorbed, quantity,
    tier, bind, Except.bind, pure, Except.pure]

/-- Whether a number of a kind occurs in a line, other than an amount. -/
def carries (kind : Number → Bool) (line : Line) : Bool :=
  kind (.int line.tier) ||
    (line.unit.hasNumber kind || (line.quantity.hasNumber kind || line.reference.hasNumber kind))

theorem hasNumber_toJson (kind : Number → Bool) (line : Line) :
    line.toJson.hasNumber kind = line.carries kind := by
  -- amounts are written as texts
  have amount (amount : Option Decimal) : (amountJson amount).hasNumber kind = false := by
    cases amount <;> rfl
  simp only [toJson, Json.hasNumber, Json.membersHave, amount, carries, Bool.false_or, Bool.or_false]

theorem itemsHave_toJson (kind : Number → Bool) (lines : List Line) :
    Json.itemsHave kind (lines.map toJson) = lines.any (carries kind) := by
  induction lines with
  | nil => rfl
  | cons line lines ih => rw [List.map_cons, Json.itemsHave, hasNumber_toJson, ih, List.any_cons]

theorem hasNumber_count {kind : Number → Bool} (others : ∀ n, kind (.int n) = false) {value : Json}
    (count : value.IsCount) : value.hasNumber kind = false := by
  match value, count with
  | .null, _ => rfl
  | .int n, _ => exact others n

theorem carries_float {line : Line} (sound : line.Sound) : line.carries Number.isFloat = false := by
  have quantity : line.quantity.hasNumber Number.isFloat = false := hasNumber_count (fun _ => rfl) sound.quantity
  simp only [carries, Bool.or_eq_false_iff]
  exact ⟨rfl, sound.unit, quantity, sound.reference⟩

theorem rereadItems_toJson (lines : List Line) :
    Json.rereadItems (lines.map toJson) = lines.map fun line => line.toJson.reread := by
  induction lines with
  | nil => rfl
  | cons line lines ih => rw [List.map_cons, Json.rereadItems, ih, List.map_cons]

theorem eq_nil_of_writeBlob {lines : List Line} (written : writeBlob lines = .ok none) : lines = [] := by
  unfold writeBlob writeBlobWithin at written
  dsimp only at written
  split at written
  next empty => exact List.isEmpty_iff.1 empty
  next => split at written <;> cases written

/-- Lines that were written under a limit are read back with their amounts. -/
theorem readBlobWithin_writeBlobWithin {lines : List Line} {text : String}
    (sound : ∀ line ∈ lines, line.Sound) (written : writeBlobWithin limit lines = .ok (some text)) :
    readBlobWithin limit (.str text) = .ok (some (lines.map reread)) := by
  unfold writeBlobWithin at written
  dsimp only at written
  split at written
  next => cases written
  next =>
    split at written
    next => cases written
    next writable =>
      cases written
      rw [Bool.not_eq_true, Bool.or_eq_false_iff] at writable
      have whole : (Json.arr (lines.map toJson)).hasFloat = false := by
        rw [Json.hasFloat, Json.hasNumber, itemsHave_toJson]
        exact List.any_eq_false.2 fun line member => Bool.eq_false_iff.1 (carries_float (sound line member))
      have read := Json.readWithin_toText .decimal writable.1 whole writable.2
      have records : (lines.map fun line => line.toJson.reread).mapM (ofJson limit) =
          .ok (lines.map reread) := by
        rw [List.mapM_map]
        exact mapM_eq_ok_map fun line member => ofJson_reread (sound line member)
      rw [Json.reread, rereadItems_toJson] at read
      simp only [readBlobWithin, read, mapError_ok, records, bind, Except.bind, pure, Except.pure]

theorem readBlob_writeBlob {lines : List Line} {text : String} (sound : ∀ line ∈ lines, line.Sound)
    (written : writeBlob lines = .ok (some text)) :
    readBlob (.str text) = .ok (some (lines.map reread)) :=
  readBlobWithin_writeBlobWithin sound written

/-! ## What is read under a limit -/

theorem readCount_of_within {value : Json} {n : Int} (read : readCount limit value = .ok n) :
    readCount none value = .ok n :=
  mapError_eq_ok.2 (Json.count_of_within (mapError_eq_ok.1 read))

theorem readQuantity_of_within {value quantity : Json} (read : readQuantity limit value = .ok quantity) :
    readQuantity none value = .ok quantity := by
  unfold readQuantity at read ⊢
  split at read
  next => exact read
  next =>
    obtain ⟨n, counted, same⟩ := map_eq_ok.1 read
    exact map_eq_ok.2 ⟨n, readCount_of_within counted, same⟩

theorem ofJson_of_within {value : Json} {line : Line} (read : ofJson limit value = .ok line) :
    ofJson none value = .ok line := by
  unfold ofJson at read ⊢
  split at read
  next =>
    simp only [bind_eq_ok] at read ⊢
    obtain ⟨amount, amount_read, tier, tier_read, price, price_read, quantity, quantity_read, rest⟩ := read
    exact ⟨amount, amount_read, tier, readCount_of_within tier_read, price, price_read, quantity,
      readQuantity_of_within quantity_read, rest⟩
  next => exact read

theorem readBlob_of_within {blob : Json} {lines : Option (List Line)}
    (read : readBlobWithin limit blob = .ok lines) : readBlob blob = .ok lines := by
  cases blob with
  | str text =>
    rw [readBlob_str]
    obtain ⟨value, value_read, rest⟩ := bind_eq_ok.1 read
    refine bind_eq_ok.2 ⟨value, mapError_eq_ok.2 (Json.read_of_readWithin (mapError_eq_ok.1 value_read)), ?_⟩
    split at rest
    next =>
      obtain ⟨found, records_read, same⟩ := bind_eq_ok.1 rest
      have each := (mapM_eq_ok_iff.1 records_read).imp fun _ _ => ofJson_of_within
      exact bind_eq_ok.2 ⟨found, mapM_eq_ok_iff.2 each, same⟩
    next => exact rest
  | null => exact read
  | _ => exact read

/-! ## What is read is sound -/

theorem representable_readPlain? {cs : List Char} {d : Decimal} (read : Decimal.readPlain? cs = some d) :
    d.Representable := by
  have payload {negative signalling : Bool} {cs : List Char}
      (read : Decimal.readPayload? negative signalling cs = some d) : d.Representable := by
    unfold Decimal.readPayload? at read
    split at read <;> cases read
    trivial
  unfold Decimal.readPlain? at read
  dsimp only at read
  split at read
  next => cases read; trivial
  next => split at read <;> cases read; trivial
  next =>
    split at read
    next => exact payload read
    next => exact payload read
    next =>
      obtain ⟨⟨coefficient, exponent⟩, _, bounded⟩ := Option.bind_eq_some_iff.1 read
      dsimp only at bounded
      split at bounded
      next inRange => cases bounded; exact inRange
      next => cases bounded

theorem representable_amountOfParts {sign digits scale : Json} {d : Decimal}
    (read : Json.amountOfParts sign digits scale = .ok d) : d.Representable := by
  simp only [Json.amountOfParts, bind_eq_ok] at read
  obtain ⟨negative, _, scale, _, digits, _, read⟩ := read
  split at read
  next => cases read; trivial
  next => cases read; trivial
  next =>
    split at read
    next inRange => cases read; exact inRange
    next => cases read

theorem representable_amount {value : Json} {d : Decimal} (read : value.amount = .ok d) :
    d.Representable := by
  unfold Json.amount at read
  split at read
  next =>
    split at read
    next representable => cases read; exact representable
    next => cases read
  next b => cases read; cases b <;> decide
  next =>
    split at read
    next found => cases read; exact representable_readPlain? found
    next => cases read
  next => exact representable_amountOfParts read
  all_goals cases read

theorem representable_readAmount? {value : Json} {amount : Option Decimal}
    (read : readAmount? value = .ok amount) : ∀ d, amount = some d → d.Representable := by
  unfold readAmount? at read
  split at read
  next => cases read; exact nofun
  next =>
    obtain ⟨d, found, rfl⟩ := map_eq_ok.1 read
    rintro e same
    cases same
    exact representable_amount (mapError_eq_ok.1 found)

theorem count_readQuantity {value quantity : Json} (read : readQuantity none value = .ok quantity) :
    quantity.IsCount := by
  unfold readQuantity at read
  split at read
  next => cases read; trivial
  next =>
    obtain ⟨n, _, rfl⟩ := map_eq_ok.1 read
    trivial

variable {text : String → Prop}

theorem sound_ofJson {value : Json} {line : Line} (held : value.Holds text)
    (read : ofJson none value = .ok line) :
    line.Sound ∧ line.unit.Holds text ∧ line.reference.Holds text := by
  unfold ofJson at read
  split at read
  next members =>
    simp only [bind_eq_ok] at read
    obtain ⟨amount, amount_read, tier, _, price, price_read, quantity, quantity_read, absorbed,
      absorbed_read, made⟩ := read
    cases made
    have unit := Json.holds_getD held "tierUnit"
    have reference := Json.holds_getD held "reference"
    refine ⟨?_, unit, reference⟩
    refine {
      price := representable_readAmount? price_read
      amount := ?_
      absorbed := representable_readAmount? absorbed_read
      quantity := count_readQuantity quantity_read
      unit := Json.hasFloat_of_holds _ unit
      reference := Json.hasFloat_of_holds _ reference }
    cases amount with
    | none =>
      have zero : Decimal.zero.Representable := by decide
      exact zero
    | some d => exact representable_readAmount? amount_read d rfl
  next => cases read

/-- The lines of a blob hold what its tokens bring. -/
theorem holds_readBlob {source : String} {lines : List Line}
    (brought : ∀ token ∈ Json.tokens source.toList, token.Holds text)
    (read : readBlob (.str source) = .ok (some lines)) :
    ∀ line ∈ lines, line.Sound ∧ line.unit.Holds text ∧ line.reference.Holds text := by
  rw [readBlob_str] at read
  obtain ⟨value, value_read, rest⟩ := bind_eq_ok.1 read
  have held := Json.holds_of_read brought (mapError_eq_ok.1 value_read)
  split at rest
  next records =>
    obtain ⟨found, records_read, same⟩ := bind_eq_ok.1 rest
    cases same
    exact forall_mem_mapM records_read fun record member line made =>
      sound_ofJson (Json.itemsHold_iff.1 held record member) made
  next => cases rest

theorem sound_readBlob {blob : Json} {lines : List Line} (read : readBlob blob = .ok (some lines)) :
    ∀ line ∈ lines, line.Sound := by
  cases blob with
  | str source =>
    intro line member
    exact (holds_readBlob (Json.bring_tokensFrom source.toList .between) read line member).1
  | null => cases read
  | _ => cases read

end Line

end Arrears
