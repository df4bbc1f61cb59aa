import Arrears.Proofs.Json.Rewriting
import Arrears.Proofs.Line.Blob

/-! The codec of blobs, both ways, under any limit on the digits of whole numbers. Lines can be written
just where no decimal number stands in the data they carry for others and no whole number is too long,
and what is written is read back as the very same lines. A blob that was read and can be written again
is read back with the halves of pairs joined in its texts. It has one form from then on, and keeps its
lines where there was nothing to join. -/

set_option autoImplicit false

namespace Arrears.Line

/-- A line as it is handed over: a whole quantity or none, amounts of any size and form, and data
whose texts are texts of characters. -/
structure Proper (line : Line) : Prop where
  price : ∀ d, line.price = some d → d.Representable
  amount : line.amount.Representable
  absorbed : ∀ d, line.absorbed = some d → d.Representable
  quantity : line.quantity.IsCount
  unit : line.unit.Holds Text.IsScalar
  reference : line.reference.Holds Text.IsScalar

def carriesDecimal (line : Line) : Bool := line.unit.hasDecimal || line.reference.hasDecimal

def carriesLong (most : Nat) (line : Line) : Bool := line.carries (Number.isLong most)

structure KeysApart (line : Line) : Prop where
  unit : line.unit.KeysApart
  reference : line.reference.KeysApart

/-- No high half stands right before a low one in the data that a line carries. -/
structure Whole (line : Line) : Prop where
  unit : line.unit.Holds Text.Whole
  reference : line.reference.Holds Text.Whole

variable {limit : Option Nat} {lines : List Line}

theorem Proper.sound {line : Line} (proper : line.Proper) : line.Sound where
  price := proper.price
  amount := proper.amount
  absorbed := proper.absorbed
  quantity := proper.quantity
  unit := Json.hasFloat_of_holds _ proper.unit
  reference := Json.hasFloat_of_holds _ proper.reference

theorem reread_eq_self {line : Line} (unit : line.unit.Holds fun s => Text.reread s = s)
    (reference : line.reference.Holds fun s => Text.reread s = s) : line.reread = line := by
  rw [reread, Json.reread_of_holds _ unit, Json.reread_of_holds _ reference]

theorem Proper.reread {line : Line} (proper : line.Proper) : line.reread = line :=
  reread_eq_self (Json.Holds.mono (fun _ => Text.reread_of_isScalar) _ proper.unit)
    (Json.Holds.mono (fun _ => Text.reread_of_isScalar) _ proper.reference)

theorem Whole.reread {line : Line} (whole : line.Whole) : line.reread = line :=
  reread_eq_self (Json.Holds.mono (fun _ => Text.reread_of_whole) _ whole.unit)
    (Json.Holds.mono (fun _ => Text.reread_of_whole) _ whole.reference)

theorem map_reread_eq_self (same : ∀ line ∈ lines, line.reread = line) : lines.map reread = lines :=
  (List.map_congr_left same).trans (List.map_id' lines)

/-! ## Writing -/

theorem carries_decimal {line : Line} (count : line.quantity.IsCount) :
    line.carries Number.isDecimal = line.carriesDecimal := by
  rw [carries, hasNumber_count (fun _ => rfl) count]
  rfl

theorem any_carries_decimal (counts : ∀ line ∈ lines, line.quantity.IsCount) :
    lines.any (carries Number.isDecimal) = lines.any carriesDecimal := by
  induction lines with
  | nil => rfl
  | cons line lines ih =>
    obtain ⟨first, others⟩ := List.forall_mem_cons.1 counts
    rw [List.any_cons, carries_decimal first, ih others, List.any_cons]

/-- Lines are written unless one of them carries a decimal number or one that is too long. -/
theorem writeBlobWithin_eq (some_line : lines ≠ []) (counts : ∀ line ∈ lines, line.quantity.IsCount) :
    writeBlobWithin limit lines =
      if lines.any carriesDecimal || limit.any (fun most => lines.any (carriesLong most)) then
        .error .notWritable
      else .ok (some (Json.arr (lines.map toJson)).toText) := by
  have nonempty : lines.isEmpty = false := List.isEmpty_eq_false_iff.2 some_line
  simp only [writeBlobWithin, nonempty, Json.hasNumber, itemsHave_toJson, any_carries_decimal counts,
    Bool.false_eq_true, if_false]
  rfl

/-! ## Writing again -/

theorem keysApart_toJson {line : Line} (apart : line.KeysApart) (count : line.quantity.IsCount) :
    line.toJson.KeysApart := by
  have plain (amount : Option Decimal) : (amountJson amount).KeysApart := by cases amount <;> trivial
  have counted : line.quantity.KeysApart := by
    match line.quantity, count with
    | .null, _ => trivial
    | .int _, _ => trivial
  refine ⟨?_, trivial, apart.unit, plain _, counted, plain _, plain _, apart.reference, trivial⟩
  simp only [Json.rereadMembers, Assoc.keys, List.map_cons, List.map_nil, reread_keys]
  decide

theorem itemsKeysApart_toJson (apart : ∀ line ∈ lines, line.KeysApart)
    (counts : ∀ line ∈ lines, line.quantity.IsCount) : Json.ItemsKeysApart (lines.map toJson) := by
  induction lines with
  | nil => trivial
  | cons line lines ih =>
    obtain ⟨first, others⟩ := List.forall_mem_cons.1 apart
    obtain ⟨count, counts⟩ := List.forall_mem_cons.1 counts
    exact ⟨keysApart_toJson first count, ih others counts⟩

theorem reread_arr_toJson (counts : ∀ line ∈ lines, line.quantity.IsCount) :
    (Json.arr (lines.map toJson)).reread = .arr ((lines.map reread).map toJson) := by
  rw [Json.reread, rereadItems_toJson, List.map_map]
  exact congrArg Json.arr (List.map_congr_left fun line member => reread_toJson (counts line member))

theorem writeBlobWithin_reread (apart : ∀ line ∈ lines, line.KeysApart)
    (counts : ∀ line ∈ lines, line.quantity.IsCount) :
    writeBlobWithin limit (lines.map reread) = writeBlobWithin limit lines := by
  have keys : (Json.arr (lines.map toJson)).KeysApart := itemsKeysApart_toJson apart counts
  simp only [writeBlobWithin, List.isEmpty_map, ← reread_arr_toJson counts, Json.hasNumber_reread _ keys,
    Json.toText, Json.chars_reread _ keys]

theorem Sound.whole_reread {line : Line} (sound : line.Sound) : line.reread.Whole :=
  ⟨Json.holds_reread _ sound.unit, Json.holds_reread _ sound.reference⟩

theorem Sound.reread {line : Line} (sound : line.Sound) : line.reread.Sound :=
  { sound with
    unit := Json.hasFloat_of_holds _ sound.whole_reread.unit
    reference := Json.hasFloat_of_holds _ sound.whole_reread.reference }

/-! ## Both ways -/

theorem roundTrip_of_proper (some_line : lines ≠ []) (proper : ∀ line ∈ lines, line.Proper)
    (exact : lines.any carriesDecimal = false)
    (short : limit.any (fun most => lines.any (carriesLong most)) = false) :
    ∃ text, writeBlobWithin limit lines = .ok (some text) ∧
      readBlobWithin limit (.str text) = .ok (some lines) := by
  have written : writeBlobWithin limit lines = .ok (some (Json.arr (lines.map toJson)).toText) := by
    rw [writeBlobWithin_eq some_line fun line member => (proper line member).quantity, exact, short]
    rfl
  have read := readBlobWithin_writeBlobWithin (fun line member => (proper line member).sound) written
  rw [map_reread_eq_self fun line member => (proper line member).reread] at read
  exact ⟨_, written, read⟩

theorem map_reread_ofScalars {cs : List Char}
    (read : readBlob (.str (Text.ofScalars cs)) = .ok (some lines)) : lines.map reread = lines := by
  have held := holds_readBlob (Json.settle_ofScalars cs) read
  exact map_reread_eq_self fun line member => reread_eq_self (held line member).2.1 (held line member).2.2

/-- A line that cannot be written under a limit: a decimal number occurs in its unit or its reference,
or a whole number in it has too many digits. -/
def Refused (limit : Option Nat) (line : Line) : Prop :=
  line.unit.hasDecimal = true ∨ line.reference.hasDecimal = true ∨
    ∃ most, limit = some most ∧ line.carriesLong most = true

theorem exists_refused_iff : (∃ line ∈ lines, line.Refused limit) ↔
    (lines.any carriesDecimal || limit.any (fun most => lines.any (carriesLong most))) = true := by
  simp only [Bool.or_eq_true, List.any_eq_true, Option.any_eq_true, carriesDecimal]
  constructor
  · rintro ⟨line, member, unit | reference | ⟨most, given, long⟩⟩
    · exact .inl ⟨line, member, .inl unit⟩
    · exact .inl ⟨line, member, .inr reference⟩
    · exact .inr ⟨most, given, line, member, long⟩
  · rintro (⟨line, member, unit | reference⟩ | ⟨most, given, line, member, long⟩)
    · exact ⟨line, member, .inl unit⟩
    · exact ⟨line, member, .inr (.inl reference)⟩
    · exact ⟨line, member, .inr (.inr ⟨most, given, long⟩)⟩

/-- Writing and reading of blobs undo each other, under any limit on the digits of whole numbers. Lines
are refused just where one of them cannot be written, and are otherwise read back as they were. A blob
that is read and written again is read back with each high half joined to a low one right behind it. It
is written as it was if no two keys become one by that, its lines do not change any more, and they
never have where nothing was to be joined, as in a text of characters. -/
theorem blob_roundTrip (limit : Option Nat) :
    (∀ lines : List Line, lines ≠ [] → (∀ line ∈ lines, line.Proper) →
      ((∃ line ∈ lines, line.Refused limit) → writeBlobWithin limit lines = .error .notWritable) ∧
      ((∀ line ∈ lines, ¬line.Refused limit) →
        ∃ text, writeBlobWithin limit lines = .ok (some text) ∧
          readBlobWithin limit (.str text) = .ok (some lines))) ∧
    ∀ (source text : String) (lines : List Line), lines ≠ [] →
      readBlobWithin limit (.str source) = .ok (some lines) →
      writeBlobWithin limit lines = .ok (some text) →
        readBlobWithin limit (.str text) = .ok (some (lines.map reread)) ∧
        ((∀ line ∈ lines, line.KeysApart) → writeBlobWithin limit (lines.map reread) = .ok (some text)) ∧
        (∀ further, writeBlobWithin limit (lines.map reread) = .ok (some further) →
          readBlobWithin limit (.str further) = .ok (some (lines.map reread))) ∧
        ((∀ line ∈ lines, line.Whole) ∨ (∃ cs, source = Text.ofScalars cs) → lines.map reread = lines) := by
  constructor
  · intro lines some_line proper
    refine ⟨fun refused => ?_, fun writable => ?_⟩
    · rw [writeBlobWithin_eq some_line fun line member => (proper line member).quantity,
        if_pos (exists_refused_iff.1 refused)]
    · have none_refused := (Bool.not_eq_true _).mp (mt exists_refused_iff.2 fun ⟨line, member, refused⟩ =>
        writable line member refused)
      obtain ⟨exact, short⟩ := Bool.or_eq_false_iff.1 none_refused
      exact roundTrip_of_proper some_line proper exact short
  · intro source text lines _ read written
    have sound := sound_readBlob (readBlob_of_within read)
    refine ⟨readBlobWithin_writeBlobWithin sound written, fun apart => ?_, fun further again => ?_, ?_⟩
    · rw [writeBlobWithin_reread apart fun line member => (sound line member).quantity, written]
    · have read_again := readBlobWithin_writeBlobWithin
        (List.forall_mem_map.2 fun line member => (sound line member).reread) again
      rwa [map_reread_eq_self (List.forall_mem_map.2 fun line member =>
        (sound line member).whole_reread.reread)] at read_again
    · rintro (whole | ⟨cs, rfl⟩)
      · exact map_reread_eq_self fun line member => (whole line member).reread
      · exact map_reread_ofScalars (readBlob_of_within read)

/-! Amounts of every kind, data with texts beyond the first plane, a record as another party wrote it, and
one whose unit is a high half as it is and a low one behind it by its number. -/

def Stored.line : Line where
  tier := -100000000000000000000
  unit := .obj [("name", .str "\t\"😀"), ("of", .arr [.null, .int 7, .bool true])]
  price := some (.finite true 0 5)
  quantity := .null
  amount := .finite false 12300 (-2)
  absorbed := some (.nan true false 12)
  reference := .str "é"

def Stored.refused : Line := { line with reference := .arr [.num (.decimal .zero)] }

-- Blanks, a tier with a fraction, and an escape that needs none.
def Stored.foreign : List Char :=
  "[ \x7b\"tier\": 2.9, \"tierUnit\": \"\\u0041\"\x7d ]".toList

def Stored.read : Line := ⟨2, .str "A", none, .null, .zero, none, .null⟩

def Split.source : String :=
  String.ofList ("[\x7b\"tierUnit\":\"".toList ++ Text.ofCode 0xD800 ++ "\\udc00\"\x7d]".toList)

def Split.halves : String := String.ofList (Text.ofCode 0xD800 ++ Text.ofCode 0xDC00)

def Split.character : String := "𐀀"

def Split.line : Line := ⟨0, .str halves, none, .null, .zero, none, .null⟩

def Split.joined : Line := { line with unit := .str character }

def Split.text : String := (Json.arr [line.toJson]).toText

theorem Stored.proper : Stored.line.Proper where
  price := by rintro d same; cases same; decide
  amount := by decide
  absorbed := by rintro d same; cases same; trivial
  quantity := trivial
  unit := by
    have scalar (s : String) (plain : s.toList.all (· != Text.mark) = true) := Text.isScalar_of_all plain
    exact ⟨by decide, scalar "name" (by decide), scalar "\t\"😀" (by decide), scalar "of" (by decide),
      ⟨trivial, trivial, trivial, trivial⟩, trivial⟩
  reference := Text.isScalar_of_all (s := "é") (by decide)

theorem Stored.proper_refused : Stored.refused.Proper :=
  { Stored.proper with reference := ⟨trivial, trivial⟩ }

theorem blob_roundTrip_stored :
    (∃ text, writeBlobWithin (some 4300) [Stored.line] = .ok (some text) ∧
      readBlobWithin (some 4300) (.str text) = .ok (some [Stored.line])) ∧
    writeBlobWithin (some 4300) [Stored.line, Stored.refused] = .error .notWritable ∧
    (∃ text, writeBlobWithin (some 4300) [Stored.read] = .ok (some text) ∧
      readBlobWithin (some 4300) (.str text) = .ok (some [Stored.read])) ∧
    readBlobWithin (some 4300) (.str Split.text) = .ok (some [Split.line.reread]) ∧
      writeBlobWithin (some 4300) [Split.line.reread] = .ok (some Split.text) := by
  obtain ⟨proper_lines, rewritten⟩ := blob_roundTrip (some 4300)
  refine ⟨?_, ?_, ?_, ?_⟩
  · have single : ∀ line ∈ [Stored.line], line.Proper := List.forall_mem_singleton.2 Stored.proper
    refine (proper_lines [Stored.line] (by decide) single).2 fun line member refused => ?_
    have none_refused := exists_refused_iff.1 ⟨line, member, refused⟩
    revert none_refused
    decide
  · have both : ∀ line ∈ [Stored.line, Stored.refused], line.Proper :=
      List.forall_mem_cons.2 ⟨Stored.proper, List.forall_mem_singleton.2 Stored.proper_refused⟩
    exact (proper_lines [Stored.line, Stored.refused] (by decide) both).1 (exists_refused_iff.2 (by decide))
  · have written : writeBlobWithin (some 4300) [Stored.read] =
        .ok (some (Json.arr [Stored.read.toJson]).toText) := rfl
    obtain ⟨read, _, _, kept⟩ := rewritten (Text.ofScalars Stored.foreign) _ [Stored.read] (by decide) rfl written
    rw [kept (.inr ⟨_, rfl⟩)] at read
    exact ⟨_, written, read⟩
  · have apart : Split.line.KeysApart := ⟨trivial, trivial⟩
    obtain ⟨read, written, _⟩ := rewritten Split.source Split.text [Split.line] (by decide) rfl rfl
    exact ⟨read, written (List.forall_mem_singleton.2 apart)⟩

theorem carriesLong_of_pow_le {most n : Nat} {line : Line} (positive : 0 < most) (tier : line.tier = n)
    (large : 10 ^ most ≤ n) : line.carriesLong most = true := by
  have longer : ¬(Text.digits n).length ≤ most := fun short =>
    Nat.not_lt.2 large ((Nat.length_toDigits_le_iff (by decide) positive).1 short)
  rw [carriesLong, carries, tier, Number.isLong, Int.natAbs_natCast, decide_eq_true (Nat.lt_of_not_le longer),
    Bool.true_or]

def Long.line : Line := { Stored.read with tier := ((10 ^ 4300 : Nat) : Int) }

/-- A blob that is read and can be written again may not keep its lines, and lines without decimal numbers
in their data may not be written. -/
theorem split_not_kept :
    (readBlob (.str Split.source) = .ok (some [Split.line]) ∧
      writeBlob [Split.line] = .ok (some Split.text) ∧
      readBlob (.str Split.text) = .ok (some [Split.joined]) ∧ Split.joined ≠ Split.line) ∧
    Long.line.carriesDecimal = false ∧ writeBlobWithin (some 4300) [Long.line] = .error .notWritable := by
  have read : readBlob (.str Split.source) = .ok (some [Split.line]) := rfl
  have written : writeBlob [Split.line] = .ok (some Split.text) := rfl
  have texts : Text.reread Split.halves = Split.character := by decide +kernel
  have lines : Split.line.reread = Split.joined :=
    congrArg (fun unit => { Split.line with unit := .str unit }) texts
  refine ⟨⟨read, written, ?_, ?_⟩, rfl, ?_⟩
  · rw [readBlob_writeBlob (sound_readBlob read) written, List.map_singleton, lines]
  · intro same
    have units : Json.str Split.character = Json.str Split.halves := congrArg Line.unit same
    have different : Split.character ≠ Split.halves := by decide +kernel
    exact different (Json.str.inj units)
  · have long : Long.line.carriesLong 4300 = true :=
      carriesLong_of_pow_le (by decide) rfl (Nat.le_refl (10 ^ 4300))
    have counted : ∀ line ∈ [Long.line], line.quantity.IsCount := List.forall_mem_singleton.2 trivial
    rw [writeBlobWithin_eq (List.cons_ne_nil _ _) counted]
    exact if_pos (exists_refused_iff.1 ⟨Long.line, List.mem_cons_self, .inr (.inr ⟨4300, rfl, long⟩)⟩)

end Arrears.Line
