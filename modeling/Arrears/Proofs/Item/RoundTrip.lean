import Arrears.Item
import Arrears.Proofs.Calendar.DateText
import Arrears.Proofs.Line.Blob

/-! Items in storage. A record names every field of its item, those that are left out too, so that
an item is read back as it was written. What is read from a record of any accepted form can be
written, and the record that is written for it stays the same from then on. -/

set_option autoImplicit false

namespace Arrears

namespace Item

structure Storable (item : Item) : Prop where
  id : item.id.isVacant = false
  amount : item.amount.Representable
  rate : ∀ d, item.rate = some d → d.Representable

/-- What a record says of an item, field by field. -/
structure Describes (value : Json) (fresh : String) (item : Item) : Prop where
  isObject : ∃ members, value = .obj members
  itemType : readType value = .ok item.itemType
  invoiceId : value.get? "invoice_id" = some item.invoiceId
  accountId : value.get? "account_id" = some item.accountId
  bundleId : named value "bundle_id" = item.bundleId
  subscriptionId : named value "subscription_id" = item.subscriptionId
  planName : named value "plan_name" = item.planName
  phaseName : named value "phase_name" = item.phaseName
  usageName : value.getD "usage_name" = item.usageName
  start : ∃ given, value.get? "start_date" = some given ∧ readDate given = .ok item.start
  stop : readStop (value.getD "end_date") = .ok item.stop
  amount : ∃ given, value.get? "amount" = some given ∧ readAmount given = .ok item.amount
  currency : value.get? "currency" = some item.currency
  rate : readRate (value.getD "rate") = .ok item.rate
  quantity : value.getD "quantity" = item.quantity
  details : value.getD "item_details" = item.details
  id : (if lacksId value then .str fresh else value.getD "id") = item.id

theorem required_eq_ok {value member : Json} {key : String} :
    required value key = .ok member ↔ value.get? key = some member := by
  unfold required
  cases value.get? key <;> simp

theorem ofJson_eq_ok_iff {fresh : String} {value : Json} {item : Item} :
    ofJson fresh value = .ok item ↔ Describes value fresh item := by
  constructor
  · intro read
    unfold ofJson at read
    split at read
    next members =>
      simp only [bind_eq_ok, required_eq_ok] at read
      obtain ⟨itemType, type_read, invoiceId, invoice, accountId, account, start, start_given, date,
        date_read, stop, stop_read, amount, amount_given, number, number_read, currency, paid, rate,
        rate_read, made⟩ := read
      cases made
      exact ⟨⟨members, rfl⟩, type_read, invoice, account, rfl, rfl, rfl, rfl, rfl,
        ⟨start, start_given, date_read⟩, stop_read, ⟨amount, amount_given, number_read⟩, paid,
        rate_read, rfl, rfl, rfl⟩
    next => cases read
  · intro describes
    obtain ⟨members, rfl⟩ := describes.isObject
    obtain ⟨start, start_given, date_read⟩ := describes.start
    obtain ⟨amount, amount_given, number_read⟩ := describes.amount
    simp only [ofJson, bind_eq_ok, required_eq_ok]
    refine ⟨_, describes.itemType, _, describes.invoiceId, _, describes.accountId, start, start_given,
      _, date_read, _, describes.stop, amount, amount_given, _, number_read, _, describes.currency, _,
      describes.rate, ?_⟩
    rw [describes.bundleId, describes.subscriptionId, describes.planName, describes.phaseName,
      describes.usageName, describes.quantity, describes.details, describes.id]
    rfl

/-! ## What is written -/

theorem get?_optional_of_ne {key other : String} (different : key ≠ other) (value : Json) :
    Assoc.get? other (optional key value) = none := by
  cases value <;> simp [optional, Assoc.get?, different]

theorem get?_optionals_of_absent {fields : List (String × Json)} {key : String}
    (absent : key ∉ Assoc.keys fields) :
    Assoc.get? key (fields.flatMap fun field => optional field.1 field.2) = none := by
  induction fields with
  | nil => rfl
  | cons field fields ih =>
    obtain ⟨different, absent⟩ := not_or.1 (mt List.mem_cons.2 absent)
    rw [List.flatMap_cons, Assoc.get?_append, get?_optional_of_ne (Ne.symm different), ih absent]
    rfl

theorem getD_optionals {fields : List (String × Json)} (once : (Assoc.keys fields).Nodup) {key : String}
    {value : Json} (member : (key, value) ∈ fields) :
    (Assoc.get? key (fields.flatMap fun field => optional field.1 field.2)).getD .null = value := by
  induction fields with
  | nil => cases member
  | cons field fields ih =>
    obtain ⟨new, once⟩ := List.nodup_cons.1 once
    rw [List.flatMap_cons, Assoc.get?_append]
    rcases List.mem_cons.1 member with rfl | later
    · rw [get?_optionals_of_absent new, Option.or_none]
      cases value <;> simp [optional, Assoc.get?]
    · have different : field.1 ≠ key := fun same => new (List.mem_map.2 ⟨_, later, same.symm⟩)
      rw [get?_optional_of_ne different, Option.none_or, ih once later]

/-- The fields that a record does not name where they are null. -/
def unnamed (item : Item) : List (String × Json) :=
  [("usage_name", item.usageName), ("end_date", textOrNull (item.stop.map Date.toText)),
    ("rate", textOrNull (item.rate.map Decimal.toText)), ("quantity", item.quantity),
    ("item_details", item.details)]

theorem getD_unnamed {item : Item} {key : String} {value : Json} (member : (key, value) ∈ item.unnamed) :
    item.toJson.getD key = value := by
  have once : (Assoc.keys item.unnamed).Nodup := by simp [unnamed, Assoc.keys]
  rw [← getD_optionals once member]
  -- none of these keys is among those that every record has
  simp only [unnamed, List.mem_cons, Prod.mk.injEq, List.not_mem_nil, or_false] at member
  rcases member with ⟨rfl, _⟩ | ⟨rfl, _⟩ | ⟨rfl, _⟩ | ⟨rfl, _⟩ | ⟨rfl, _⟩ <;>
    simp [toJson, unnamed, Json.getD, Json.get?, Assoc.get?_append, Assoc.get?]

theorem readStop_written (stop : Option Date) : readStop (textOrNull (stop.map Date.toText)) = .ok stop := by
  cases stop with
  | none => rfl
  | some date =>
    have text : date.toText ≠ "" := by
      rintro same
      have read := date.ofText?_toText
      rw [same] at read
      cases read
    simp [textOrNull, readStop, Json.isVacant, text, readDate, date.ofText?_toText, Except.map]

theorem readAmount_written {d : Decimal} (representable : d.Representable) :
    readAmount (.str d.toText) = .ok d := by
  rw [readAmount, Json.amount, Decimal.ofText?_toText representable]
  rfl

theorem readRate_written {rate : Option Decimal} (representable : ∀ d, rate = some d → d.Representable) :
    readRate (textOrNull (rate.map Decimal.toText)) = .ok rate := by
  cases rate with
  | none => rfl
  | some d =>
    have read := readAmount_written (representable d rfl)
    simp only [textOrNull, Option.map_some, readRate, read, Except.map]

theorem readType_written (item : Item) : readType item.toJson = .ok item.itemType := by
  have given : item.toJson.get? "invoice_item_type" = some (.str item.itemType.name) := rfl
  simp only [readType, given, ItemType.ofName?_name]

theorem describes_toJson {item : Item} (storable : item.Storable) (fresh : String) :
    Describes item.toJson fresh item := by
  have usageName : item.toJson.getD "usage_name" = item.usageName := getD_unnamed (by simp [unnamed])
  have stop : item.toJson.getD "end_date" = textOrNull (item.stop.map Date.toText) :=
    getD_unnamed (by simp [unnamed])
  have rate : item.toJson.getD "rate" = textOrNull (item.rate.map Decimal.toText) :=
    getD_unnamed (by simp [unnamed])
  have quantity : item.toJson.getD "quantity" = item.quantity := getD_unnamed (by simp [unnamed])
  have details : item.toJson.getD "item_details" = item.details := getD_unnamed (by simp [unnamed])
  have id : item.toJson.getD "id" = item.id := rfl
  have own : lacksId item.toJson = false := storable.id
  exact {
    isObject := ⟨_, rfl⟩
    itemType := item.readType_written
    invoiceId := rfl
    accountId := rfl
    bundleId := rfl
    subscriptionId := rfl
    planName := rfl
    phaseName := rfl
    usageName
    start := ⟨.str item.start.toText, rfl, by simp only [readDate, item.start.ofText?_toText]⟩
    stop := by rw [stop, readStop_written]
    amount := ⟨.str item.amount.toText, rfl, readAmount_written storable.amount⟩
    currency := rfl
    rate := by rw [rate, readRate_written storable.rate]
    quantity
    details
    id := by rw [own, id]; rfl }

/-- What is read from a record can be stored, if an identifier that was found for it is not empty. -/
theorem Describes.storable {value : Json} {fresh : String} {item : Item} (found : fresh ≠ "")
    (describes : Describes value fresh item) : item.Storable := by
  obtain ⟨_, _, amount_read⟩ := describes.amount
  refine { id := ?_, amount := Line.representable_amount (mapError_eq_ok.1 amount_read), rate := ?_ }
  · rw [← describes.id]
    split
    next => simpa [Json.isVacant] using found
    next own => exact (Bool.not_eq_true _).mp own
  · intro d same
    have rate_read := describes.rate
    rw [same] at rate_read
    unfold readRate at rate_read
    split at rate_read
    next => cases rate_read
    next =>
      obtain ⟨_, read, same⟩ := map_eq_ok.1 rate_read
      cases same
      exact Line.representable_amount (mapError_eq_ok.1 read)

/-- Items survive storage. An item is read back from its record as it was, field by field, and the
record of an item that was read from any record is written again for the item that is read from it. -/
theorem record_roundTrip :
    (∀ (item : Item) (fresh : String), item.id.isVacant = false → item.amount.Representable →
      (∀ d, item.rate = some d → d.Representable) → ofJson fresh item.toJson = .ok item) ∧
    (∀ (value : Json) (item : Item) (fresh other : String), fresh ≠ "" →
      ofJson fresh value = .ok item → (ofJson other item.toJson).map toJson = .ok item.toJson) := by
  have kept {item : Item} (storable : item.Storable) (fresh : String) :
      ofJson fresh item.toJson = .ok item := ofJson_eq_ok_iff.2 (describes_toJson storable fresh)
  constructor
  · intro item fresh id amount rate
    exact kept ⟨id, amount, rate⟩ fresh
  · intro value item fresh other found read
    have storable := (ofJson_eq_ok_iff.1 read).storable found
    rw [kept storable other]
    rfl

/-! An item from year 2 to year 9999, with an amount that is no number, and a record of another party: the
Sunday of a 53rd week, a binary amount, and neither an identifier nor an end. -/

def Stored.item : Item where
  itemType := .creditAdjustment
  invoiceId := .str "inv-1"
  accountId := .str "acct-1"
  bundleId := .str ""
  subscriptionId := .str "sub-1"
  planName := .null
  phaseName := .str "phase"
  usageName := .str "calls"
  start := ⟨366, by decide, by decide⟩
  stop := some ⟨3652058, by decide, by decide⟩
  amount := .nan true true 12
  currency := .str "USD"
  rate := some (.finite true 0 5)
  quantity := .null
  details := .str "[]"
  id := .str "paid"

def Stored.foreign : Json :=
  .obj [("invoice_id", .str "inv-1"), ("account_id", .str "acct-1"), ("id", .null),
    ("start_date", .str "2020W537"), ("end_date", .str ""), ("bundle_id", .null),
    ("amount", .num (.binary (.finite false 7205759403792794 (-56)))), ("currency", .str "USD"),
    ("rate", .str " -0_0e3 ")]

def Stored.read : Item where
  itemType := .usage
  invoiceId := .str "inv-1"
  accountId := .str "acct-1"
  bundleId := .null
  subscriptionId := .str ""
  planName := .str ""
  phaseName := .str ""
  usageName := .null
  start := ⟨737793, by decide, by decide⟩
  stop := none
  amount := .finite false 1 (-1)
  currency := .str "USD"
  rate := some (.finite true 0 3)
  quantity := .null
  details := .null
  id := .str (freshId 0)

theorem record_roundTrip_stored :
    Stored.item.id.isVacant = false ∧ Stored.item.amount.Representable ∧
      ofJson (freshId 0) Stored.item.toJson = .ok Stored.item ∧
      ofJson (freshId 0) Stored.foreign = .ok Stored.read ∧
      (ofJson (freshId 1) Stored.read.toJson).map toJson = .ok Stored.read.toJson := by
  obtain ⟨kept, rewritten⟩ := record_roundTrip
  have rate : ∀ d, Stored.item.rate = some d → d.Representable := by
    rintro d same
    cases same
    decide
  have read : ofJson (freshId 0) Stored.foreign = .ok Stored.read := rfl
  exact ⟨rfl, trivial, kept Stored.item _ rfl trivial rate, read,
    rewritten Stored.foreign Stored.read _ _ (by decide) read⟩

end Item

end Arrears
