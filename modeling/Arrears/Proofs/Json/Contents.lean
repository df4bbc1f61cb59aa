import Arrears.Proofs.Json.RoundTrip
import Arrears.Proofs.Outcome

/-! What a value holds is what its tokens bring. The reader puts a value together from its tokens
alone, with each key of an object once. So what holds of the texts among the tokens holds of all
texts and keys of the value, and no finite binary number arises where no token brings one. -/

set_option autoImplicit false

namespace Arrears.Json

mutual

/-- Data without finite binary numbers, in which something holds of all texts and keys and an object
has each key once. -/
def Holds (text : String → Prop) : Json → Prop
  | num (.binary (.finite ..)) => False
  | str s => text s
  | arr items => ItemsHold text items
  | obj members => (Assoc.keys members).Nodup ∧ MembersHold text members
  | _ => True

def ItemsHold (text : String → Prop) : List Json → Prop
  | [] => True
  | item :: items => Holds text item ∧ ItemsHold text items

def MembersHold (text : String → Prop) : List (String × Json) → Prop
  | [] => True
  | (key, value) :: members => text key ∧ Holds text value ∧ MembersHold text members

end

/-! ## Values -/

mutual

theorem hasFloat_of_holds {text : String → Prop} : ∀ value, Holds text value → hasFloat value = false
  | null, _ => rfl
  | bool _, _ => rfl
  | num (.int _), _ => rfl
  | num (.decimal _), _ => rfl
  | num (.binary (.infinite _)), _ => rfl
  | num (.binary .nan), _ => rfl
  | str _, _ => rfl
  | arr items, held => itemsHaveFloat_of_hold items held
  | obj members, held => membersHaveFloat_of_hold members held.2

theorem itemsHaveFloat_of_hold {text : String → Prop} :
    ∀ items, ItemsHold text items → itemsHave Number.isFloat items = false
  | [], _ => rfl
  | item :: items, held =>
    Bool.or_eq_false_iff.2 ⟨hasFloat_of_holds item held.1, itemsHaveFloat_of_hold items held.2⟩

theorem membersHaveFloat_of_hold {text : String → Prop} :
    ∀ members, MembersHold text members → membersHave Number.isFloat members = false
  | [], _ => rfl
  | (_, value) :: members, held =>
    Bool.or_eq_false_iff.2 ⟨hasFloat_of_holds value held.2.1, membersHaveFloat_of_hold members held.2.2⟩

end

mutual

theorem reread_of_holds : ∀ value, Holds (fun s => Text.reread s = s) value → reread value = value
  | null, _ => rfl
  | bool _, _ => rfl
  | num _, _ => rfl
  | str _, same => congrArg str same
  | arr items, same => congrArg arr (rereadItems_of_hold items same)
  | obj members, same => by
    rw [reread, rereadMembers_of_hold members same.2, Assoc.ofPairs_of_nodup same.1]

theorem rereadItems_of_hold :
    ∀ items, ItemsHold (fun s => Text.reread s = s) items → rereadItems items = items
  | [], _ => rfl
  | item :: items, same => by
    rw [rereadItems, reread_of_holds item same.1, rereadItems_of_hold items same.2]

theorem rereadMembers_of_hold :
    ∀ members, MembersHold (fun s => Text.reread s = s) members → rereadMembers members = members
  | [], _ => rfl
  | (key, value) :: members, same => by
    rw [rereadMembers, same.1, reread_of_holds value same.2.1, rereadMembers_of_hold members same.2.2]

end

mutual

theorem Holds.mono {text other : String → Prop} (weaker : ∀ s, text s → other s) :
    ∀ value, Holds text value → Holds other value
  | null, _ => trivial
  | bool _, _ => trivial
  | num (.int _), _ => trivial
  | num (.decimal _), _ => trivial
  | num (.binary (.infinite _)), _ => trivial
  | num (.binary .nan), _ => trivial
  | str s, held => weaker s held
  | arr items, held => ItemsHold.mono weaker items held
  | obj members, held => ⟨held.1, MembersHold.mono weaker members held.2⟩

theorem ItemsHold.mono {text other : String → Prop} (weaker : ∀ s, text s → other s) :
    ∀ items, ItemsHold text items → ItemsHold other items
  | [], _ => trivial
  | item :: items, held => ⟨Holds.mono weaker item held.1, ItemsHold.mono weaker items held.2⟩

theorem MembersHold.mono {text other : String → Prop} (weaker : ∀ s, text s → other s) :
    ∀ members, MembersHold text members → MembersHold other members
  | [], _ => trivial
  | (key, value) :: members, held =>
    ⟨weaker key held.1, Holds.mono weaker value held.2.1, MembersHold.mono weaker members held.2.2⟩

end

variable {text : String → Prop}

theorem itemsHold_iff {items : List Json} : ItemsHold text items ↔ ∀ item ∈ items, Holds text item := by
  induction items with
  | nil => exact iff_of_true trivial (List.forall_mem_nil _)
  | cons item items ih => rw [ItemsHold, ih, List.forall_mem_cons]

theorem membersHold_put {key : String} {value : Json} {members : List (String × Json)}
    (of_key : text key) (of_value : Holds text value) (held : MembersHold text members) :
    MembersHold text (Assoc.put key value members) := by
  unfold Assoc.put
  induction members with
  | nil => exact ⟨of_key, of_value, trivial⟩
  | cons member members ih =>
    obtain ⟨other, before⟩ := member
    unfold Assoc.alter
    split
    · exact ⟨held.1, of_value, held.2.2⟩
    · exact ⟨held.1, held.2.1, ih held.2.2⟩

theorem nodup_keys_put {members : List (String × Json)} (once : (Assoc.keys members).Nodup)
    (key : String) (value : Json) : (Assoc.keys (Assoc.put key value members)).Nodup :=
  Assoc.nodup_keys_alter once key _

theorem holds_of_mem {members : List (String × Json)} (held : MembersHold text members)
    {member : String × Json} (among : member ∈ members) : Holds text member.2 := by
  induction members with
  | nil => cases among
  | cons first members ih =>
    rcases List.mem_cons.1 among with rfl | later
    · exact held.2.1
    · exact ih held.2.2 later

theorem holds_get? {key : String} {value member : Json} (held : Holds text value)
    (found : value.get? key = some member) : Holds text member := by
  cases value with
  | obj members => exact holds_of_mem held.2 (Assoc.mem_of_get? found)
  | _ => cases found

theorem holds_getD {value : Json} (held : Holds text value) (key : String) :
    Holds text (value.getD key) := by
  unfold getD
  cases found : value.get? key with
  | none => exact trivial
  | some member => exact holds_get? held found

/-! ## The reader -/

def Token.Holds (text : String → Prop) : Token → Prop
  | .binary (.finite ..) => False
  | .str s => text s
  | _ => True

def Frame.Holds (text : String → Prop) : Frame → Prop
  | .array items => ItemsHold text items
  | .object members key => Json.Holds text (.obj members) ∧ text key

def Expectation.Holds (text : String → Prop) : Expectation → Prop
  | .key members => Json.Holds text (.obj members)
  | .colon members awaited => Json.Holds text (.obj members) ∧ text awaited
  | .complete found => found.Holds text
  | _ => True

structure State.Holds (text : String → Prop) (state : State) : Prop where
  stack : ∀ frame ∈ state.stack, frame.Holds text
  expectation : state.expectation.Holds text

theorem holds_deliver {value : Json} {stack : List Frame} (of_value : value.Holds text)
    (held : ∀ frame ∈ stack, frame.Holds text) : (deliver value stack).Holds text := by
  cases stack with
  | nil => exact ⟨List.forall_mem_nil _, of_value⟩
  | cons frame stack =>
    obtain ⟨first, others⟩ := List.forall_mem_cons.1 held
    cases frame with
    | array items =>
      have more : Frame.Holds text (.array (value :: items)) := ⟨of_value, first⟩
      exact ⟨List.forall_mem_cons.2 ⟨more, others⟩, trivial⟩
    | object members key =>
      obtain ⟨⟨once, of_members⟩, of_key⟩ := first
      have more : Frame.Holds text (.object (Assoc.put key value members) key) :=
        ⟨⟨nodup_keys_put once key value, membersHold_put of_key of_value of_members⟩, of_key⟩
      exact ⟨List.forall_mem_cons.2 ⟨more, others⟩, trivial⟩

theorem holds_acceptValue {stack : List Frame} {token : Token} {state : State}
    (held : ∀ frame ∈ stack, frame.Holds text) (of_token : token.Holds text)
    (accepted : acceptValue .decimal stack token = .ok state) : state.Holds text := by
  cases token with
  | openArray =>
    cases accepted
    exact ⟨List.forall_mem_cons.2 ⟨trivial, held⟩, trivial⟩
  | openObject =>
    cases accepted
    exact ⟨held, trivial⟩
  | fraction negative coefficient exponent =>
    simp only [acceptValue, fraction] at accepted
    split at accepted
    next => cases accepted; exact holds_deliver trivial held
    next => cases accepted
  | binary x =>
    cases accepted
    refine holds_deliver ?_ held
    cases x with
    | finite => exact of_token.elim
    | _ => trivial
  | str s => cases accepted; exact holds_deliver of_token held
  | null => cases accepted; exact holds_deliver trivial held
  | bool b => cases accepted; exact holds_deliver trivial held
  | int n => cases accepted; exact holds_deliver trivial held
  | _ => cases accepted

theorem holds_acceptNext {stack : List Frame} {token : Token} {state : State}
    (held : ∀ frame ∈ stack, frame.Holds text)
    (accepted : acceptNext stack token = .ok state) : state.Holds text := by
  unfold acceptNext at accepted
  split at accepted
  next => cases accepted; exact ⟨held, trivial⟩
  next =>
    cases accepted
    obtain ⟨first, others⟩ := List.forall_mem_cons.1 held
    refine holds_deliver ?_ others
    apply itemsHold_iff.2
    intro item member
    exact itemsHold_iff.1 first item (List.mem_reverse.1 member)
  next =>
    cases accepted
    obtain ⟨first, others⟩ := List.forall_mem_cons.1 held
    exact ⟨others, first.1⟩
  next =>
    cases accepted
    obtain ⟨first, others⟩ := List.forall_mem_cons.1 held
    exact holds_deliver first.1 others
  next => cases accepted

theorem holds_accept {state after : State} {token : Token} (held : state.Holds text)
    (of_token : token.Holds text) (accepted : accept .decimal state token = .ok after) :
    after.Holds text := by
  obtain ⟨stack, expectation⟩ := state
  obtain ⟨held, awaited⟩ := held
  have nothing : (Json.obj []).Holds text := ⟨List.nodup_nil, trivial⟩
  unfold accept at accepted
  split at accepted
  next => exact holds_acceptValue held of_token accepted
  next => exact holds_acceptNext held accepted
  next => exact holds_acceptValue held of_token accepted
  next => cases accepted; exact holds_deliver nothing held
  next => cases accepted; exact ⟨held, nothing, of_token⟩
  next same => cases accepted; cases same; exact ⟨held, awaited, of_token⟩
  next same =>
    cases accepted; cases same
    exact ⟨List.forall_mem_cons.2 ⟨awaited, held⟩, trivial⟩
  next => exact holds_acceptNext held accepted
  next => cases accepted

theorem holds_acceptAll {state after : State} {tokens : List Token} (held : state.Holds text)
    (brought : ∀ token ∈ tokens, token.Holds text)
    (accepted : acceptAll .decimal state tokens = .ok after) : after.Holds text := by
  induction tokens generalizing state with
  | nil => cases accepted; exact held
  | cons token tokens ih =>
    obtain ⟨first, others⟩ := List.forall_mem_cons.1 brought
    obtain ⟨next, stepped, rest⟩ := bind_eq_ok.1 accepted
    exact ih (holds_accept held first stepped) others rest

/-- A value that is read holds what the tokens of the text bring. -/
theorem holds_of_read {source : String} {value : Json}
    (brought : ∀ token ∈ tokens source.toList, token.Holds text)
    (found : read .decimal source = .ok value) : value.Holds text := by
  have fresh : State.Holds text ⟨[], .value⟩ := ⟨List.forall_mem_nil _, trivial⟩
  obtain ⟨state, accepted, complete⟩ := bind_eq_ok.1 found
  have held := holds_acceptAll fresh brought accepted
  unfold result at complete
  split at complete
  next awaited =>
    cases complete
    have whole := held.expectation
    rw [awaited] at whole
    exact whole
  next => cases complete

end Arrears.Json
