import Arrears.Proofs.Json.Halves

/-! Text that was read, written again. The two halves of a pair and the character that they make have one
written form. So what is read back is written as before, except for objects of which two keys become
one; and it is read back as it is from then on. -/

set_option autoImplicit false

namespace Arrears.Text

/-- A text of code points of which no high half stands right before a low one. -/
def Whole (s : String) : Prop :=
  ∃ cs, (∀ code ∈ cs, code < 0x110000) ∧ Apart cs ∧ s = String.ofList (cs.flatMap ofCode)

theorem reread_of_whole {s : String} (whole : Whole s) : reread s = s := by
  obtain ⟨cs, bounded, apart, rfl⟩ := whole
  exact reread_of_apart bounded apart

-- Closed to unification, which would count the differences down.
@[irreducible] def pairOf (first second : Nat) : Nat :=
  0x10000 + (first - 0xD800) * 0x400 + (second - 0xDC00)

theorem joined_pair {first second : Nat} (above : isHigh first = true) (below : isLow second = true)
    (rest : List Nat) : joined (first :: second :: rest) = pairOf first second :: joined rest := by
  have pair : (isHigh first && isLow second) = true := by rw [above, below, Bool.and_self]
  unfold pairOf
  simp only [joined, pair, if_true]

theorem pairOf_bounds {first second : Nat} (above : isHigh first = true) (below : isLow second = true) :
    0x10000 ≤ pairOf first second ∧ pairOf first second < 0x110000 := by
  simp only [isHigh, isLow, Bool.and_eq_true, decide_eq_true_eq] at above below
  unfold pairOf
  omega

theorem isHalf_of_beyond {code : Nat} (beyond : 0x10000 ≤ code) : isHalf code = false := by
  simp only [isHalf, isHigh, isLow, Bool.or_eq_false_iff, Bool.and_eq_false_iff, decide_eq_false_iff_not]
  omega

/-- A row of code points starts with a pair, or with one code point that its rest does not touch. -/
theorem joined_cases (first : Nat) (rest : List Nat) :
    (∃ second more, rest = second :: more ∧ isHigh first = true ∧ isLow second = true) ∨
      joined (first :: rest) = first :: joined rest ∧
        (isHigh first = true → ∀ second ∈ rest.head?, isLow second = false) := by
  cases rest with
  | nil => exact .inr ⟨rfl, fun _ => nofun⟩
  | cons second rest =>
    by_cases pair : isHigh first = true ∧ isLow second = true
    · exact .inl ⟨second, rest, rfl, pair⟩
    · refine .inr ⟨by simp [joined, pair], fun above other same => ?_⟩
      cases same
      exact Bool.eq_false_iff.2 fun below => pair ⟨above, below⟩

theorem isLow_head_joined {cs : List Nat} (notLow : ∀ code ∈ cs.head?, isLow code = false) :
    ∀ code ∈ (joined cs).head?, isLow code = false := by
  cases cs with
  | nil => exact notLow
  | cons first rest =>
    rcases joined_cases first rest with ⟨second, more, rfl, above, below⟩ | ⟨same, _⟩
    · rw [joined_pair above below]
      rintro code ⟨⟩
      exact (Bool.or_eq_false_iff.1 (isHalf_of_beyond (pairOf_bounds above below).1)).2
    · rw [same]
      rintro code ⟨⟩
      exact notLow first rfl

theorem apart_joined : ∀ cs : List Nat, Apart (joined cs)
  | [] => .nil
  | first :: rest => by
    rcases joined_cases first rest with ⟨second, more, rfl, above, below⟩ | ⟨same, alone⟩
    · have single := (Bool.or_eq_false_iff.1 (isHalf_of_beyond (pairOf_bounds above below).1)).1
      rw [joined_pair above below]
      refine List.isChain_cons.2 ⟨fun _ _ high => ?_, apart_joined more⟩
      rw [single] at high
      cases high
    · rw [same]
      exact List.isChain_cons.2
        ⟨fun second at_head above => isLow_head_joined (alone above) second at_head, apart_joined rest⟩

theorem joined_lt : ∀ {cs : List Nat}, (∀ code ∈ cs, code < 0x110000) → ∀ code ∈ joined cs, code < 0x110000
  | [], _ => List.forall_mem_nil _
  | first :: rest, bounded => by
    obtain ⟨bound, others⟩ := List.forall_mem_cons.1 bounded
    rcases joined_cases first rest with ⟨second, more, rfl, above, below⟩ | ⟨same, _⟩
    · rw [joined_pair above below]
      exact List.forall_mem_cons.2 ⟨(pairOf_bounds above below).2, joined_lt (List.forall_mem_cons.1 others).2⟩
    · rw [same]
      exact List.forall_mem_cons.2 ⟨bound, joined_lt others⟩

theorem codes_reread (s : String) : codes (reread s).toList = joined (codes s.toList) := by
  rw [reread, String.toList_ofList, codes_flatMap (joined_lt (codes_lt s.toList))]

theorem whole_reread (s : String) : Whole (reread s) :=
  ⟨joined (codes s.toList), joined_lt (codes_lt s.toList), apart_joined _, rfl⟩

end Arrears.Text

namespace Arrears.Json

open Text

/-! ## Strings -/

/-- A character beyond the first plane is escaped as its two halves are. -/
theorem escapeCode_pair {first second : Nat} (above : isHigh first = true) (below : isLow second = true) :
    escapeCode (pairOf first second) = escapeCode first ++ escapeCode second := by
  obtain ⟨beyond, bound⟩ := pairOf_bounds above below
  have value := toNat_ofNat (pairOf first second) (by unfold Nat.isValidChar; omega)
  -- no plain character lies beyond the first plane
  have other (c : Char) (plain : c.toNat < 0x10000) : Char.ofNat (pairOf first second) ≠ c := by
    rintro rfl
    omega
  have shown : ¬ Char.ofNat (pairOf first second) ≤ '~' := by
    intro visible
    have small : (Char.ofNat (pairOf first second)).toNat ≤ '~'.toNat := visible
    rw [value] at small
    simp only [Char.reduceToNat] at small
    omega
  have halves : isHalf first = true ∧ isHalf second = true :=
    ⟨Bool.or_eq_true_iff.2 (.inl above), Bool.or_eq_true_iff.2 (.inr below)⟩
  simp only [isHigh, isLow, Bool.and_eq_true, decide_eq_true_eq] at above below
  have front : 0xD800 + (pairOf first second - 0x10000) / 0x400 = first := by unfold pairOf; omega
  have back : 0xDC00 + (pairOf first second - 0x10000) % 0x400 = second := by unfold pairOf; omega
  rw [escapeCode, isHalf_of_beyond beyond, escapeCode, halves.1, escapeCode, halves.2]
  simp [escapeChar, other, shown, value, Nat.not_lt.2 beyond, front, back]

theorem flatMap_escapeCode_joined : ∀ cs : List Nat, (joined cs).flatMap escapeCode = cs.flatMap escapeCode
  | [] => rfl
  | first :: rest => by
    rcases joined_cases first rest with ⟨second, more, rfl, above, below⟩ | ⟨same, _⟩
    · rw [joined_pair above below, List.flatMap_cons, escapeCode_pair above below,
        flatMap_escapeCode_joined more, List.flatMap_cons, List.flatMap_cons, List.append_assoc]
    · rw [same, List.flatMap_cons, flatMap_escapeCode_joined rest, List.flatMap_cons]

theorem stringChars_reread (s : String) : stringChars (Text.reread s) = stringChars s := by
  rw [stringChars, codes_reread, flatMap_escapeCode_joined, stringChars]

/-! ## Values -/

mutual

/-- Data in which the keys of each object are still apart once they are read back. -/
def KeysApart : Json → Prop
  | arr items => ItemsKeysApart items
  | obj members => (Assoc.keys (rereadMembers members)).Nodup ∧ MembersKeysApart members
  | _ => True

def ItemsKeysApart : List Json → Prop
  | [] => True
  | item :: items => KeysApart item ∧ ItemsKeysApart items

def MembersKeysApart : List (String × Json) → Prop
  | [] => True
  | (_, value) :: members => KeysApart value ∧ MembersKeysApart members

end

mutual

/-- Data is written as it was once it has been read back. -/
theorem chars_reread : ∀ value : Json, KeysApart value → chars (reread value) = chars value
  | null, _ => rfl
  | bool _, _ => rfl
  | num _, _ => rfl
  | str s, _ => stringChars_reread s
  | arr [], _ => rfl
  | arr (item :: items), apart => by
    rw [reread, rereadItems, chars, chars_reread item apart.1, itemsChars_reread items apart.2, chars]
  | obj [], _ => rfl
  | obj ((key, value) :: members), apart => by
    rw [reread, Assoc.ofPairs_of_nodup apart.1, rereadMembers, chars, stringChars_reread,
      chars_reread value apart.2.1, membersChars_reread members apart.2.2, chars]

theorem itemsChars_reread : ∀ items : List Json, ItemsKeysApart items →
    itemsChars (rereadItems items) = itemsChars items
  | [], _ => rfl
  | item :: items, apart => by
    rw [rereadItems, itemsChars, chars_reread item apart.1, itemsChars_reread items apart.2, itemsChars]

theorem membersChars_reread : ∀ members : List (String × Json), MembersKeysApart members →
    membersChars (rereadMembers members) = membersChars members
  | [], _ => rfl
  | (key, value) :: members, apart => by
    rw [rereadMembers, membersChars, stringChars_reread, chars_reread value apart.1,
      membersChars_reread members apart.2, membersChars]

end

mutual

theorem hasNumber_reread {kind : Number → Bool} : ∀ value : Json, KeysApart value →
    hasNumber kind (reread value) = hasNumber kind value
  | null, _ => rfl
  | bool _, _ => rfl
  | num _, _ => rfl
  | str _, _ => rfl
  | arr items, apart => itemsHave_reread items apart
  | obj members, apart => by
    rw [reread, Assoc.ofPairs_of_nodup apart.1, hasNumber, membersHave_reread members apart.2, hasNumber]

theorem itemsHave_reread {kind : Number → Bool} : ∀ items : List Json, ItemsKeysApart items →
    itemsHave kind (rereadItems items) = itemsHave kind items
  | [], _ => rfl
  | item :: items, apart => by
    rw [rereadItems, itemsHave, hasNumber_reread item apart.1, itemsHave_reread items apart.2, itemsHave]

theorem membersHave_reread {kind : Number → Bool} : ∀ members : List (String × Json),
    MembersKeysApart members → membersHave kind (rereadMembers members) = membersHave kind members
  | [], _ => rfl
  | (_, value) :: members, apart => by
    rw [rereadMembers, membersHave, hasNumber_reread value apart.1, membersHave_reread members apart.2,
      membersHave]

end

/-! ## From then on -/

theorem membersHold_ofPairs {text : String → Prop} {members : List (String × Json)}
    (held : MembersHold text members) : MembersHold text (Assoc.ofPairs members) := by
  have onto (done : List (String × Json)) (held_done : MembersHold text done) :
      MembersHold text (members.foldl (fun map member => Assoc.put member.1 member.2 map) done) := by
    induction members generalizing done with
    | nil => exact held_done
    | cons member members ih => exact ih held.2.2 _ (membersHold_put held.1 held.2.1 held_done)
  exact onto [] trivial

mutual

theorem holds_reread : ∀ value : Json, hasFloat value = false → Holds Whole (reread value)
  | null, _ => trivial
  | bool _, _ => trivial
  | num (.int _), _ => trivial
  | num (.decimal _), _ => trivial
  | num (.binary (.infinite _)), _ => trivial
  | num (.binary .nan), _ => trivial
  | str s, _ => whole_reread s
  | arr items, whole => itemsHold_reread items whole
  | obj members, whole =>
    ⟨Assoc.nodup_keys_ofPairs _, membersHold_ofPairs (membersHold_reread members whole)⟩

theorem itemsHold_reread : ∀ items : List Json, itemsHave Number.isFloat items = false →
    ItemsHold Whole (rereadItems items)
  | [], _ => trivial
  | item :: items, whole => by
    obtain ⟨first, others⟩ := Bool.or_eq_false_iff.1 whole
    exact ⟨holds_reread item first, itemsHold_reread items others⟩

theorem membersHold_reread : ∀ members : List (String × Json), membersHave Number.isFloat members = false →
    MembersHold Whole (rereadMembers members)
  | [], _ => trivial
  | (key, value) :: members, whole => by
    obtain ⟨first, others⟩ := Bool.or_eq_false_iff.1 whole
    exact ⟨whole_reread key, holds_reread value first, membersHold_reread members others⟩

end

end Arrears.Json
