import Arrears.Proofs.Decimal.Comparison
import Arrears.Proofs.Json.Contents
import Mathlib.Data.List.Forall2
import Mathlib.Data.List.Perm.Subperm

/-! Equality of data is transitive, and symmetric where an object has each key once. It is not
reflexive, since what is no number equals nothing. So values that one value equals are equal to
each other. -/

set_option autoImplicit false

namespace Arrears

/-! ## Numbers -/

namespace Decimal

theorem order?_eq_congr {first second : Decimal} (same : order? first second = some .eq) (other : Decimal) :
    order? first other = some .eq ↔ order? second other = some .eq := by
  cases first with
  | finite negative coefficient exponent =>
    cases second with
    | finite negative' coefficient' exponent' =>
      simp only [order?, compareFinite_eq, Option.some.injEq, compare_eq_iff_eq] at same
      cases other <;> simp [order?, compareFinite_eq, same]
    | infinite negative' => cases negative' <;> cases same
    | nan => cases same
  | infinite negative =>
    cases second with
    | finite => cases negative <;> cases same
    | infinite negative' => cases negative <;> cases negative' <;> cases same <;> exact Iff.rfl
    | nan => cases same
  | nan => cases second <;> cases same

end Decimal

namespace Number

theorem eqv_symm {first second : Number} (same : first.eqv second = true) : second.eqv first = true := by
  simp only [eqv, beq_iff_eq] at same ⊢
  rw [Decimal.order?_swap, same]
  rfl

theorem eqv_trans {first second third : Number} (same : first.eqv second = true)
    (also : second.eqv third = true) : first.eqv third = true := by
  simp only [eqv, beq_iff_eq] at same also ⊢
  exact (Decimal.order?_eq_congr same _).2 also

end Number

/-! ## Data -/

namespace Json

/-- What holds of a value if it holds of all that it is made of. -/
@[elab_as_elim]
theorem induct {holds : Json → Prop} (null : holds .null) (bool : ∀ b, holds (.bool b))
    (num : ∀ n, holds (.num n)) (str : ∀ s, holds (.str s))
    (arr : ∀ items, (∀ item ∈ items, holds item) → holds (.arr items))
    (obj : ∀ members, (∀ member ∈ members, holds member.2) → holds (.obj members))
    (value : Json) : holds value :=
  @Json.rec holds (fun items => ∀ item ∈ items, holds item)
    (fun members => ∀ member ∈ members, holds member.2) (fun member => holds member.2)
    null bool num str arr obj (List.forall_mem_nil _)
    (fun _ _ first rest => List.forall_mem_cons.2 ⟨first, rest⟩) (List.forall_mem_nil _)
    (fun _ _ first rest => List.forall_mem_cons.2 ⟨first, rest⟩) (fun _ _ held => held) value

variable {first second third : Json}

theorem eqv_null_iff : eqv null second = true ↔ second = null := by
  cases second <;> simp [eqv, number?]

theorem eqv_str_iff {s : String} : eqv (str s) second = true ↔ second = str s := by
  cases second with
  | str t =>
    rw [eqv_str, beq_iff_eq, str.injEq]
    exact eq_comm
  | _ => simp [eqv, number?]

theorem eqv_number_iff {n : Number} (number : first.number? = some n) :
    first.eqv second = true ↔ ∃ m, second.number? = some m ∧ n.eqv m = true := by
  cases first <;> simp only [number?, Option.some.injEq, reduceCtorEq] at number <;> subst number <;>
    cases second <;> simp [eqv, number?]

theorem eqvItems_iff {items others : List Json} :
    eqvItems items others = true ↔ List.Forall₂ (fun item other => eqv item other = true) items others := by
  induction items generalizing others with
  | nil => cases others <;> simp [eqvItems]
  | cons item items ih => cases others <;> simp [eqvItems, ih]

theorem eqv_arr_iff {items : List Json} : eqv (arr items) second = true ↔
    ∃ others, second = arr others ∧ List.Forall₂ (fun item other => eqv item other = true) items others := by
  cases second <;> simp [eqv, number?, eqvItems_iff]

theorem eqvMembers_iff {members others : List (String × Json)} : eqvMembers members others = true ↔
    ∀ member ∈ members, ∃ other, Assoc.get? member.1 others = some other ∧ eqv member.2 other = true := by
  induction members with
  | nil => simp [eqvMembers]
  | cons member members ih =>
    obtain ⟨key, value⟩ := member
    rw [eqvMembers, Bool.and_eq_true, ih, List.forall_mem_cons]
    refine and_congr_left fun _ => ?_
    cases Assoc.get? key others <;> simp

theorem eqv_obj_iff {members : List (String × Json)} : eqv (obj members) second = true ↔
    ∃ others, second = obj others ∧ members.length = others.length ∧
      ∀ member ∈ members, ∃ other, Assoc.get? member.1 others = some other ∧ eqv member.2 other = true := by
  cases second <;> simp [eqv, number?, eqvMembers_iff]

theorem eqv_trans (same : first.eqv second = true) (also : second.eqv third = true) :
    first.eqv third = true := by
  have numbers {first second third : Json} {n : Number} (number : first.number? = some n)
      (same : first.eqv second = true) (also : second.eqv third = true) : first.eqv third = true := by
    obtain ⟨m, second_number, same⟩ := (eqv_number_iff number).1 same
    obtain ⟨k, third_number, also⟩ := (eqv_number_iff second_number).1 also
    exact (eqv_number_iff number).2 ⟨k, third_number, Number.eqv_trans same also⟩
  induction first using induct generalizing second third with
  | null => rwa [eqv_null_iff.1 same] at also
  | bool b => exact numbers rfl same also
  | num n => exact numbers rfl same also
  | str s => rwa [eqv_str_iff.1 same] at also
  | arr items ih =>
    obtain ⟨others, rfl, each⟩ := eqv_arr_iff.1 same
    obtain ⟨more, rfl, each_also⟩ := eqv_arr_iff.1 also
    refine eqv_arr_iff.2 ⟨more, rfl, ?_⟩
    clear same also
    induction each generalizing more with
    | nil => exact each_also
    | cons one each step =>
      obtain ⟨first_ih, rest_ih⟩ := List.forall_mem_cons.1 ih
      cases each_also with
      | cons one_also each_also => exact .cons (first_ih one one_also) (step rest_ih _ each_also)
  | obj members ih =>
    obtain ⟨others, rfl, length, each⟩ := eqv_obj_iff.1 same
    obtain ⟨more, rfl, length_also, each_also⟩ := eqv_obj_iff.1 also
    refine eqv_obj_iff.2 ⟨more, rfl, length.trans length_also, ?_⟩
    intro member among
    obtain ⟨value, found, one⟩ := each member among
    obtain ⟨other, found_also, one_also⟩ := each_also _ (Assoc.mem_of_get? found)
    exact ⟨other, found_also, ih member among one one_also⟩

theorem keys_perm_of_found {members others : List (String × Json)} (once : (Assoc.keys members).Nodup)
    (length : members.length = others.length)
    (found : ∀ member ∈ members, ∃ other, Assoc.get? member.1 others = some other) :
    (Assoc.keys members).Perm (Assoc.keys others) := by
  have subset : Assoc.keys members ⊆ Assoc.keys others := by
    intro key member
    obtain ⟨pair, among, rfl⟩ := List.mem_map.1 member
    obtain ⟨other, got⟩ := found pair among
    exact List.mem_map.2 ⟨(pair.1, other), Assoc.mem_of_get? got, rfl⟩
  refine (once.subperm subset).perm_of_length_le ?_
  simp [Assoc.keys, length]

theorem eqv_symm {text : String → Prop} (held : first.Holds text) (same : first.eqv second = true) :
    second.eqv first = true := by
  have numbers {first second : Json} {n : Number} (number : first.number? = some n)
      (same : first.eqv second = true) : second.eqv first = true := by
    obtain ⟨m, second_number, same⟩ := (eqv_number_iff number).1 same
    exact (eqv_number_iff second_number).2 ⟨n, number, Number.eqv_symm same⟩
  induction first using induct generalizing second with
  | null => rw [eqv_null_iff.1 same]; rfl
  | bool b => exact numbers rfl same
  | num n => exact numbers rfl same
  | str s => rw [eqv_str_iff.1 same, eqv_str, beq_self_eq_true]
  | arr items ih =>
    obtain ⟨others, rfl, each⟩ := eqv_arr_iff.1 same
    refine eqv_arr_iff.2 ⟨items, rfl, ?_⟩
    replace held : ∀ item ∈ items, item.Holds text := itemsHold_iff.1 held
    clear same
    induction each with
    | nil => exact .nil
    | cons one each step =>
      obtain ⟨first_ih, rest_ih⟩ := List.forall_mem_cons.1 ih
      obtain ⟨first_held, rest_held⟩ := List.forall_mem_cons.1 held
      exact .cons (first_ih first_held one) (step rest_ih rest_held)
  | obj members ih =>
    obtain ⟨others, rfl, length, each⟩ := eqv_obj_iff.1 same
    obtain ⟨once, of_members⟩ := held
    have keys := keys_perm_of_found once length fun member among => (each member among).imp fun _ => And.left
    refine eqv_obj_iff.2 ⟨members, rfl, length.symm, ?_⟩
    rintro ⟨key, other⟩ among
    -- the key is one of the first object as well, and is found in the second with this value only
    obtain ⟨value, found⟩ := Assoc.exists_get? (keys.mem_iff.2 (List.mem_map_of_mem among))
    have member := Assoc.mem_of_get? found
    obtain ⟨other', found', one⟩ := each _ member
    cases Option.some.inj (found'.symm.trans (Assoc.get?_of_mem (keys.nodup_iff.1 once) among))
    exact ⟨value, found, ih _ member (holds_of_mem of_members member) one⟩

theorem eqv_of_common {text : String → Prop} (held : first.Holds text) (same : first.eqv second = true)
    (also : first.eqv third = true) : second.eqv third = true :=
  eqv_trans (eqv_symm held same) also

end Json

end Arrears
