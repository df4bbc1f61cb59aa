import Arrears.Json.Token
import Arrears.Json.Writer

/-! Strings of JSON text, written and read back. Each code point is read as it was written, but two
halves of a surrogate pair that were written next to each other become the one character they
stand for. Text of characters alone comes back as it was. -/

set_option autoImplicit false

namespace Arrears.Text

/-- Code points with each high half joined to a low one right behind it. -/
def joined : List Nat → List Nat
  | [] => []
  | [code] => [code]
  | first :: second :: rest =>
    if isHigh first && isLow second then
      (0x10000 + (first - 0xD800) * 0x400 + (second - 0xDC00)) :: joined rest
    else first :: joined (second :: rest)

def reread (s : String) : String := String.ofList ((joined (codes s.toList)).flatMap ofCode)

theorem isLow_of_isHigh {code : Nat} (high : isHigh code = true) : isLow code = false := by
  simp only [isHigh, isLow, Bool.and_eq_true, decide_eq_true_eq, Bool.and_eq_false_iff,
    decide_eq_false_iff_not] at high ⊢
  omega

theorem joined_cons {code : Nat} (single : isHigh code = false) (rest : List Nat) :
    joined (code :: rest) = code :: joined rest := by
  cases rest with
  | nil => rfl
  | cons next rest => simp [joined, single]

theorem joined_high {code next : Nat} (single : isLow next = false) (rest : List Nat) :
    joined (code :: next :: rest) = code :: joined (next :: rest) := by
  simp [joined, single]

theorem isHalf_toNat (c : Char) : isHalf c.toNat = false := by
  have valid : c.toNat < 0xD800 ∨ 0xDFFF < c.toNat ∧ c.toNat < 0x110000 := c.valid
  simp only [isHalf, isHigh, isLow, Bool.or_eq_false_iff, Bool.and_eq_false_iff,
    decide_eq_false_iff_not]
  omega

theorem isHigh_toNat (c : Char) : isHigh c.toNat = false :=
  (Bool.or_eq_false_iff.1 (isHalf_toNat c)).1

theorem isLow_toNat (c : Char) : isLow c.toNat = false :=
  (Bool.or_eq_false_iff.1 (isHalf_toNat c)).2

theorem ofCode_toNat {c : Char} (plain : c ≠ mark) : ofCode c.toNat = [c] := by
  have other : c.toNat ≠ mark.toNat := fun same => plain (Char.toNat_inj.1 same)
  simp [ofCode, isHalf_toNat, other, Char.ofNat_toNat]

theorem codes_lt : ∀ cs : List Char, ∀ code ∈ codes cs, code < 0x110000
  | [], _, member => absurd member List.not_mem_nil
  | [c], code, member => by
    have valid : c.toNat < 0xD800 ∨ 0xDFFF < c.toNat ∧ c.toNat < 0x110000 := c.valid
    cases List.mem_singleton.1 member
    omega
  | c :: d :: rest, code, member => by
    have first : c.toNat < 0xD800 ∨ 0xDFFF < c.toNat ∧ c.toNat < 0x110000 := c.valid
    have second : d.toNat < 0xD800 ∨ 0xDFFF < d.toNat ∧ d.toNat < 0x110000 := d.valid
    unfold codes at member
    split at member
    · rcases List.mem_cons.1 member with same | later
      · split at same <;> omega
      · exact codes_lt rest code later
    · rcases List.mem_cons.1 member with same | later
      · omega
      · exact codes_lt (d :: rest) code later

theorem reread_chars {cs : List Char} (plain : ∀ c ∈ cs, c ≠ mark) :
    (joined (codes cs)).flatMap ofCode = cs := by
  induction cs with
  | nil => rfl
  | cons c cs ih =>
    have first : c ≠ mark := plain c List.mem_cons_self
    rw [codes_cons first, joined_cons (isHigh_toNat c), List.flatMap_cons, ofCode_toNat first,
      ih fun d member => plain d (List.mem_cons_of_mem c member)]
    rfl

theorem reread_plain {s : String} (plain : ∀ c ∈ s.toList, c ≠ mark) : reread s = s := by
  rw [reread, reread_chars plain, String.ofList_toList]

theorem reread_of_all {s : String} (plain : s.toList.all (· != mark) = true) : reread s = s :=
  reread_plain fun c member => bne_iff_ne.1 (List.all_eq_true.1 plain c member)

end Arrears.Text

namespace Arrears.Json

open Text

theorem hexValue?_digitChar : ∀ n : Fin 16, hexValue? (Nat.digitChar n) = some n.val := by decide

theorem hexValue?_mod (n : Nat) : hexValue? (Nat.digitChar (n % 16)) = some (n % 16) :=
  hexValue?_digitChar ⟨n % 16, Nat.mod_lt n (by decide)⟩

theorem tokensFrom_unitChars (read : List Char) (high : Option Nat) {unit : Nat}
    (bound : unit < 0x10000) (rest : List Char) :
    tokensFrom (.text read high) (unitChars unit ++ rest) =
      tokensFrom (afterUnit read high unit) rest := by
  have value : 16 * (16 * (16 * (unit / 16 / 16 / 16 % 16) + unit / 16 / 16 % 16) + unit / 16 % 16)
      + unit % 16 = unit := by omega
  simp [unitChars, hex, tokensFrom, step, hexValue?_mod, value]

theorem push_toNat {c : Char} (plain : c ≠ mark) (read : List Char) : push c.toNat read = c :: read := by
  rw [push, ofCode_toNat plain]
  rfl

theorem afterUnit_toNat {c : Char} (plain : c ≠ mark) (read : List Char) (high : Option Nat) :
    afterUnit read high c.toNat = .text (c :: settle read high) none := by
  cases high <;> simp [afterUnit, isHigh_toNat, isLow_toNat, push_toNat plain, settle]

theorem tokensFrom_escaped {c d : Char} (escaped : escaped? c = some d) (notCode : c ≠ 'u')
    (plain : d ≠ mark) (read : List Char) (high : Option Nat) (rest : List Char) :
    tokensFrom (.text read high) ('\\' :: c :: rest) = tokensFrom (afterUnit read high d.toNat) rest := by
  rw [afterUnit_toNat plain]
  simp [tokensFrom, step, escaped, notCode]

theorem tokensFrom_shown {c : Char} (quote : c ≠ '"') (escape : c ≠ '\\') (shown : ¬ c < ' ')
    (plain : c ≠ mark) (read : List Char) (high : Option Nat) (rest : List Char) :
    tokensFrom (.text read high) (c :: rest) = tokensFrom (afterUnit read high c.toNat) rest := by
  rw [afterUnit_toNat plain]
  simp [tokensFrom, step, quote, escape, shown]

theorem tokensFrom_pair {code : Nat} (low : 0x10000 ≤ code) (bound : code < 0x110000)
    (read : List Char) (high : Option Nat) (rest : List Char) :
    tokensFrom (.text read high)
        (unitChars (0xD800 + (code - 0x10000) / 0x400) ++
          (unitChars (0xDC00 + (code - 0x10000) % 0x400) ++ rest)) =
      tokensFrom (afterUnit read high code) rest := by
  have joint : 0x10000 + (0xD800 + (code - 0x10000) / 0x400 - 0xD800) * 0x400 +
      (0xDC00 + (code - 0x10000) % 0x400 - 0xDC00) = code := by omega
  have first : isHigh (0xD800 + (code - 0x10000) / 0x400) = true := by
    simp only [isHigh, Bool.and_eq_true, decide_eq_true_eq]
    omega
  have notLow := isLow_of_isHigh first
  have second : isLow (0xDC00 + (code - 0x10000) % 0x400) = true := by
    simp only [isLow, Bool.and_eq_true, decide_eq_true_eq]
    omega
  have whole : isHigh code = false ∧ isLow code = false := by
    simp only [isHigh, isLow, Bool.and_eq_false_iff, decide_eq_false_iff_not]
    omega
  rw [tokensFrom_unitChars read high (by omega)]
  -- a half that already waits stays alone, as what follows is a high one
  cases high with
  | none =>
    simp only [afterUnit, first, whole.1, if_true]
    rw [tokensFrom_unitChars _ _ (by omega)]
    simp only [afterUnit, second, joint, if_true, Bool.false_eq_true, if_false]
  | some waiting =>
    simp only [afterUnit, first, notLow, whole.1, whole.2, if_true, Bool.false_eq_true, if_false]
    rw [tokensFrom_unitChars _ _ (by omega)]
    simp only [afterUnit, second, joint, if_true]

theorem tokensFrom_escapeChar (c : Char) (read : List Char) (high : Option Nat) (rest : List Char) :
    tokensFrom (.text read high) (escapeChar c ++ rest) =
      tokensFrom (afterUnit read high c.toNat) rest := by
  unfold escapeChar
  split
  next same =>
    rcases same with rfl | rfl <;> exact tokensFrom_escaped rfl (by decide) (by decide) ..
  next other =>
    rw [not_or] at other
    -- five control characters have a letter of their own
    iterate 5
      split
      next same =>
        subst same
        exact tokensFrom_escaped rfl (by decide) (by decide) ..
    split
    next shown =>
      have visible : ¬ c < ' ' := Char.not_lt.2 shown.1
      have plain : c ≠ mark := by
        rintro rfl
        exact absurd shown.2 (by decide)
      exact tokensFrom_shown other.1 other.2 visible plain ..
    next =>
      split
      next bound => exact tokensFrom_unitChars read high bound rest
      next beyond =>
        have valid : c.toNat < 0xD800 ∨ 0xDFFF < c.toNat ∧ c.toNat < 0x110000 := c.valid
        rw [List.append_assoc]
        exact tokensFrom_pair (by omega) (by omega) read high rest

/-- An escaped code point is read as it is; a half of a pair waits for the other. -/
theorem tokensFrom_escapeCode {code : Nat} (bound : code < 0x110000) (read : List Char)
    (high : Option Nat) (rest : List Char) :
    tokensFrom (.text read high) (escapeCode code ++ rest) =
      tokensFrom (afterUnit read high code) rest := by
  unfold escapeCode
  split
  next half =>
    simp only [isHalf, isHigh, isLow, Bool.or_eq_true, Bool.and_eq_true, decide_eq_true_eq] at half
    exact tokensFrom_unitChars read high (by omega) rest
  next whole =>
    simp only [isHalf, isHigh, isLow, Bool.or_eq_true, Bool.and_eq_true, decide_eq_true_eq] at whole
    have value := toNat_ofNat code (by unfold Nat.isValidChar; omega)
    rw [tokensFrom_escapeChar _ read high rest, value]

theorem push_eq (code : Nat) (read : List Char) : push code read = (ofCode code).reverse ++ read :=
  rfl

theorem tokensFrom_escapeCodes {cs : List Nat} (bound : ∀ code ∈ cs, code < 0x110000)
    (rest : List Char) (read : List Char) (high : Option Nat)
    (waiting : ∀ unit, high = some unit → isHigh unit = true) :
    tokensFrom (.text read high) (cs.flatMap escapeCode ++ '"' :: rest) =
      .str (String.ofList (read.reverse ++ (joined (high.toList ++ cs)).flatMap ofCode)) ::
        tokensFrom .between rest := by
  induction cs generalizing read high with
  | nil =>
    cases high <;> simp [tokensFrom, step, settle, push_eq, joined]
  | cons code cs ih =>
    have later : ∀ other ∈ cs, other < 0x110000 :=
      fun other member => bound other (List.mem_cons_of_mem code member)
    have none_waiting : ∀ unit, (none : Option Nat) = some unit → isHigh unit = true := nofun
    rw [List.flatMap_cons, List.append_assoc,
      tokensFrom_escapeCode (bound code List.mem_cons_self)]
    -- a high half waits for the next code point; a low one settles what waits
    by_cases above : isHigh code = true
    · have single := isLow_of_isHigh above
      have code_waiting : ∀ unit, some code = some unit → isHigh unit = true := by
        rintro unit same
        cases same
        exact above
      cases high with
      | none => simp [afterUnit, above, ih later _ _ code_waiting]
      | some first =>
        simp [afterUnit, above, single, ih later _ _ code_waiting, joined_high, push_eq]
    · rw [Bool.not_eq_true] at above
      cases high with
      | none => simp [afterUnit, above, ih later _ _ none_waiting, joined_cons, push_eq]
      | some first =>
        have first_high := waiting first rfl
        by_cases below : isLow code = true
        · simp [afterUnit, below, ih later _ _ none_waiting, joined, first_high, push_eq]
        · rw [Bool.not_eq_true] at below
          simp [afterUnit, above, below, ih later _ _ none_waiting, joined_high, joined_cons, push_eq]

/-- A written string is read back as one token. -/
theorem tokensFrom_stringChars (s : String) (rest : List Char) :
    tokensFrom .between (stringChars s ++ rest) = .str (reread s) :: tokensFrom .between rest := by
  have read := tokensFrom_escapeCodes (codes_lt s.toList) rest [] none nofun
  have opened : start '"' = ([], .text [] none) := by decide
  simp only [stringChars, List.cons_append, List.append_assoc, List.nil_append, tokensFrom, step,
    opened]
  exact read

end Arrears.Json
