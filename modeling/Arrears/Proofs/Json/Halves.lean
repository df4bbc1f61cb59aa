import Arrears.Proofs.Json.Exactness
import Mathlib.Algebra.Group.Nat.Defs
import Mathlib.Data.List.Chain

/-! Halves of surrogate pairs in strings. A text in which no high half stands right before a low one
is read back as it is. A text of characters is such a text, and so is every string that is read
from one: what could be joined in it was joined as it was read. -/

set_option autoImplicit false

namespace Arrears.Text

/-- Code points of which no high half stands right before a low one. -/
def Apart (codes : List Nat) : Prop :=
  codes.IsChain fun first second => isHigh first = true → isLow second = false

def ofScalars (cs : List Char) : String := String.ofList (ofChars cs)

def IsScalar (s : String) : Prop := ∃ cs, s = ofScalars cs

theorem joined_of_apart {codes : List Nat} (apart : Apart codes) : joined codes = codes := by
  induction codes with
  | nil => rfl
  | cons first codes ih =>
    cases codes with
    | nil => rfl
    | cons second rest =>
      obtain ⟨next, others⟩ := List.isChain_cons_cons.1 apart
      have single : (isHigh first && isLow second) = false := by
        rw [Bool.and_eq_false_iff]
        cases above : isHigh first with
        | false => exact .inl rfl
        | true => exact .inr (next above)
      rw [joined, if_neg (Bool.eq_false_iff.1 single), ih others]

theorem codes_flatMap {cs : List Nat} (bounded : ∀ code ∈ cs, code < 0x110000) :
    codes (cs.flatMap ofCode) = cs := by
  induction cs with
  | nil => rfl
  | cons code cs ih =>
    obtain ⟨first, others⟩ := List.forall_mem_cons.1 bounded
    rw [List.flatMap_cons, codes_ofCode code first, ih others]

theorem reread_of_apart {cs : List Nat} (bounded : ∀ code ∈ cs, code < 0x110000) (apart : Apart cs) :
    reread (String.ofList (cs.flatMap ofCode)) = String.ofList (cs.flatMap ofCode) := by
  rw [reread, String.toList_ofList, codes_flatMap bounded, joined_of_apart apart]

theorem toNat_lt (c : Char) : c.toNat < 0x110000 := by
  have valid : c.toNat < 0xD800 ∨ 0xDFFF < c.toNat ∧ c.toNat < 0x110000 := c.valid
  omega

theorem reread_ofScalars (cs : List Char) : reread (ofScalars cs) = ofScalars cs := by
  have bounded : ∀ code ∈ cs.map Char.toNat, code < 0x110000 :=
    List.forall_mem_map.2 fun c _ => toNat_lt c
  have apart : Apart (cs.map Char.toNat) := by
    refine List.Pairwise.isChain (List.pairwise_map.2 (List.pairwise_of_forall ?_))
    intro first second above
    rw [isHigh_toNat] at above
    cases above
  have written : ofScalars cs = String.ofList ((cs.map Char.toNat).flatMap ofCode) := by
    rw [ofScalars, ofChars, List.flatMap_map]
  rw [written, reread_of_apart bounded apart]

theorem reread_of_isScalar {s : String} (scalar : IsScalar s) : reread s = s := by
  obtain ⟨cs, rfl⟩ := scalar
  exact reread_ofScalars cs

theorem ofChars_plain {cs : List Char} (plain : ∀ c ∈ cs, c ≠ mark) : ofChars cs = cs := by
  induction cs with
  | nil => rfl
  | cons c cs ih =>
    obtain ⟨first, others⟩ := List.forall_mem_cons.1 plain
    have rest : cs.flatMap (fun c => ofCode c.toNat) = cs := ih others
    rw [ofChars, List.flatMap_cons, ofCode_toNat first, rest, List.singleton_append]

theorem isScalar_of_all {s : String} (plain : s.toList.all (· != mark) = true) : IsScalar s := by
  refine ⟨s.toList, ?_⟩
  rw [ofScalars, ofChars_plain fun c member => bne_iff_ne.1 (List.all_eq_true.1 plain c member),
    String.ofList_toList]

end Arrears.Text

namespace Arrears.Json

open Text

/-! ## Reading a string -/

/-- What has been read, the last character first, is the written form of code points that are apart. -/
structure Spells (read : List Char) (codes : List Nat) : Prop where
  written : read.reverse = codes.flatMap ofCode
  bounded : ∀ code ∈ codes, code < 0x110000
  apart : Apart codes

/-- A string that is being read: only a high half that waits may be joined to what comes. -/
structure Opened (read : List Char) (high : Option Nat) (codes : List Nat) : Prop where
  spells : Spells read codes
  waiting : ∀ unit ∈ high, isHigh unit = true
  settled : high = none → ∀ last ∈ codes.getLast?, isHigh last = false

theorem Opened.start : Opened [] none [] :=
  ⟨⟨rfl, List.forall_mem_nil _, .nil⟩, nofun, fun _ _ last => nomatch last⟩

theorem Spells.reread {read : List Char} {codes : List Nat} (spells : Spells read codes) :
    Text.reread (String.ofList read.reverse) = String.ofList read.reverse := by
  rw [spells.written, reread_of_apart spells.bounded spells.apart]

theorem Spells.push {read : List Char} {codes : List Nat} {code : Nat} (spells : Spells read codes)
    (bound : code < 0x110000)
    (next : isLow code = true → ∀ last ∈ codes.getLast?, isHigh last = false) :
    Spells (push code read) (codes ++ [code]) where
  written := by
    rw [push_eq, List.reverse_append, List.reverse_reverse, spells.written, List.flatMap_append,
      List.flatMap_singleton]
  bounded := List.forall_mem_append.2 ⟨spells.bounded, List.forall_mem_singleton.2 bound⟩
  apart := by
    refine spells.apart.append (.singleton code) ?_
    intro last at_end other same above
    cases Option.some.inj same
    cases below : isLow code with
    | false => rfl
    | true =>
      rw [next below last at_end] at above
      cases above

theorem isHigh_lt {unit : Nat} (high : isHigh unit = true) : unit < 0x110000 := by
  simp only [isHigh, Bool.and_eq_true, decide_eq_true_eq] at high
  omega

/-- A high half that waits comes to stand behind what was read. -/
theorem Opened.settle {read : List Char} {high : Option Nat} {codes : List Nat}
    (opened : Opened read high codes) : Spells (settle read high) (codes ++ high.toList) := by
  cases high with
  | none => rw [Option.toList_none, List.append_nil]; exact opened.spells
  | some unit =>
    have above := opened.waiting unit rfl
    refine opened.spells.push (isHigh_lt above) fun below => ?_
    rw [isLow_of_isHigh above] at below
    cases below

theorem Opened.half {read : List Char} {codes : List Nat} {unit : Nat} (spells : Spells read codes)
    (above : isHigh unit = true) : Opened read (some unit) codes where
  spells := spells
  waiting := fun _ same => Option.some.inj same ▸ above
  settled := by
    intro none
    cases none

theorem Opened.push {read : List Char} {codes : List Nat} {code : Nat} (spells : Spells read codes)
    (bound : code < 0x110000)
    (next : isLow code = true → ∀ last ∈ codes.getLast?, isHigh last = false)
    (notHigh : isHigh code = false) : Opened (Json.push code read) none (codes ++ [code]) where
  spells := spells.push bound next
  waiting := by
    intro unit some
    cases some
  settled := by
    intro _ last at_end
    rw [List.getLast?_concat] at at_end
    cases at_end
    exact notHigh

theorem Opened.single {read : List Char} {codes : List Nat} {code : Nat} (spells : Spells read codes)
    (bound : code < 0x110000) (notLow : isLow code = false) (notHigh : isHigh code = false) :
    Opened (Json.push code read) none (codes ++ [code]) :=
  .push spells bound (fun below => by rw [notLow] at below; cases below) notHigh

def Mode.Settled : Mode → Prop
  | .text read high => ∃ codes, Opened read high codes
  | .escape read high => ∃ codes, Opened read high codes
  | .code read high value count => (∃ codes, Opened read high codes) ∧ count ≤ 3 ∧ value < 16 ^ count
  | _ => True

theorem settled_character {read : List Char} {high : Option Nat} {codes : List Nat}
    (opened : Opened read high codes) (c : Char) :
    (Mode.text (push c.toNat (settle read high)) none).Settled :=
  ⟨_, Opened.single opened.settle (toNat_lt c) (isLow_toNat c) (isHigh_toNat c)⟩

theorem settled_afterUnit {read : List Char} {high : Option Nat} {codes : List Nat} {unit : Nat}
    (opened : Opened read high codes) (bound : unit < 0x10000) :
    (afterUnit read high unit).Settled := by
  have room : unit < 0x110000 := by omega
  cases high with
  | none =>
    unfold afterUnit
    dsimp only
    split
    next above =>
      exact ⟨codes, .half opened.spells above⟩
    next notHigh =>
      have settled := opened.settled rfl
      exact ⟨_, .push opened.spells room (fun _ => settled) (Bool.eq_false_iff.2 notHigh)⟩
  | some first =>
    have above := opened.waiting first rfl
    have behind := opened.settle
    unfold afterUnit
    dsimp only
    split
    next below =>
      -- the two halves are read as one character
      simp only [isHigh, isLow, Bool.and_eq_true, decide_eq_true_eq] at above below
      refine ⟨_, Opened.single opened.spells ?_ ?_ ?_⟩
      · omega
      · simp only [isLow, Bool.and_eq_false_iff, decide_eq_false_iff_not]; omega
      · simp only [isHigh, Bool.and_eq_false_iff, decide_eq_false_iff_not]; omega
    next notLow =>
      split
      next again => exact ⟨_, .half behind again⟩
      next notHigh =>
        exact ⟨_, Opened.single behind room (Bool.eq_false_iff.2 notLow) (Bool.eq_false_iff.2 notHigh)⟩

theorem hexValue?_lt {c : Char} {digit : Nat} (found : hexValue? c = some digit) : digit < 16 := by
  unfold hexValue? at found
  split at found
  next isDigit =>
    have bounds := Decimal.digit_bounds isDigit
    cases found
    simp only [Char.reduceToNat]
    omega
  next =>
    split at found
    next letter =>
      have upper : c.toNat ≤ 'f'.toNat := letter.2
      cases found
      simp only [Char.reduceToNat] at upper ⊢
      omega
    next =>
      split at found
      next letter =>
        have upper : c.toNat ≤ 'F'.toNat := letter.2
        cases found
        simp only [Char.reduceToNat] at upper ⊢
        omega
      next => cases found

theorem escaped?_plain {c letter : Char} (meant : escaped? c = some letter) : letter ≠ mark := by
  unfold escaped? at meant
  split at meant <;> cases meant <;> decide

/-! ## Texts of characters -/

abbrev Settle (tokens : List Token) : Prop := Bring (fun s => Text.reread s = s) tokens

theorem settled_start (c : Char) : (start c).2.Settled := by
  unfold start
  split
  next => exact trivial
  next =>
    split
    next => exact trivial
    next =>
      split
      next => exact ⟨_, .start⟩
      next => exact trivial

theorem settle_step {mode : Mode} (settled : mode.Settled) {c : Char} (plain : c ≠ mark) :
    Settle (step mode c).1 ∧ (step mode c).2.Settled := by
  cases mode with
  | between => exact ⟨bring_start c, settled_start c⟩
  | atom read =>
    unfold step
    dsimp only
    split
    next => exact ⟨.append (bring_atomTokens _) (bring_start c), settled_start c⟩
    next => exact ⟨.nil, trivial⟩
  | text read high =>
    obtain ⟨codes, opened⟩ := settled
    unfold step
    dsimp only
    split
    next => exact ⟨.nil, codes, opened⟩
    next =>
      split
      next => exact ⟨.one opened.settle.reread, trivial⟩
      next =>
        split
        next => exact ⟨.one trivial, trivial⟩
        next =>
          rw [← push_toNat plain]
          exact ⟨.nil, settled_character opened c⟩
  | escape read high =>
    obtain ⟨codes, opened⟩ := settled
    unfold step
    dsimp only
    split
    next => exact ⟨.nil, ⟨codes, opened⟩, Nat.zero_le 3, Nat.one_pos⟩
    next =>
      split
      next letter meant =>
        rw [← push_toNat (escaped?_plain meant)]
        exact ⟨.nil, settled_character opened letter⟩
      next => exact ⟨.one trivial, trivial⟩
  | code read high value count =>
    obtain ⟨⟨codes, opened⟩, digits, bound⟩ := settled
    unfold step
    dsimp only
    split
    next => exact ⟨.one trivial, trivial⟩
    next digit meant =>
      have single := hexValue?_lt meant
      split
      next last =>
        subst last
        exact ⟨.nil, settled_afterUnit opened (by omega)⟩
      next more =>
        refine ⟨.nil, ⟨codes, opened⟩, by omega, ?_⟩
        rw [Nat.pow_succ]
        omega
  | stopped => exact ⟨.nil, trivial⟩

/-- The mark stands for itself where it is written twice, inside a string alone. -/
theorem settle_marks {mode : Mode} (settled : mode.Settled) :
    Settle ((step mode mark).1 ++ (step (step mode mark).2 mark).1) ∧
      (step (step mode mark).2 mark).2.Settled := by
  cases mode with
  | between => exact ⟨.nil, trivial⟩
  | atom read => exact ⟨.nil, trivial⟩
  | text read high =>
    obtain ⟨codes, opened⟩ := settled
    exact ⟨.nil, settled_character opened mark⟩
  | escape read high => exact ⟨.one trivial, trivial⟩
  | code read high value count => exact ⟨.one trivial, trivial⟩
  | stopped => exact ⟨.nil, trivial⟩

theorem settle_finish {mode : Mode} : Settle (finish mode) := by
  cases mode with
  | atom read => exact bring_atomTokens _
  | between => exact .nil
  | stopped => exact .nil
  | _ => exact .one trivial

theorem settle_tokensFrom (cs : List Char) {mode : Mode} (settled : mode.Settled) :
    Settle (tokensFrom mode (ofChars cs)) := by
  induction cs generalizing mode with
  | nil => exact settle_finish
  | cons c cs ih =>
    rw [ofChars, List.flatMap_cons]
    by_cases same : c = mark
    · subst same
      obtain ⟨brought, after⟩ := settle_marks settled
      have twice : ofCode mark.toNat = [mark, mark] := rfl
      rw [twice]
      simp only [List.cons_append, List.nil_append, tokensFrom]
      rw [← List.append_assoc]
      exact .append brought (ih after)
    · obtain ⟨brought, after⟩ := settle_step settled same
      rw [ofCode_toNat same]
      exact .append brought (ih after)

/-- The strings in a text of characters are read so that they are read back as they are. -/
theorem settle_ofScalars (cs : List Char) : Settle (tokens (ofScalars cs).toList) := by
  rw [ofScalars, String.toList_ofList]
  exact settle_tokensFrom cs trivial

end Arrears.Json
