/-! Texts by their code points. Characters cover all code points but the halves of surrogate pairs,
which data may hold alone. A half is written as a mark with a private character behind it, and the
mark itself twice, so that every row of code points has a written form that tells it from all
others. -/

set_option autoImplicit false

namespace Arrears.Text

/-- Stands in front of what is no character. -/
def mark : Char := Char.ofNat 0x10FFFF

def isHigh (code : Nat) : Bool := decide (0xD800 ≤ code) && decide (code < 0xDC00)
def isLow (code : Nat) : Bool := decide (0xDC00 ≤ code) && decide (code < 0xE000)
def isHalf (code : Nat) : Bool := isHigh code || isLow code

def ofCode (code : Nat) : List Char :=
  if isHalf code then [mark, Char.ofNat (code + 0x800)]
  else if code = mark.toNat then [mark, mark]
  else [Char.ofNat code]

def codes : List Char → List Nat
  | [] => []
  | [c] => [c.toNat]
  | c :: d :: rest =>
    if c = mark then (if d = mark then d.toNat else d.toNat - 0x800) :: codes rest
    else c.toNat :: codes (d :: rest)

def ofChars (cs : List Char) : List Char := cs.flatMap fun c => ofCode c.toNat

def hasHalf (cs : List Char) : Bool := (codes cs).any isHalf

def precedes (s t : String) : Bool :=
  !(codes t.toList).lex (codes s.toList) fun c d => decide (c < d)

theorem codes_cons {c : Char} (plain : c ≠ mark) (cs : List Char) :
    codes (c :: cs) = c.toNat :: codes cs := by
  cases cs with
  | nil => rfl
  | cons d rest => simp [codes, plain]

theorem toNat_ofNat (code : Nat) (valid : code.isValidChar) : (Char.ofNat code).toNat = code := by
  have within : Char.ofNat code = Char.ofNatAux code valid := dif_pos valid
  rw [within]
  rfl

theorem codes_ofCode (code : Nat) (bound : code < 0x110000) (rest : List Char) :
    codes (ofCode code ++ rest) = code :: codes rest := by
  have last : mark.toNat = 0x10FFFF := rfl
  unfold ofCode
  split
  next half =>
    simp only [isHalf, isHigh, isLow, Bool.or_eq_true, Bool.and_eq_true, decide_eq_true_eq] at half
    have value := toNat_ofNat (code + 0x800) (by unfold Nat.isValidChar; omega)
    have other : Char.ofNat (code + 0x800) ≠ mark := fun same => by
      rw [same, last] at value
      omega
    simp [codes, other, value]
  next whole =>
    split
    next same => rw [same]; rfl
    next other =>
      simp only [isHalf, isHigh, isLow, Bool.or_eq_true, Bool.and_eq_true, decide_eq_true_eq] at whole
      have value := toNat_ofNat code (by unfold Nat.isValidChar; omega)
      have plain : Char.ofNat code ≠ mark := fun same => other (by rw [← same, value])
      rw [List.singleton_append, codes_cons plain, value]

end Arrears.Text
