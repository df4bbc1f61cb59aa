/-! Capital letters, as far as names of plain Latin letters need them: a name that is compared
with one of these can match only through the letters whose capitals are plain Latin ones. -/

set_option autoImplicit false

namespace Arrears.Text

/-- The capital form of a letter whose capitals are plain Latin letters; all else stays. -/
def capital (c : Char) : List Char :=
  if 'a' ≤ c ∧ c ≤ 'z' then [Char.ofNat (c.toNat - 32)] else
    match c with
    | 'ß' => ['S', 'S']
    | 'ı' => ['I']
    | 'ſ' => ['S']
    | 'ﬀ' => ['F', 'F']
    | 'ﬁ' => ['F', 'I']
    | 'ﬂ' => ['F', 'L']
    | 'ﬃ' => ['F', 'F', 'I']
    | 'ﬄ' => ['F', 'F', 'L']
    | 'ﬅ' => ['S', 'T']
    | 'ﬆ' => ['S', 'T']
    | _ => [c]

def upper (cs : List Char) : List Char := cs.flatMap capital

end Arrears.Text
