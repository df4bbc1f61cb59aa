import Arrears.Proofs.Json.Contents

/-! Reading keeps fractions exact: with fractions read as decimal numbers no finite binary number
arises, since no token brings one. -/

set_option autoImplicit false

namespace Arrears.Json

variable {text : String → Prop}

/-- Tokens of whose texts something holds, and none of which is a finite binary number. -/
def Bring (text : String → Prop) (tokens : List Token) : Prop := ∀ token ∈ tokens, token.Holds text

theorem Bring.nil : Bring text [] := List.forall_mem_nil _

theorem Bring.one {token : Token} (held : token.Holds text) : Bring text [token] :=
  fun _ member => List.mem_singleton.1 member ▸ held

theorem Bring.append {left right : List Token} (first : Bring text left)
    (second : Bring text right) : Bring text (left ++ right) := by
  intro token member
  rcases List.mem_append.1 member with before | behind
  · exact first token before
  · exact second token behind

/-! ## Atoms bring no texts -/

theorem bring_numberTokens (cs : List Char) : Bring text (numberTokens cs) := by
  have bad : Bring text [.bad] := .one trivial
  unfold numberTokens
  split
  next => exact bad
  next =>
    dsimp only
    split
    next =>
      apply Bring.one
      split
      next => exact trivial
      next => split <;> exact trivial
    next =>
      refine Bring.append (.one ?_) bad
      split
      next => exact trivial
      next => split <;> exact trivial

theorem bring_atomTokens (cs : List Char) : Bring text (atomTokens cs) := by
  unfold atomTokens
  -- six words have tokens of their own, all else is read as a number
  iterate 6
    split
    next => exact .one trivial
  exact bring_numberTokens cs

theorem punctuation?_holds {c : Char} {token : Token} (mark : punctuation? c = some token) :
    token.Holds text := by
  unfold punctuation? at mark
  split at mark <;> cases mark <;> exact trivial

theorem bring_start (c : Char) : Bring text (start c).1 := by
  unfold start
  split
  next mark => exact .one (punctuation?_holds mark)
  next =>
    split
    next => exact .nil
    next => split <;> exact .nil

/-! ## Whole texts -/

theorem bring_step (mode : Mode) (c : Char) : Bring (fun _ => True) (step mode c).1 := by
  cases mode with
  | between => exact bring_start c
  | atom read =>
    unfold step
    dsimp only
    split
    next => exact .append (bring_atomTokens _) (bring_start c)
    next => exact .nil
  | text read high =>
    unfold step
    dsimp only
    split
    next => exact .nil
    next =>
      split
      next => exact .one trivial
      next => split <;> first | exact .one trivial | exact .nil
  | escape read high =>
    unfold step
    dsimp only
    split
    next => exact .nil
    next => split <;> first | exact .one trivial | exact .nil
  | code read high value count =>
    unfold step
    dsimp only
    split
    next => exact .one trivial
    next => split <;> exact .nil
  | stopped => exact .nil

theorem bring_tokensFrom (cs : List Char) (mode : Mode) :
    Bring (fun _ => True) (tokensFrom mode cs) := by
  induction cs generalizing mode with
  | nil =>
    cases mode with
    | atom read => exact bring_atomTokens _
    | between => exact .nil
    | stopped => exact .nil
    | _ => exact .one trivial
  | cons c cs ih => exact .append (bring_step mode c) (ih _)

end Arrears.Json
