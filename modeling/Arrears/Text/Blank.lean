/-! Blank characters: the white space of Unicode. `trim` cuts it off at both ends and nothing
else, and trimming twice is trimming once. -/

set_option autoImplicit false

namespace Arrears.Text

/-- Whether a character's code point lies in one of the runs, each given by its first and last. -/
def inRuns (runs : List (Nat × Nat)) (c : Char) : Bool :=
  runs.any fun run => decide (run.1 ≤ c.toNat) && decide (c.toNat ≤ run.2)

def blankRuns : List (Nat × Nat) :=
  [(0x09, 0x0D), (0x1C, 0x20), (0x85, 0x85), (0xA0, 0xA0), (0x1680, 0x1680), (0x2000, 0x200A),
    (0x2028, 0x2029), (0x202F, 0x202F), (0x205F, 0x205F), (0x3000, 0x3000)]

def isBlank (c : Char) : Bool := inRuns blankRuns c

/-- Blank characters that may surround a whole number: the four separators of files, groups,
records and units are not among them. -/
def isNumberBlank (c : Char) : Bool := isBlank c && !inRuns [(0x1C, 0x1F)] c

def trimWith (blank : Char → Bool) (cs : List Char) : List Char :=
  ((cs.dropWhile blank).reverse.dropWhile blank).reverse

def trim (cs : List Char) : List Char := trimWith isBlank cs

theorem trimWith_eq_self {blank : Char → Bool} {cs : List Char}
    (first : ∀ c, cs.head? = some c → blank c = false)
    (last : ∀ c, cs.getLast? = some c → blank c = false) : trimWith blank cs = cs := by
  have front : cs.dropWhile blank = cs := by
    cases cs with
    | nil => rfl
    | cons c rest => simp [List.dropWhile, first c rfl]
  have back : cs.reverse.dropWhile blank = cs.reverse := by
    cases same : cs.reverse with
    | nil => rfl
    | cons c rest =>
      have ending : cs.getLast? = some c := by
        rw [← List.head?_reverse, same]; rfl
      simp [List.dropWhile, last c ending]
  simp [trimWith, front, back]

theorem trimWith_trimWith (blank : Char → Bool) (cs : List Char) :
    trimWith blank (trimWith blank cs) = trimWith blank cs := by
  have front : ((cs.dropWhile blank).reverse.dropWhile blank).reverse <+: cs.dropWhile blank := by
    rw [← List.reverse_suffix, List.reverse_reverse]
    exact List.dropWhile_suffix blank
  apply trimWith_eq_self
  · intro c first
    obtain ⟨rest, whole⟩ := front
    have same : (cs.dropWhile blank).head? = some c := by
      rw [← whole, List.head?_append]
      simp only [trimWith] at first
      rw [first]; rfl
    have kept := List.head?_dropWhile_not blank cs
    rw [same] at kept
    exact kept
  · intro c last
    have kept := List.head?_dropWhile_not blank (cs.dropWhile blank).reverse
    rw [trimWith, List.getLast?_reverse] at last
    rw [last] at kept
    exact kept

theorem trim_trim (cs : List Char) : trim (trim cs) = trim cs := trimWith_trimWith isBlank cs

end Arrears.Text
