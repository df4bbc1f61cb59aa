import Arrears.Yaml.Numeral
import Arrears.Yaml.TimeText

/-! What a node of YAML text stands for. A plain scalar shows it by its form, any other node by a
written tag or its kind. -/

set_option autoImplicit false

namespace Arrears.Yaml

inductive Tag where
  | null
  | bool
  | int
  | float
  | time
  | str
  | bytes
  | seq
  | map
  | set
  | pairs
  /-- A key whose mappings are taken into the mapping around it. -/
  | merge
  /-- A key for the value that a mapping has beside its entries. -/
  | value
  | unknown
  deriving DecidableEq, Repr

namespace Tag

def hasText : Tag → Bool
  | null | bool | int | float | time | str | bytes => true
  | seq | map | set | pairs | merge | value | unknown => false

def common : String := "tag:yaml.org,2002:"

def names : List (String × Tag) :=
  [("null", null), ("bool", bool), ("int", int), ("float", float), ("timestamp", time), ("str", str),
    ("binary", bytes), ("seq", seq), ("map", map), ("set", set), ("omap", pairs), ("pairs", pairs),
    ("merge", merge), ("value", value)]

def ofName (name : String) : Tag :=
  match names.find? fun entry => common ++ entry.1 == name with
  | some (_, tag) => tag
  | none => unknown

def trueWords : List String :=
  ["yes", "Yes", "YES", "true", "True", "TRUE", "on", "On", "ON"]

def falseWords : List String :=
  ["no", "No", "NO", "false", "False", "FALSE", "off", "Off", "OFF"]

def ofForm (cs : List Char) : Tag :=
  let word := String.ofList cs
  if (trueWords ++ falseWords).contains word then bool
  else if Numeral.isFloat cs then float
  else if Numeral.isInt cs then int
  else if word = "<<" then merge
  else if ["", "~", "null", "Null", "NULL"].contains word then null
  else if TimeText.isTime cs then time
  else if word = "=" then value
  else if ["!", "&", "*"].contains word then unknown
  else str

/-- What a scalar shows by its form. A line break at the end does not count. -/
def ofPlain (cs : List Char) : Tag := ofForm (unbroken cs)

end Tag

end Arrears.Yaml
