import Arrears.Calendar.Moment
import Arrears.Json.Basic
import Arrears.Text.Base64

/-! Values in the shape of YAML: those of JSON, dates and times, bytes, sets, lists of pairs, and
mappings whose keys may be any value. Messages show a text as it is and other values by their
literals. -/

set_option autoImplicit false

namespace Arrears

inductive Yaml where
  | null
  | bool (b : Bool)
  | num (n : Number)
  | str (s : String)
  | date (day : Date)
  | time (stamp : Timestamp)
  | seq (items : List Yaml)
  | map (entries : List (Yaml × Yaml))
  | bytes (row : List UInt8)
  | set (items : List Yaml)
  | pairs (entries : List (Yaml × Yaml))
  /-- A mapping or a list that has come up inside itself. -/
  | again (isMap : Bool)
  deriving Repr, Inhabited

namespace Yaml

mutual

def ofJson : Json → Yaml
  | .null => null
  | .bool b => bool b
  | .num n => num n
  | .str s => str s
  | .arr items => seq (ofItems items)
  | .obj members => map (ofMembers members)

def ofItems : List Json → List Yaml
  | [] => []
  | item :: items => ofJson item :: ofItems items

def ofMembers : List (String × Json) → List (Yaml × Yaml)
  | [] => []
  | (key, value) :: members => (str key, ofJson value) :: ofMembers members

end

def isText (text : String) : Yaml → Bool
  | str s => s == text
  | _ => false

def lookup? (key : String) : List (Yaml × Yaml) → Option Yaml
  | [] => none
  | (str k, value) :: entries => if k = key then some value else lookup? key entries
  | _ :: entries => lookup? key entries

def isVacant : Yaml → Bool
  | null => true
  | bool b => !b
  | num n => n.isZero
  | str s => s.isEmpty
  | seq items | set items => items.isEmpty
  | map entries | pairs entries => entries.isEmpty
  | bytes row => row.isEmpty
  | date _ | time _ | again _ => false

def spelling : Binary64.Spelling := ⟨"inf", "nan"⟩

/-- A number as it is written. There is no limit on the digits of a whole one. -/
def numberText : Number → String
  | .int n => toString n
  | .binary x => String.ofList (x.chars spelling)
  | .decimal d => d.toText

def dateParts (date : Date) : String :=
  ", ".intercalate [toString date.year, toString date.month, toString date.day]

def clockParts (micros : Int) : Int × Int × Int × Int :=
  (micros / 3600000000, micros / 60000000 % 60, micros / 1000000 % 60, micros % 1000000)

/-- Seconds and microseconds are left out from the end as far as they are zero. -/
def clockLiteral (micros : Int) : String :=
  let (hour, minute, second, micro) := clockParts micros
  let parts :=
    if micro ≠ 0 then [hour, minute, second, micro]
    else if second ≠ 0 then [hour, minute, second]
    else [hour, minute]
  ", ".intercalate (parts.map toString)

def spanLiteral (micros : Int) : String :=
  let days := micros / dayMicros
  let seconds := micros % dayMicros / 1000000
  let micro := micros % 1000000
  let parts := [("days", days), ("seconds", seconds), ("microseconds", micro)].filter (·.2 != 0)
  if parts.isEmpty then "0" else
    ", ".intercalate (parts.map fun part => part.1 ++ "=" ++ toString part.2)

def offsetLiteral (offset : Option Int) : String :=
  match offset with
  | none => ""
  | some 0 => ", tzinfo=datetime.timezone.utc"
  | some micros =>
    ", tzinfo=datetime.timezone(datetime.timedelta(" ++ spanLiteral micros ++ "))"

def pad (width : Nat) (n : Int) : String := String.ofList (Date.padded width n.natAbs)

def clockText (micros : Int) : String :=
  let (hour, minute, second, micro) := clockParts micros
  pad 2 hour ++ ":" ++ pad 2 minute ++ ":" ++ pad 2 second ++
    if micro = 0 then "" else "." ++ pad 6 micro

def offsetText (offset : Option Int) : String :=
  match offset with
  | none => ""
  | some micros =>
    let (hour, minute, second, micro) := clockParts micros.natAbs
    (if micros < 0 then "-" else "+") ++ pad 2 hour ++ ":" ++ pad 2 minute ++
      (if second = 0 ∧ micro = 0 then "" else ":" ++ pad 2 second) ++
      if micro = 0 then "" else "." ++ pad 6 micro

mutual

def literal : Yaml → String
  | null => "None"
  | bool b => if b then "True" else "False"
  | num n => numberText n
  | str s => Text.displayString s
  | date day => "datetime.date(" ++ dateParts day ++ ")"
  | time stamp =>
    "datetime.datetime(" ++ dateParts stamp.date ++ ", " ++ clockLiteral stamp.micros ++
      offsetLiteral stamp.offset ++ ")"
  | seq items => "[" ++ ", ".intercalate (itemLiterals items) ++ "]"
  | map entries => "\x7b" ++ ", ".intercalate (entryLiterals entries) ++ "\x7d"
  | bytes row => String.ofList (Text.displayBytes row)
  | set [] => "set()"
  | set (item :: items) => "\x7b" ++ ", ".intercalate (itemLiterals (item :: items)) ++ "\x7d"
  | pairs entries => "[" ++ ", ".intercalate (pairLiterals entries) ++ "]"
  | again isMap => if isMap then "\x7b...\x7d" else "[...]"

def itemLiterals : List Yaml → List String
  | [] => []
  | item :: items => literal item :: itemLiterals items

def entryLiterals : List (Yaml × Yaml) → List String
  | [] => []
  | (key, value) :: entries => (literal key ++ ": " ++ literal value) :: entryLiterals entries

def pairLiterals : List (Yaml × Yaml) → List String
  | [] => []
  | (key, value) :: entries =>
    ("(" ++ literal key ++ ", " ++ literal value ++ ")") :: pairLiterals entries

end

def text : Yaml → String
  | str s => s
  | date day => day.toText
  | time stamp => stamp.date.toText ++ " " ++ clockText stamp.micros ++ offsetText stamp.offset
  | value => value.literal

end Yaml

end Arrears
