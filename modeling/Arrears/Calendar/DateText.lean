import Arrears.Calendar.Date
import Arrears.Text.Digit

/-! The written forms of dates. One is written, `2024-01-31`; read are also the form without
dashes and the forms by week, `2024-W05-3`, where the weekday may be left out. -/

set_option autoImplicit false

namespace Arrears.Date

open Text

def padded (width n : Nat) : List Char :=
  List.replicate (width - (digits n).length) '0' ++ digits n

def chars (date : Date) : List Char :=
  padded 4 date.year.natAbs ++ '-' :: padded 2 date.month.natAbs ++ '-' :: padded 2 date.day.natAbs

def toText (date : Date) : String := String.ofList date.chars

def takeNumber? (width : Nat) (cs : List Char) : Option (Nat × List Char) :=
  let front := cs.take width
  if front.length = width ∧ front.all Char.isDigit then some (ofDigits front, cs.drop width) else none

def takeDash? : List Char → Option (List Char)
  | '-' :: rest => some rest
  | _ => none

/-- Month and day; a dash parts them if one stood before them. -/
def readMonthDay? (year : Nat) (dashed : Bool) (cs : List Char) : Option Date := do
  let (month, cs) ← takeNumber? 2 cs
  let cs ← if dashed then takeDash? cs else some cs
  let (day, _) ← takeNumber? 2 cs
  ofParts? year month day

def readWeek? (year : Nat) (dashed : Bool) (cs : List Char) : Option Date := do
  let (week, cs) ← takeNumber? 2 cs
  if cs.isEmpty then ofWeek? year week 1 else
    let cs ← if dashed then takeDash? cs else some cs
    let (weekday, _) ← takeNumber? 1 cs
    ofWeek? year week weekday

/-- A text of ten bytes may hold a compact form and two bytes that are not looked at. -/
def hasDateSize (cs : List Char) : Bool :=
  let size := cs.foldl (fun size c => size + c.utf8Size) 0
  size == 7 || size == 8 || size == 10

def readChars? (cs : List Char) : Option Date :=
  if hasDateSize cs then
    (takeNumber? 4 cs).bind fun (year, cs) =>
      match cs with
      | '-' :: 'W' :: cs => readWeek? year true cs
      | 'W' :: cs => readWeek? year false cs
      | '-' :: cs => readMonthDay? year true cs
      | cs => readMonthDay? year false cs
  else none

def ofText? (s : String) : Option Date := readChars? s.toList

end Arrears.Date
