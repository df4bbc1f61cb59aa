import Arrears.Yaml.Basic
import Arrears.Yaml.Cursor
import Arrears.Yaml.Fault

/-! Dates and times in YAML text: a date alone, or a date and a time of the day with blanks or a `T`
between them. Behind the time may come a fraction of the second and the distance from universal
time. -/

set_option autoImplicit false

namespace Arrears.Yaml

/-- The numbers of a written date or time, which need not make one. A date is padded if month and
day have two digits. -/
structure TimeText where
  year : Nat
  month : Nat
  day : Nat
  isPadded : Bool
  clock : Option (Nat × Nat × Nat × Nat)
  offset : Option Int

namespace TimeText

def short? (cs : List Char) : Option (Nat × Bool × List Char) :=
  match Date.takeNumber? 2 cs with
  | some (n, rest) => some (n, true, rest)
  | none => (Date.takeNumber? 1 cs).map fun (n, rest) => (n, false, rest)

def mark? (mark : Char) (cs : List Char) : Option (List Char) :=
  match cs with
  | c :: rest => if c = mark then some rest else none
  | [] => none

def parting? (cs : List Char) : Option (List Char) :=
  match cs with
  | 'T' :: rest | 't' :: rest => some rest
  | c :: rest => if isPad c then some (rest.dropWhile isPad) else none
  | [] => none

def fractionMicros (cs : List Char) : Nat := Text.ofDigits ((cs ++ List.replicate 6 '0').take 6)

def fraction (cs : List Char) : Nat × List Char :=
  match cs with
  | '.' :: rest => (fractionMicros (rest.takeWhile Char.isDigit), rest.dropWhile Char.isDigit)
  | _ => (0, cs)

-- Hours, and perhaps minutes behind a colon.
def distance? (cs : List Char) : Option Int := do
  let (hours, _, rest) ← short? cs
  if rest.isEmpty then some (clockMicros hours 0 0 0) else
    let rest ← mark? ':' rest
    let (minutes, rest) ← Date.takeNumber? 2 rest
    if rest.isEmpty then some (clockMicros hours minutes 0 0) else none

-- The distance from universal time; nothing means that none is given.
def offset? (cs : List Char) : Option (Option Int) :=
  if cs.isEmpty then some none else
    match cs.dropWhile isPad with
    | ['Z'] => some (some 0)
    | '+' :: rest => (distance? rest).map some
    | '-' :: rest => (distance? rest).map fun distance => some (-distance)
    | _ => none

def ofChars? (cs : List Char) : Option TimeText := do
  let (year, cs) ← Date.takeNumber? 4 cs
  let cs ← mark? '-' cs
  let (month, monthPadded, cs) ← short? cs
  let cs ← mark? '-' cs
  let (day, dayPadded, cs) ← short? cs
  let isPadded := monthPadded && dayPadded
  if cs.isEmpty then some { year, month, day, isPadded, clock := none, offset := none } else
    let cs ← parting? cs
    let (hour, _, cs) ← short? cs
    let cs ← mark? ':' cs
    let (minute, cs) ← Date.takeNumber? 2 cs
    let cs ← mark? ':' cs
    let (second, cs) ← Date.takeNumber? 2 cs
    let (micro, cs) := fraction cs
    let offset ← offset? cs
    some { year, month, day, isPadded, clock := some (hour, minute, second, micro), offset }

/-- A date alone counts only if it is padded. -/
def isTime (cs : List Char) : Bool :=
  match ofChars? cs with
  | some found => found.isPadded || found.clock.isSome
  | none => false

def moment? (written : TimeText) : Option Yaml := do
  let day ← Date.ofParts? written.year written.month written.day
  match written.clock with
  | none => some (.date day)
  | some (hour, minute, second, micro) =>
    (Timestamp.ofClock? day hour minute second micro written.offset).map .time

def value (cs : List Char) : Except Fault Yaml :=
  match ofChars? (unbroken cs) with
  | none => .error .notATime
  | some written =>
    match written.moment? with
    | some moment => .ok moment
    | none => .error .noSuchValue

end TimeText

end Arrears.Yaml
