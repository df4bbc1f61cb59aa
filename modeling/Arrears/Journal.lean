import Arrears.Assoc
import Arrears.Text.Code
import Arrears.Text.Upper

/-! The journal of a billing run. It is set up once, with a console and perhaps a file; later set-ups
change the level of all its parts and nothing else, also where the first one could not open its file.
Messages of billing go to its parts from the level in force on. -/

set_option autoImplicit false

namespace Arrears

inductive Level where
  | notSet
  | debug
  | info
  | warning
  | error
  | critical
  deriving DecidableEq, Repr

namespace Level

def number : Level → Nat
  | notSet => 0
  | debug => 10
  | info => 20
  | warning => 30
  | error => 40
  | critical => 50

def names : List (String × Level) :=
  [("NOTSET", notSet), ("DEBUG", debug), ("INFO", info), ("WARNING", warning), ("WARN", warning),
    ("ERROR", error), ("CRITICAL", critical), ("FATAL", critical)]

def ofName? (name : String) : Option Level :=
  Assoc.get? (String.ofList (Text.upper name.toList)) names

def label : Level → String
  | notSet => "NOTSET"
  | debug => "DEBUG"
  | info => "INFO"
  | warning => "WARNING"
  | error => "ERROR"
  | critical => "CRITICAL"

/-- How the level of a message is shown. One beside the named levels is shown by its number. -/
def labelOf (severity : Int) : String :=
  match names.find? fun entry => entry.2.number == severity with
  | some entry => entry.2.label
  | none => "Level " ++ toString severity

end Level

inductive Handler where
  | console
  | file (path : String)
  deriving DecidableEq, Repr

namespace Handler

/-- Whether a handler writes a line. Half of a surrogate pair has no encoding, so that a line with one is
lost to files; the console shows it by its number. -/
def writes (handler : Handler) (line : String) : Bool :=
  match handler with
  | console => true
  | file _ => !Text.hasHalf line.toList

end Handler

/-- A file that a set-up names, and whether it can be opened by then. -/
structure LogFile where
  path : String
  opens : Bool
  deriving DecidableEq, Repr

inductive JournalFault where
  | unknownLevel (name : String)
  | unopened (path : String)
  deriving DecidableEq, Repr

structure Journal where
  level : Level
  /-- The handlers with their levels, the console first. -/
  handlers : List (Handler × Level)
  /-- The lines that handlers have written, without their times. -/
  written : List (Handler × String)
  deriving DecidableEq, Repr

inductive JournalCall where
  | setUp (file : Option LogFile) (levelName : String)
  | log (logger : String) (severity : Int) (message : String)
  deriving DecidableEq, Repr

abbrev Upkeep := ExceptT JournalFault (StateM Journal)

namespace Journal

def empty : Journal := ⟨.notSet, [], []⟩

def name : String := "usage_billing"

def addHandler (journal : Journal) (handler : Handler) : Journal :=
  { journal with handlers := journal.handlers ++ [(handler, journal.level)] }

def levelHandlers (journal : Journal) : Journal :=
  { journal with handlers := journal.handlers.map fun handler => (handler.1, journal.level) }

/-- The file of a set-up. One without a path is none. -/
def fileFor? (file : Option LogFile) : Option LogFile := file.filter (·.path ≠ "")

/-- Sets the journal up, or changes the level of one that has been. A file is opened last, so that the
level and the console stay where this fails. -/
def setUp (file : Option LogFile) (levelName : String) : Upkeep Unit := do
  let some level := Level.ofName? levelName | throw (.unknownLevel levelName)
  modify fun journal => { journal with level }
  let journal ← get
  if journal.handlers.isEmpty then
    modify (addHandler · .console)
    if let some file := fileFor? file then
      unless file.opens do throw (.unopened file.path)
      modify (addHandler · (.file file.path))
  else
    modify levelHandlers

def hears (logger : String) : Bool :=
  logger == name || (name ++ ".").toList.isPrefixOf logger.toList

def effectiveLevel (journal : Journal) : Level :=
  if journal.level = .notSet then .warning else journal.level

def line (logger : String) (severity : Int) (message : String) : String :=
  " - " ++ logger ++ " - " ++ Level.labelOf severity ++ " - " ++ message

/-- A message from the level in force on goes to each handler whose own level lets it through. -/
def log (journal : Journal) (logger : String) (severity : Int) (message : String) : Journal :=
  if hears logger && decide (journal.effectiveLevel.number ≤ severity) then
    let text := line logger severity message
    let reached := journal.handlers.filter fun handler => handler.2.number ≤ severity
    let writers := (reached.map (·.1)).filter (·.writes text)
    { journal with written := journal.written ++ writers.map (·, text) }
  else journal

def perform : JournalCall → Upkeep Unit
  | .setUp file levelName => setUp file levelName
  | .log logger severity message => modify (·.log logger severity message)

/-- The journal behind calls in order. A call that fails leaves what it has changed. -/
def after (calls : List JournalCall) : Journal :=
  calls.foldl (fun journal call => ((perform call).run journal).2) empty

def linesOf (journal : Journal) (handler : Handler) : List String :=
  (journal.written.filter (·.1 = handler)).map (·.2)

def file? (journal : Journal) : Option (List String) :=
  journal.handlers.findSome? fun
    | (.file path, _) => some (journal.linesOf (.file path))
    | (.console, _) => none

end Journal

end Arrears
