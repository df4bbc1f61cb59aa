import Arrears.Catalog.Lookup
import Arrears.Settings.Basic
import Arrears.Yaml.Document

/-! Where settings come from: a file, the environment, and values that a caller gives. Each source
counts over those before it, field by field, and a file must be valid even where others count over
it. -/

set_option autoImplicit false

namespace Arrears.Settings

inductive FileContent where
  | nothing
  | given (fields : Given)
  | other

/-- What the document of a file says of each field, every value as it is seen from itself. -/
def FileContent.ofDocument (document : Yaml.Document) : FileContent :=
  match document.cellAt? document.root, document.entriesAt? document.root with
  | some (.plain .null), _ => nothing
  | _, none => other
  | _, some entries =>
    let place? (key : String) : Option Nat := (entries.find? fun entry => entry.1.isText key).map (·.2)
    let tenants : Option (List (Yaml × Yaml)) :=
      match place? tenantsKey with
      | none => some []
      | some place =>
        if document.isVacantAt place then some []
        else (document.entriesAt? place).map fun entries =>
          entries.map fun (key, value) => (key, document.valueAt value)
    given ⟨(place? modeKey).map document.valueAt, tenants, (place? zoneKey).map document.valueAt⟩

/-- The sources of settings. A file that is named may be missing. -/
structure Sources where
  file : Option (String × Option FileContent) := none
  mode : Option String := none
  timeZone : Option String := none
  overrides : List (String × Yaml) := []

def ofFile (path : String) (content : Option FileContent) : Except SettingsFault Settings :=
  match content with
  | none => .error (.missingFile path)
  | some .nothing => .ok {}
  | some (.given fields) => ofGiven fields
  | some .other => .error (.fileNotAMapping path)

-- Puts the value of a variable, unless it is unset or empty.
def putVariable (key : String) (value : Option String) (fields : List (String × Yaml)) :
    List (String × Yaml) :=
  match value with
  | none => fields
  | some text => if text.isEmpty then fields else Assoc.put key (.str text) fields

-- The names among overrides that are no fields, in order.
def unknownFields (overrides : List (String × Yaml)) : List String :=
  sortedNames ((Assoc.keys overrides).filter fun name => decide (name ∉ [modeKey, tenantsKey, zoneKey]))

def load (sources : Sources) : Except SettingsFault Settings := do
  let settings ← match sources.file with
    | none => .ok {}
    | some (path, content) => ofFile path content
  let fields := putVariable zoneKey sources.timeZone (putVariable modeKey sources.mode settings.fields)
  let unknown := unknownFields sources.overrides
  if unknown.isEmpty then
    ofFields (sources.overrides.foldl (fun fields field => Assoc.put field.1 field.2 fields) fields)
  else .error (.unknownFields unknown)

/-- Why settings cannot be had from texts: one of them is no value, or the path is among the
values that count over the file. -/
inductive LoadFault where
  | settings (fault : SettingsFault)
  | text (fault : Yaml.Fault)
  /-- A text with halves of surrogate pairs, which no file can hold. -/
  | notWritable
  | pathTwice
  deriving DecidableEq, Repr

/-- Loads settings where a file is given by its text. An empty path names no file. -/
def loadText (path text mode timeZone : Option String) (overrides : List (String × Yaml)) :
    Except LoadFault Settings := do
  if "path" ∈ Assoc.keys overrides then .error .pathTwice
  let content ← match path, text with
    | some _, some text =>
      if Text.hasHalf text.toList then .error .notWritable
      else ((Yaml.read text).mapError LoadFault.text).map fun document => some (.ofDocument document)
    | _, _ => .ok none
  let file := (path.filter fun path => !path.isEmpty).map fun path => (path, content)
  (load { file, mode, timeZone, overrides }).mapError LoadFault.settings

end Arrears.Settings
