import Arrears.Error
import Arrears.Text.Blank
import Arrears.Text.Upper
import Arrears.Yaml.Basic

/-! Invoice settings: whether a bill gives one item per interval or one per line, for all tenants
and for single ones, and the time zone of local dates. Settings are read from a mapping whose
texts may be surrounded by blanks; they are kept in normal form, and reading them back changes
nothing. -/

set_option autoImplicit false

namespace Arrears

/-- One item for an interval, with its lines inside, or an item for each line. -/
inductive DetailMode where
  | aggregate
  | detail
  deriving DecidableEq, Repr

namespace DetailMode

def name : DetailMode → String
  | aggregate => "AGGREGATE"
  | detail => "DETAIL"

def ofName? (text : String) : Option DetailMode :=
  [aggregate, detail].find? fun mode => mode.name == text

def read (value : Yaml) : Except SettingsFault DetailMode :=
  match ofName? (String.ofList (Text.upper (Text.trim value.text.toList))) with
  | some mode => .ok mode
  | none => .error (.unknownMode value.text)

end DetailMode

structure Settings where
  mode : DetailMode := .aggregate
  tenantModes : List (String × DetailMode) := []
  timeZone : String := "UTC"
  deriving DecidableEq, Repr

namespace Settings

def modeKey : String := "item_result_behavior_mode"
def tenantsKey : String := "tenant_modes"
def zoneKey : String := "time_zone"

def modeFor (settings : Settings) (tenant : Option String) : DetailMode :=
  match tenant.bind fun tenant => Assoc.get? tenant settings.tenantModes with
  | some mode => mode
  | none => settings.mode

-- Modes by tenant; of two keys with the same text the later counts.
def readTenants : List (Yaml × Yaml) → Except SettingsFault (List (String × DetailMode))
  | [] => .ok []
  | (key, value) :: entries => do
    let mode ← DetailMode.read value
    let modes ← readTenants entries
    return (key.text, mode) :: modes

structure Given where
  mode : Option Yaml
  /-- The entries of the tenant map, or nothing if what is given is none. -/
  tenants : Option (List (Yaml × Yaml))
  timeZone : Option Yaml

-- A tenant map that is absent or vacant has no entries.
def tenantEntries (value : Option Yaml) : Option (List (Yaml × Yaml)) :=
  match value with
  | none => some []
  | some (.map entries) => some entries
  | some value => if value.isVacant then some [] else none

def Given.ofEntries (entries : List (Yaml × Yaml)) : Given where
  mode := Yaml.lookup? modeKey entries
  tenants := tenantEntries (Yaml.lookup? tenantsKey entries)
  timeZone := Yaml.lookup? zoneKey entries

-- The name of a zone, blanks cut off; there must be something left.
def readZone (value : Yaml) : Except SettingsFault String :=
  match value with
  | .str name =>
    if (Text.trim name.toList).isEmpty then .error (.badTimeZone value.literal)
    else .ok (String.ofList (Text.trim name.toList))
  | value => .error (.badTimeZone value.literal)

def ofGiven (given : Given) : Except SettingsFault Settings :=
  match given.tenants with
  | none => .error .tenantsNotAMapping
  | some tenants => do
    let timeZone ← readZone (given.timeZone.getD (.str "UTC"))
    let mode ← match given.mode with
      | none => pure .aggregate
      | some value => DetailMode.read value
    let modes ← readTenants tenants
    return { mode, tenantModes := Assoc.ofPairs modes, timeZone }

def ofYaml (value : Yaml) : Except SettingsFault Settings :=
  match value with
  | .map entries => ofGiven (.ofEntries entries)
  | _ => .error .notAMapping

def modeYaml (mode : DetailMode) : Yaml := .str mode.name

def tenantsYaml (modes : List (String × DetailMode)) : Yaml :=
  .map (modes.map fun entry => (.str entry.1, modeYaml entry.2))

def fields (settings : Settings) : List (String × Yaml) :=
  [(modeKey, modeYaml settings.mode), (tenantsKey, tenantsYaml settings.tenantModes),
    (zoneKey, .str settings.timeZone)]

def ofFields (fields : List (String × Yaml)) : Except SettingsFault Settings :=
  ofYaml (.map (fields.map fun field => (.str field.1, field.2)))

def toJson (settings : Settings) : Json :=
  .obj [(modeKey, .str settings.mode.name),
    (tenantsKey, .obj (settings.tenantModes.map fun entry => (entry.1, .str entry.2.name))),
    (zoneKey, .str settings.timeZone)]

def zoneOf (database : String → Option Zone) (name : String) : Except SettingsFault Zone :=
  match Zone.ofName? database name with
  | some zone => .ok zone
  | none => .error (.unknownTimeZone name)

def zone (settings : Settings) (database : String → Option Zone) : Except SettingsFault Zone :=
  zoneOf database settings.timeZone

end Settings

/-- The local date in the zone of a name, which a whole day does not need. -/
def Moment.localDateIn (moment : Moment) (database : String → Option Zone) (name : String) :
    Except Error Date :=
  match moment with
  | .day date => .ok date
  | .stamp time => do
    let zone ← Settings.zoneOf database name
    time.localDate zone

end Arrears
