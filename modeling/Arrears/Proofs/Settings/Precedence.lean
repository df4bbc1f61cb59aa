import Arrears.Proofs.Settings.NormalForm

/-! Which source counts. Overrides count over the environment, the environment over the file, and the
file over what holds where nothing is given, each field by itself. A file has to be valid also in
the fields that others count over; a variable of the environment has to be only where it counts. -/

set_option autoImplicit false

namespace Arrears

/-! ## Values that were written -/

theorem DetailMode.Spells.written_iff {value : Yaml} {mode other : DetailMode} (spells : Spells value mode) :
    Spells (Settings.modeYaml mode) other ↔ Spells value other := by
  constructor
  · intro again
    exact (spells_modeYaml mode).unique again ▸ spells
  · intro also
    exact spells.unique also ▸ spells_modeYaml mode

namespace Settings

theorem SpellsZone.written_iff {value : Yaml} {zone other : String} (spells : SpellsZone value zone) :
    SpellsZone (.str zone) other ↔ SpellsZone value other := by
  constructor
  · intro again
    exact spells.again.unique again ▸ spells
  · intro also
    exact spells.unique also ▸ spells.again

theorem SpellsTenants.written_iff {entries : List (Yaml × Yaml)} {modes others : List (String × DetailMode)}
    (spells : SpellsTenants entries modes) :
    SpellsTenants (modes.map fun entry => (.str entry.1, modeYaml entry.2)) others ↔
      SpellsTenants entries others := by
  have written := spellsTenants_written spells.nodup
  constructor
  · intro again
    exact written.unique again ▸ spells
  · intro also
    exact spells.unique also ▸ written

/-! ## Modes of tenants -/

def valueFor? (tenant : String) (entries : List (Yaml × Yaml)) : Option Yaml :=
  Assoc.last? tenant (entries.map fun entry => (entry.1.text, entry.2))

theorem SpellsTenants.rel {entries : List (Yaml × Yaml)} {modes : List (String × DetailMode)}
    (spells : SpellsTenants entries modes) (tenant : String) :
    Option.Rel DetailMode.Spells (valueFor? tenant entries) (Assoc.get? tenant modes) := by
  obtain ⟨pairs, each, rfl⟩ := spells
  rw [Assoc.get?_ofPairs, valueFor?, Assoc.last?, Assoc.last?, ← List.map_reverse]
  have behind := List.rel_reverse each
  generalize entries.reverse = entries at behind
  generalize pairs.reverse = pairs at behind
  induction behind with
  | nil => exact .none
  | cons both others ih =>
    obtain ⟨same, spelled⟩ := both
    rw [List.map_cons, Assoc.get?, Assoc.get?, same]
    split
    · exact .some spelled
    · exact ih

/-! ## Sources -/

def Given.nothing : Given := ⟨none, some [], none⟩

def Given.written (settings : Settings) : Given :=
  .ofEntries (settings.fields.map fun field => (.str field.1, field.2))

theorem nothing_makes : Given.nothing.Makes {} := ofGiven_eq_ok_iff.1 rfl

/-- What the file of the sources says. There may be none; one that is named has to be there, and to
hold nothing or a mapping that makes settings. -/
inductive FileGives : Option (String × Option FileContent) → Given → Prop
  | unnamed : FileGives none .nothing
  | empty (path : String) : FileGives (some (path, some .nothing)) .nothing
  | fields (path : String) {given : Given} {settings : Settings} (made : given.Makes settings) :
    FileGives (some (path, some (.given given))) given

theorem FileGives.exists_makes {named : Option (String × Option FileContent)} {file : Given}
    (given : FileGives named file) : ∃ settings, file.Makes settings := by
  cases given with
  | unnamed => exact ⟨_, nothing_makes⟩
  | empty => exact ⟨_, nothing_makes⟩
  | fields path made => exact ⟨_, made⟩

theorem FileGives.unique {named : Option (String × Option FileContent)} {file other : Given}
    (first : FileGives named file) (second : FileGives named other) : file = other := by
  cases first <;> cases second <;> rfl

def fromVariable (value : Option String) : Option Yaml :=
  (value.filter fun text => !text.isEmpty).map .str

/-- What counts of the sources, field by field. -/
def Sources.counting (sources : Sources) (file : Given) : Given where
  mode := ((Assoc.last? modeKey sources.overrides).or (fromVariable sources.mode)).or file.mode
  tenants :=
    match Assoc.last? tenantsKey sources.overrides with
    | some value => tenantEntries (some value)
    | none => file.tenants
  timeZone := ((Assoc.last? zoneKey sources.overrides).or (fromVariable sources.timeZone)).or file.timeZone

def Sources.NamesFields (sources : Sources) : Prop :=
  ∀ name ∈ Assoc.keys sources.overrides, name ∈ [modeKey, tenantsKey, zoneKey]

def Sources.held (sources : Sources) : Except SettingsFault Settings :=
  match sources.file with
  | none => .ok {}
  | some (path, content) => ofFile path content

section

variable {sources : Sources} {settings held : Settings} {file : Given}

theorem held_eq_ok_iff :
    sources.held = .ok held ↔ ∃ file, FileGives sources.file file ∧ file.Makes held := by
  have vacant :
      Except.ok {} = (Except.ok held : Except SettingsFault Settings) ↔ Given.nothing.Makes held := by
    rw [← ofGiven_eq_ok_iff, ofGiven_eq_ok_iff.2 nothing_makes]
  unfold Sources.held
  generalize sources.file = named
  constructor
  · intro read
    split at read
    next => exact ⟨_, .unnamed, vacant.1 read⟩
    next path content =>
      unfold ofFile at read
      split at read
      next => cases read
      next => exact ⟨_, .empty path, vacant.1 read⟩
      next given =>
        have made := ofGiven_eq_ok_iff.1 read
        exact ⟨given, .fields path made, made⟩
      next => cases read
  · rintro ⟨file, given, made⟩
    cases given with
    | unnamed => exact vacant.2 made
    | empty => exact vacant.2 made
    | fields => exact ofGiven_eq_ok_iff.2 made

theorem unknownFields_eq_nil_iff : unknownFields sources.overrides = [] ↔ sources.NamesFields := by
  simp only [List.eq_nil_iff_forall_not_mem, unknownFields, mem_sortedNames, List.mem_filter,
    decide_eq_true_eq, not_and, Decidable.not_not, Sources.NamesFields]

theorem get?_putVariable (key other : String) (value : Option String) (fields : List (String × Yaml)) :
    Assoc.get? other (putVariable key value fields) =
      if other = key then (fromVariable value).or (Assoc.get? other fields) else Assoc.get? other fields := by
  cases value with
  | none => simp [putVariable, fromVariable]
  | some text =>
    by_cases empty : text.isEmpty
    · simp [putVariable, fromVariable, Option.filter, empty]
    · by_cases same : other = key <;>
        simp [putVariable, fromVariable, Option.filter, empty, Assoc.get?_put, same]

theorem load_eq (sources : Sources) : load sources =
    sources.held >>= fun held =>
      if (unknownFields sources.overrides).isEmpty then ofGiven (sources.counting (.written held))
      else .error (.unknownFields (unknownFields sources.overrides)) := by
  have put (held : Settings) :
      ofFields (sources.overrides.foldl (fun fields field => Assoc.put field.1 field.2 fields)
        (putVariable zoneKey sources.timeZone (putVariable modeKey sources.mode held.fields))) =
      ofGiven (sources.counting (.written held)) := by
    have mode : Assoc.get? modeKey held.fields = some (modeYaml held.mode) := rfl
    have tenants : Assoc.get? tenantsKey held.fields = some (tenantsYaml held.tenantModes) := rfl
    have zone : Assoc.get? zoneKey held.fields = some (.str held.timeZone) := rfl
    have apart : modeKey ≠ zoneKey ∧ tenantsKey ≠ zoneKey ∧ tenantsKey ≠ modeKey ∧ zoneKey ≠ modeKey := by
      decide
    simp only [ofFields, ofYaml, Given.ofEntries, Sources.counting, Given.written, lookup?_texts,
      Assoc.get?_foldl_put, get?_putVariable, mode, tenants, zone, apart, if_true, if_false, Option.or_assoc]
    cases Assoc.last? tenantsKey sources.overrides <;> rfl
  cases named : sources.file with
  | none => simp only [load, Sources.held, named, put]
  | some entry => simp only [load, Sources.held, named, put]

/-- What was written of a file's settings makes what the file makes, wherever it counts. -/
theorem counting_written_iff (made : file.Makes held) :
    (sources.counting (.written held)).Makes settings ↔ (sources.counting file).Makes settings := by
  obtain ⟨entries, given, spelled⟩ := made.tenants
  have mode (first : Option Yaml) :
      DetailMode.Spells ((first.or (some (modeYaml held.mode))).getD (modeYaml .aggregate)) settings.mode ↔
        DetailMode.Spells ((first.or file.mode).getD (modeYaml .aggregate)) settings.mode := by
    cases first with
    | some value => exact Iff.rfl
    | none => exact made.mode.written_iff
  have timeZone (first : Option Yaml) :
      SpellsZone ((first.or (some (.str held.timeZone))).getD (.str "UTC")) settings.timeZone ↔
        SpellsZone ((first.or file.timeZone).getD (.str "UTC")) settings.timeZone := by
    cases first with
    | some value => exact Iff.rfl
    | none => exact made.timeZone.written_iff
  have tenants : (∃ entries, (sources.counting (.written held)).tenants = some entries ∧
        SpellsTenants entries settings.tenantModes) ↔
      ∃ entries, (sources.counting file).tenants = some entries ∧
        SpellsTenants entries settings.tenantModes := by
    unfold Sources.counting
    cases Assoc.last? tenantsKey sources.overrides with
    | some value => exact Iff.rfl
    | none =>
      have written : (Given.written held).tenants =
          some (held.tenantModes.map fun entry => (.str entry.1, modeYaml entry.2)) := rfl
      simp only [written, given, Option.some.injEq, exists_eq_left']
      exact spelled.written_iff
  constructor
  · rintro ⟨own_mode, own_tenants, own_zone⟩
    exact ⟨(mode _).1 own_mode, tenants.1 own_tenants, (timeZone _).1 own_zone⟩
  · rintro ⟨own_mode, own_tenants, own_zone⟩
    exact ⟨(mode _).2 own_mode, tenants.2 own_tenants, (timeZone _).2 own_zone⟩

theorem load_eq_ok_iff : load sources = .ok settings ↔
    ∃ file, FileGives sources.file file ∧ sources.NamesFields ∧ (sources.counting file).Makes settings := by
  rw [load_eq, bind_eq_ok]
  constructor
  · rintro ⟨held, read, rest⟩
    obtain ⟨file, given, made⟩ := held_eq_ok_iff.1 read
    split at rest
    next known =>
      refine ⟨file, given, unknownFields_eq_nil_iff.1 (List.isEmpty_iff.1 known), ?_⟩
      exact (counting_written_iff made).1 (ofGiven_eq_ok_iff.1 rest)
    next => cases rest
  · rintro ⟨file, given, named, counts⟩
    obtain ⟨held, made⟩ := given.exists_makes
    refine ⟨held, held_eq_ok_iff.2 ⟨file, given, made⟩, ?_⟩
    rw [unknownFields_eq_nil_iff.2 named]
    exact ofGiven_eq_ok_iff.2 ((counting_written_iff made).2 counts)

theorem Given.Makes.modeFor {given : Given} (made : given.Makes settings) (tenant : Option String) :
    match tenant.bind fun name => given.tenants.bind (valueFor? name) with
    | some value => DetailMode.Spells value (settings.modeFor tenant)
    | none => settings.modeFor tenant = settings.mode := by
  obtain ⟨entries, found, spelled⟩ := made.tenants
  cases tenant with
  | none => rfl
  | some name =>
    have both := spelled.rel name
    simp only [Option.bind_some, found, Settings.modeFor]
    generalize valueFor? name entries = value at both
    generalize Assoc.get? name settings.tenantModes = mode at both
    cases both with
    | none => rfl
    | some spells => exact spells

/-- What the environment says of an overridden field is not looked at. -/
theorem load_masked {other : Sources} (file : other.file = sources.file)
    (overrides : other.overrides = sources.overrides)
    (same : ∀ file, other.counting file = sources.counting file) : load other = load sources := by
  have held : other.held = sources.held := by simp only [Sources.held, file]
  simp only [load_eq, held, overrides, same]

theorem exists_last? {key : String} (named : key ∈ Assoc.keys sources.overrides) :
    ∃ value, Assoc.last? key sources.overrides = some value :=
  Assoc.exists_get? (by simpa [Assoc.keys] using named)

end

/-- Settings are loaded by precedence. They are what the value that counts for each field spells, if
the file and the names of the overrides are right; else they are refused, whatever counts over the
file. What a variable holds has no effect where an override counts over it. A refusal shows the values
it is about, of which whole numbers may have any count of digits. -/
theorem load_by_precedence (sources : Sources) :
    (∀ settings, load sources = .ok settings ↔ ∃ file, FileGives sources.file file ∧
      sources.NamesFields ∧ (sources.counting file).Makes settings) ∧
    (∀ settings file, load sources = .ok settings → FileGives sources.file file → ∀ tenant,
      match tenant.bind fun name => (sources.counting file).tenants.bind (valueFor? name) with
      | some value => DetailMode.Spells value (settings.modeFor tenant)
      | none => settings.modeFor tenant = settings.mode) ∧
    ((¬∃ file, FileGives sources.file file) → ∃ fault, load sources = .error fault) ∧
    (¬sources.NamesFields → ∃ fault, load sources = .error fault) ∧
    (modeKey ∈ Assoc.keys sources.overrides →
      ∀ text, load { sources with mode := text } = load sources) ∧
    (zoneKey ∈ Assoc.keys sources.overrides →
      ∀ text, load { sources with timeZone := text } = load sources) := by
  have refused (never : ∀ settings, load sources ≠ .ok settings) : ∃ fault, load sources = .error fault := by
    cases outcome : load sources with
    | ok settings => exact absurd outcome (never settings)
    | error fault => exact ⟨fault, rfl⟩
  refine ⟨fun settings => load_eq_ok_iff, ?_, ?_, ?_, ?_, ?_⟩
  · intro settings file loaded given tenant
    obtain ⟨other, also, _, made⟩ := load_eq_ok_iff.1 loaded
    cases given.unique also
    exact made.modeFor tenant
  · intro broken
    refine refused fun settings loaded => broken ?_
    obtain ⟨file, given, _⟩ := load_eq_ok_iff.1 loaded
    exact ⟨file, given⟩
  · intro unknown
    refine refused fun settings loaded => unknown ?_
    obtain ⟨_, _, named, _⟩ := load_eq_ok_iff.1 loaded
    exact named
  · intro overridden text
    obtain ⟨value, last⟩ := exists_last? overridden
    exact load_masked rfl rfl fun file => by simp only [Sources.counting, last, Option.some_or]
  · intro overridden text
    obtain ⟨value, last⟩ := exists_last? overridden
    exact load_masked rfl rfl fun file => by simp only [Sources.counting, last, Option.some_or]

/-! A file with a mode for all, and two for one tenant, an override of the mode, and variables of
which the one that no override counts over is right. -/

def Layered.file : Given where
  mode := some (.str "aggregate")
  tenants := some [(.num (.int 7), .str "Detail"), (.str "7", .str " aggregate ")]
  timeZone := some (.str "UTC")

def Layered.sources : Sources where
  file := some ("settings", some (.given Layered.file))
  mode := some "neither"
  timeZone := some " Asia/Tokyo"
  overrides := [(modeKey, .str "Detail\n")]

def Layered.settings : Settings := ⟨.detail, [("7", .aggregate)], "Asia/Tokyo"⟩

-- The mode that the file gives is none, though an override counts over it.
def Layered.broken : Sources :=
  { Layered.sources with file := some ("settings", some (.given { Layered.file with mode := some .null })) }

theorem load_by_precedence_layered :
    load Layered.sources = .ok Layered.settings ∧
      DetailMode.Spells (.str " aggregate ") (Layered.settings.modeFor (some "7")) ∧
      Layered.settings.modeFor (some "8") = Layered.settings.mode ∧
      load { Layered.sources with mode := none } = load Layered.sources ∧
      ∃ fault, load Layered.broken = .error fault := by
  have file_read : ofGiven Layered.file = .ok ⟨.aggregate, [("7", .aggregate)], "UTC"⟩ := by
    decide +kernel
  have valid : FileGives Layered.sources.file Layered.file :=
    .fields "settings" (ofGiven_eq_ok_iff.1 file_read)
  have names : Layered.sources.NamesFields := by
    simp [Sources.NamesFields, Layered.sources, Assoc.keys]
  have counts : (Layered.sources.counting Layered.file).Makes Layered.settings :=
    ofGiven_eq_ok_iff.1 (by decide +kernel)
  obtain ⟨loads, modes, _, _, masked, _⟩ := load_by_precedence Layered.sources
  have loaded := (loads Layered.settings).2 ⟨Layered.file, valid, names, counts⟩
  have own := modes _ _ loaded valid
  obtain ⟨_, _, broken, _⟩ := load_by_precedence Layered.broken
  refine ⟨loaded, own (some "7"), own (some "8"), masked (by simp [Layered.sources, Assoc.keys]) none, ?_⟩
  apply broken
  rintro ⟨file, given⟩
  cases given with
  | fields path made =>
    have read := ofGiven_eq_ok_iff.2 made
    have failed : ofGiven { Layered.file with mode := some .null } = .error (.unknownMode "None") := by
      decide +kernel
    cases failed.symm.trans read

end Settings

end Arrears
