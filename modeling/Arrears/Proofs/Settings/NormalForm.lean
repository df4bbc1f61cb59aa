import Arrears.Proofs.Outcome
import Arrears.Settings.Sources

/-! The normal form of settings. A mode is spelled in any case and a zone with blanks around it; read
back from what is written of them, settings are the same again. So a file alone gives what its
mapping gives. -/

set_option autoImplicit false

namespace Arrears

/-! ## What values spell -/

namespace DetailMode

/-- Whether a value is a spelling of a mode: blanks cut off and in capitals, its text is the name. -/
def Spells (value : Yaml) (mode : DetailMode) : Prop :=
  Text.upper (Text.trim value.text.toList) = mode.name.toList

variable {value : Yaml} {mode other : DetailMode}

theorem ofName?_eq_some_iff {text : String} : ofName? text = some mode ↔ text = mode.name := by
  constructor
  · intro found
    have same := List.find?_some found
    exact (eq_of_beq same).symm
  · rintro rfl
    cases mode <;> decide

theorem read_eq_ok_iff : read value = .ok mode ↔ Spells value mode := by
  have spelled : Spells value mode ↔
      ofName? (String.ofList (Text.upper (Text.trim value.text.toList))) = some mode := by
    rw [ofName?_eq_some_iff, Spells, ← String.toList_inj, String.toList_ofList]
  rw [spelled, read]
  split
  next found => rw [found]; simp
  next missing => rw [missing]; simp

theorem Spells.unique (first : Spells value mode) (second : Spells value other) : mode = other := by
  have same := (read_eq_ok_iff.2 first).symm.trans (read_eq_ok_iff.2 second)
  exact Except.ok.inj same

theorem spells_modeYaml (mode : DetailMode) : Spells (Settings.modeYaml mode) mode := by
  cases mode <;> rfl

end DetailMode

namespace Settings

def SpellsZone (value : Yaml) (zone : String) : Prop :=
  ∃ name, value = .str name ∧ zone.toList = Text.trim name.toList ∧ zone ≠ ""

/-- Whether the entries of a tenant map spell modes by tenant: each has the text of its key for the
tenant, and of several for one tenant the last counts. -/
def SpellsTenants (entries : List (Yaml × Yaml)) (modes : List (String × DetailMode)) : Prop :=
  ∃ pairs, List.Forall₂ (fun entry pair => entry.1.text = pair.1 ∧ DetailMode.Spells entry.2 pair.2)
    entries pairs ∧ Assoc.ofPairs pairs = modes

variable {value : Yaml} {zone other : String} {entries : List (Yaml × Yaml)}
  {modes others : List (String × DetailMode)}

theorem readZone_eq_ok_iff : readZone value = .ok zone ↔ SpellsZone value zone := by
  have filled {cs : List Char} : cs.isEmpty = true ↔ String.ofList cs = "" := by
    rw [List.isEmpty_iff, ← String.toList_inj, String.toList_ofList]
    rfl
  unfold readZone SpellsZone
  split
  next name =>
    split
    next blank =>
      refine ⟨nofun, ?_⟩
      rintro ⟨_, same, spelled, some⟩
      cases same
      rw [← spelled, filled, String.ofList_toList] at blank
      exact absurd blank some
    next some =>
      rw [filled] at some
      constructor
      · intro same
        cases same
        exact ⟨name, rfl, String.toList_ofList, some⟩
      · rintro ⟨_, same, spelled, _⟩
        cases same
        rw [← spelled, String.ofList_toList]
  next no_text => exact ⟨nofun, fun ⟨name, same, _⟩ => absurd same (no_text name)⟩

theorem SpellsZone.unique (first : SpellsZone value zone) (second : SpellsZone value other) :
    zone = other :=
  Except.ok.inj ((readZone_eq_ok_iff.2 first).symm.trans (readZone_eq_ok_iff.2 second))

theorem SpellsZone.again (spells : SpellsZone value zone) : SpellsZone (.str zone) zone := by
  obtain ⟨name, _, spelled, some⟩ := spells
  refine ⟨zone, rfl, ?_, some⟩
  rw [spelled, Text.trim_trim]

theorem readTenants_eq_ok_iff : readTenants entries = .ok modes ↔
    List.Forall₂ (fun entry pair => entry.1.text = pair.1 ∧ DetailMode.Spells entry.2 pair.2)
      entries modes := by
  induction entries generalizing modes with
  | nil => simp [readTenants, eq_comm]
  | cons entry entries ih =>
    obtain ⟨key, value⟩ := entry
    simp only [readTenants, bind_eq_ok, DetailMode.read_eq_ok_iff, ih, List.forall₂_cons_left_iff]
    constructor
    · rintro ⟨mode, spelled, rest, read, made⟩
      cases made
      exact ⟨_, rest, ⟨rfl, spelled⟩, read, rfl⟩
    · rintro ⟨⟨_, mode⟩, rest, ⟨rfl, spelled⟩, read, rfl⟩
      exact ⟨mode, spelled, rest, read, rfl⟩

theorem SpellsTenants.unique (first : SpellsTenants entries modes) (second : SpellsTenants entries others) :
    modes = others := by
  obtain ⟨pairs, read, rfl⟩ := first
  obtain ⟨again, reread, rfl⟩ := second
  have same := (readTenants_eq_ok_iff.2 read).symm.trans (readTenants_eq_ok_iff.2 reread)
  rw [Except.ok.inj same]

theorem SpellsTenants.nodup (spells : SpellsTenants entries modes) : (Assoc.keys modes).Nodup := by
  obtain ⟨pairs, _, rfl⟩ := spells
  exact Assoc.nodup_keys_ofPairs pairs

theorem spellsTenants_written (once : (Assoc.keys modes).Nodup) :
    SpellsTenants (modes.map fun entry => (.str entry.1, modeYaml entry.2)) modes := by
  refine ⟨modes, ?_, Assoc.ofPairs_of_nodup once⟩
  rw [List.forall₂_map_left_iff, List.forall₂_same]
  exact fun entry _ => ⟨rfl, DetailMode.spells_modeYaml entry.2⟩

/-! ## What is given for settings -/

/-- Settings that are made of what is given: each field is spelled by its value, or by that of the
settings that nothing is given for. -/
structure Given.Makes (given : Given) (settings : Settings) : Prop where
  mode : DetailMode.Spells (given.mode.getD (modeYaml .aggregate)) settings.mode
  tenants : ∃ entries, given.tenants = some entries ∧ SpellsTenants entries settings.tenantModes
  timeZone : SpellsZone (given.timeZone.getD (.str "UTC")) settings.timeZone

theorem ofGiven_eq (given : Given) : ofGiven given =
    match given.tenants with
    | none => .error .tenantsNotAMapping
    | some entries => do
      let timeZone ← readZone (given.timeZone.getD (.str "UTC"))
      let mode ← DetailMode.read (given.mode.getD (modeYaml .aggregate))
      let modes ← readTenants entries
      return { mode, tenantModes := Assoc.ofPairs modes, timeZone } := by
  obtain ⟨mode, tenants, timeZone⟩ := given
  cases mode with
  | some value => rfl
  | none =>
    have read := DetailMode.read_eq_ok_iff.2 (DetailMode.spells_modeYaml .aggregate)
    simp only [ofGiven, Option.getD_none, read]
    rfl

theorem ofGiven_eq_ok_iff {given : Given} {settings : Settings} :
    ofGiven given = .ok settings ↔ given.Makes settings := by
  rw [ofGiven_eq]
  split
  next missing => exact ⟨nofun, fun made => by simpa [missing] using made.tenants⟩
  next entries found =>
    simp only [bind_eq_ok, readZone_eq_ok_iff, DetailMode.read_eq_ok_iff, readTenants_eq_ok_iff]
    constructor
    · rintro ⟨zone, zone_spelled, mode, mode_spelled, pairs, spelled, made⟩
      cases made
      exact ⟨mode_spelled, ⟨entries, found, pairs, spelled, rfl⟩, zone_spelled⟩
    · rintro ⟨mode_spelled, ⟨others, same, pairs, spelled, made⟩, zone_spelled⟩
      cases found.symm.trans same
      exact ⟨_, zone_spelled, _, mode_spelled, pairs, spelled, by rw [made]; rfl⟩

/-! ## What is written of settings -/

theorem lookup?_texts (key : String) (fields : List (String × Yaml)) :
    Yaml.lookup? key (fields.map fun field => (.str field.1, field.2)) = Assoc.get? key fields := by
  induction fields with
  | nil => rfl
  | cons field fields ih => simp only [List.map_cons, Yaml.lookup?, Assoc.get?, ih]

theorem Given.Makes.again {given : Given} {settings : Settings} (made : given.Makes settings) :
    (Given.ofEntries (settings.fields.map fun field => (.str field.1, field.2))).Makes settings := by
  obtain ⟨_, _, spelled⟩ := made.tenants
  exact {
    mode := DetailMode.spells_modeYaml settings.mode
    tenants := ⟨_, rfl, spellsTenants_written spelled.nodup⟩
    timeZone := made.timeZone.again }

theorem ofFields_fields {given : Given} {settings : Settings} (made : given.Makes settings) :
    ofFields settings.fields = .ok settings := ofGiven_eq_ok_iff.2 made.again

theorem ofJson_toJson (settings : Settings) :
    Yaml.ofJson settings.toJson = .map (settings.fields.map fun field => (.str field.1, field.2)) := by
  have tenants : ∀ modes : List (String × DetailMode),
      Yaml.ofMembers (modes.map fun entry => (entry.1, .str entry.2.name)) =
        modes.map fun entry => (.str entry.1, modeYaml entry.2) := by
    intro modes
    induction modes with
    | nil => rfl
    | cons entry modes ih =>
      simp only [List.map_cons, Yaml.ofMembers, Yaml.ofJson, ih, modeYaml]
  simp only [toJson, fields, Yaml.ofJson, Yaml.ofMembers, tenants, List.map_cons, List.map_nil, modeYaml,
    tenantsYaml]

/-! ## Both ways -/

theorem load_file (path : String) (given : Given) :
    load { file := some (path, some (.given given)) } = ofGiven given := by
  cases made : ofGiven given with
  | error fault => simp only [load, ofFile, made]; rfl
  | ok settings =>
    have again := ofFields_fields (ofGiven_eq_ok_iff.1 made)
    have known : unknownFields [] = [] := by simp [unknownFields, sortedNames, Assoc.keys]
    simp only [load, ofFile, made, known, putVariable]
    exact again

/-- Settings are kept in normal form. What is written of settings that were read is read as the same
settings, which give every tenant the same mode, and a file alone gives what is read from its
mapping, which has no entries if the file holds nothing. -/
theorem read_in_normal_form :
    (∀ (value : Yaml) (settings : Settings), ofYaml value = .ok settings →
      ∃ again, ofYaml (.ofJson settings.toJson) = .ok again ∧ again = settings ∧
        ∀ tenant, again.modeFor tenant = settings.modeFor tenant) ∧
    (∀ (path : String) (entries : List (Yaml × Yaml)),
      load { file := some (path, some (.given (.ofEntries entries))) } = ofYaml (.map entries)) ∧
    ∀ path : String, load { file := some (path, some .nothing) } = ofYaml (.map []) := by
  refine ⟨?_, fun path entries => load_file path (.ofEntries entries), ?_⟩
  · intro value settings read
    have made : ∃ given : Given, given.Makes settings := by
      unfold ofYaml at read
      split at read
      next entries => exact ⟨_, ofGiven_eq_ok_iff.1 read⟩
      next => cases read
    obtain ⟨given, made⟩ := made
    rw [ofJson_toJson]
    exact ⟨settings, ofFields_fields made, rfl, fun _ => rfl⟩
  · intro path
    -- nothing in a file and a mapping without entries both leave all fields as they are
    have vacant : ofGiven (.ofEntries []) = .ok {} := rfl
    have alone := load_file path (.ofEntries [])
    simp only [load, ofFile, vacant] at alone ⊢
    exact alone

/-! A mapping in which blanks of other scripts stand around a mode, a letter has a capital of another
form, and two keys have the text of one tenant. -/

def Spelled.mapping : List (Yaml × Yaml) :=
  [(.str zoneKey, .str " Europe/Paris\u2003"), (.str modeKey, .str "\u3000detaıl\n"),
    (.str tenantsKey, .map [(.num (.int 7), .str "Detail"), (.null, .str "DETAIL"),
      (.str "7", .str " aggregate ")])]

def Spelled.settings : Settings :=
  ⟨.detail, [("7", .aggregate), ("None", .detail)], "Europe/Paris"⟩

theorem read_in_normal_form_spelled :
    ofYaml (.map Spelled.mapping) = .ok Spelled.settings ∧
      (∃ again, ofYaml (.ofJson Spelled.settings.toJson) = .ok again ∧ again = Spelled.settings ∧
        ∀ tenant, again.modeFor tenant = Spelled.settings.modeFor tenant) ∧
      load { file := some ("settings", some (.given (.ofEntries Spelled.mapping))) } =
        .ok Spelled.settings := by
  have read : ofYaml (.map Spelled.mapping) = .ok Spelled.settings := by decide +kernel
  obtain ⟨kept, alone, _⟩ := read_in_normal_form
  exact ⟨read, kept _ _ read, (alone "settings" Spelled.mapping).trans read⟩

end Settings

end Arrears
