import Arrears.Journal
import Mathlib.Data.List.Induction
import Mathlib.Data.List.Nodup

/-! The journal under set-ups and messages in any order. The first set-up at a known level decides its
handlers, also where it fails at its file, and the last one decides its level. Each handler holds the
messages of billing that were at the level in force when they were logged, as far as it can write them.
So what stands behind any calls is told by their set-ups and their messages alone, and each further call
keeps it so. -/

set_option autoImplicit false

namespace Arrears

namespace Level

def Named (text : String) (level : Level) : Prop :=
  (String.ofList (Text.upper text.toList), level) ∈ names

theorem ofName?_eq_some_iff {text : String} {level : Level} :
    ofName? text = some level ↔ Named text level := by
  constructor
  · exact Assoc.mem_of_get?
  · exact Assoc.get?_of_mem (by decide)

end Level

structure SetUp where
  file : Option String
  level : Level
  deriving DecidableEq, Repr

def SetUp.handlers (setUp : SetUp) : List Handler := .console :: setUp.file.toList.map .file

def LogFile.opened? (file : Option LogFile) : Option String :=
  (Journal.fileFor? file).bind fun file => if file.opens then some file.path else none

def JournalCall.setUp? : JournalCall → Option SetUp
  | .setUp file levelName => (Level.ofName? levelName).map (⟨LogFile.opened? file, ·⟩)
  | .log .. => none

namespace Journal

def setUps (calls : List JournalCall) : List SetUp := calls.filterMap (·.setUp?)

/-! ## Messages -/

def Concerns (logger : String) : Prop := logger = name ∨ ∃ part, logger = name ++ "." ++ part

theorem hears_iff {logger : String} : hears logger ↔ Concerns logger := by
  unfold hears Concerns
  rw [Bool.or_eq_true, beq_iff_eq, List.isPrefixOf_iff_prefix]
  refine or_congr Iff.rfl ?_
  constructor
  · rintro ⟨rest, same⟩
    exact ⟨String.ofList rest, by rw [← String.toList_inj, String.toList_append, String.toList_ofList, same]⟩
  · rintro ⟨part, rfl⟩
    exact ⟨part.toList, String.toList_append.symm⟩

instance (logger : String) : Decidable (Concerns logger) := decidable_of_iff _ hears_iff

/-- Whether a message passes while a level is set: it concerns the journal and is at the level or above.
The level of warnings stands in for that of no level. -/
def Passes (level : Level) (logger : String) (severity : Int) : Prop :=
  Concerns logger ∧ (if level = .notSet then Level.warning else level).number ≤ severity

instance (level : Level) (logger : String) (severity : Int) : Decidable (Passes level logger severity) :=
  inferInstanceAs (Decidable (_ ∧ _))

theorem passes_iff {journal : Journal} {logger : String} {severity : Int} :
    (hears logger && decide (journal.effectiveLevel.number ≤ severity)) = true ↔
      Passes journal.level logger severity := by
  rw [Bool.and_eq_true, hears_iff, decide_eq_true_iff]
  rfl

theorem Passes.reached {level : Level} {logger : String} {severity : Int}
    (passes : Passes level logger severity) : level.number ≤ severity := by
  obtain ⟨_, in_force⟩ := passes
  split at in_force
  next unset =>
    rw [unset]
    exact Int.le_trans (by decide) in_force
  next => exact in_force

/-- The line that a call leaves behind other calls: that of a message that passes at the level of the last
set-up. -/
def lineOf? (before : List JournalCall) : JournalCall → Option String
  | .log logger severity message =>
    (setUps before).getLast?.bind fun latest =>
      if Passes latest.level logger severity then some (line logger severity message) else none
  | .setUp .. => none

/-- The lines that calls leave, place by place, each by the calls before it. -/
def linesBehind (calls : List JournalCall) : List String :=
  (List.range calls.length).filterMap fun place => calls[place]?.bind (lineOf? (calls.take place))

theorem setUps_append (calls : List JournalCall) (call : JournalCall) :
    setUps (calls ++ [call]) = setUps calls ++ call.setUp?.toList := by
  rw [setUps, setUps, List.filterMap_append]
  cases asked : call.setUp? <;> simp [asked]

theorem linesBehind_append (calls : List JournalCall) (call : JournalCall) :
    linesBehind (calls ++ [call]) = linesBehind calls ++ (lineOf? calls call).toList := by
  have earlier : ∀ place ∈ List.range calls.length,
      (calls ++ [call])[place]?.bind (lineOf? ((calls ++ [call]).take place)) =
        calls[place]?.bind (lineOf? (calls.take place)) := by
    intro place member
    have before := List.mem_range.1 member
    rw [List.getElem?_append_left before, List.take_append_of_le_length (Nat.le_of_lt before)]
  unfold linesBehind
  rw [List.length_append, List.length_singleton, List.range_succ, List.filterMap_append,
    List.filterMap_congr earlier]
  cases left : lineOf? calls call <;> simp [left]

/-! ## One call -/

/-- The journal of a first set-up and a latest one, in which each handler has written the lines that it
can. -/
def standing (first latest : SetUp) (lines : List String) : Journal where
  level := latest.level
  handlers := first.handlers.map (·, latest.level)
  written := lines.flatMap fun line => (first.handlers.filter (·.writes line)).map (·, line)

section

variable {file : Option LogFile} {levelName : String} {level : Level}

theorem run_setUp_unknown (journal : Journal) (unknown : Level.ofName? levelName = none) :
    (setUp file levelName).run journal = (.error (.unknownLevel levelName), journal) := by
  unfold setUp
  rw [unknown]
  rfl

theorem run_setUp_empty (known : Level.ofName? levelName = some level) :
    ((setUp file levelName).run empty).2 =
      standing ⟨LogFile.opened? file, level⟩ ⟨LogFile.opened? file, level⟩ [] := by
  unfold setUp LogFile.opened?
  rw [known]
  cases fileFor? file with
  | none => rfl
  | some file =>
    obtain ⟨path, opens⟩ := file
    cases opens <;> rfl

theorem run_setUp_standing (first latest : SetUp) (lines : List String)
    (known : Level.ofName? levelName = some level) :
    (setUp file levelName).run (standing first latest lines) =
      (.ok (), standing first ⟨LogFile.opened? file, level⟩ lines) := by
  obtain ⟨path, _⟩ := first
  unfold setUp
  rw [known]
  cases path <;> rfl

end

section

variable {logger : String} {severity : Int}

theorem log_empty (message : String) : empty.log logger severity message = empty := by
  unfold log
  split <;> rfl

theorem log_of_not_passes (journal : Journal) (passed_over : ¬Passes journal.level logger severity)
    (message : String) : journal.log logger severity message = journal := by
  unfold log
  rw [if_neg (mt passes_iff.1 passed_over)]

/-- Handlers have the level that is set, so what passes reaches all of them. -/
theorem log_standing (first latest : SetUp) (lines : List String)
    (passes : Passes latest.level logger severity) (message : String) :
    (standing first latest lines).log logger severity message =
      standing first latest (lines ++ [line logger severity message]) := by
  have admitted : (hears logger &&
      decide ((standing first latest lines).effectiveLevel.number ≤ severity)) = true :=
    passes_iff.2 (show Passes (standing first latest lines).level logger severity from passes)
  have reached := passes.reached
  unfold log
  rw [if_pos admitted]
  simp [standing, reached, List.filter_map, Function.comp_def]

end

/-! ## Any calls -/

section

variable {calls : List JournalCall}

/-- The journals that calls may leave: the empty one where none of them sets it up, and else the one of
their first set-up and their latest. -/
inductive Upheld (calls : List JournalCall) : Journal → Prop where
  | fresh (never : setUps calls = []) (silent : linesBehind calls = []) : Upheld calls empty
  | standing (first latest : SetUp) (begun : (setUps calls).head? = some first)
    (last : (setUps calls).getLast? = some latest) :
    Upheld calls (standing first latest (linesBehind calls))

theorem Upheld.kept {journal : Journal} (upheld : Upheld calls journal) {call : JournalCall}
    (refused : call.setUp? = none) (silent : lineOf? calls call = none) :
    Upheld (calls ++ [call]) journal := by
  have same_setUps : setUps (calls ++ [call]) = setUps calls := by simp [setUps_append, refused]
  have same_lines : linesBehind (calls ++ [call]) = linesBehind calls := by
    simp [linesBehind_append, silent]
  cases upheld with
  | fresh never silent => exact .fresh (same_setUps.trans never) (same_lines.trans silent)
  | standing first latest begun last =>
    rw [← same_lines]
    exact .standing first latest (same_setUps ▸ begun) (same_setUps ▸ last)

theorem Upheld.setUp {journal : Journal} (upheld : Upheld calls journal) (file : Option LogFile)
    (levelName : String) :
    Upheld (calls ++ [.setUp file levelName]) ((setUp file levelName).run journal).2 := by
  cases known : Level.ofName? levelName with
  | none =>
    rw [run_setUp_unknown journal known]
    exact upheld.kept (by simp [JournalCall.setUp?, known]) rfl
  | some level =>
    have asked : (JournalCall.setUp file levelName).setUp? = some ⟨LogFile.opened? file, level⟩ := by
      simp [JournalCall.setUp?, known]
    have same_lines : linesBehind (calls ++ [.setUp file levelName]) = linesBehind calls :=
      (linesBehind_append calls _).trans (List.append_nil _)
    cases upheld with
    | fresh never silent =>
      rw [run_setUp_empty known, ← silent, ← same_lines]
      exact .standing _ _ (by simp [setUps_append, never, asked]) (by simp [setUps_append, asked])
    | standing first latest begun last =>
      rw [run_setUp_standing first latest _ known, ← same_lines]
      exact .standing _ _ (by simp [setUps_append, begun]) (by simp [setUps_append, asked])

theorem Upheld.log {journal : Journal} (upheld : Upheld calls journal) (logger : String) (severity : Int)
    (message : String) :
    Upheld (calls ++ [.log logger severity message]) (journal.log logger severity message) := by
  cases upheld with
  | fresh never silent =>
    rw [log_empty]
    exact Upheld.kept (.fresh never silent) rfl (by simp [lineOf?, never])
  | standing first latest begun last =>
    by_cases passes : Passes latest.level logger severity
    · have left : linesBehind (calls ++ [.log logger severity message]) =
          linesBehind calls ++ [line logger severity message] := by
        simp [linesBehind_append, lineOf?, last, passes]
      have same_setUps : setUps (calls ++ [.log logger severity message]) = setUps calls :=
        (setUps_append calls _).trans (List.append_nil _)
      rw [log_standing first latest _ passes, ← left]
      exact .standing first latest (same_setUps ▸ begun) (same_setUps ▸ last)
    · rw [log_of_not_passes (Journal.standing first latest _) passes]
      exact Upheld.kept (.standing first latest begun last) rfl (by simp [lineOf?, last, passes])

theorem Upheld.perform {journal : Journal} (upheld : Upheld calls journal) (call : JournalCall) :
    Upheld (calls ++ [call]) ((perform call).run journal).2 := by
  cases call with
  | setUp file levelName => exact upheld.setUp file levelName
  | log logger severity message => exact upheld.log logger severity message

end

def half : String := String.ofList (Text.ofCode 0xD800)

def Raised.calls : List JournalCall :=
  [.log "usage_billing" 50 "early",
    .setUp (some ⟨"other", true⟩) "loud",
    .setUp (some ⟨"billing", true⟩) "debug",
    .log "usage_billing.interval" 10 "built",
    .log "usage_billings" 50 "elsewhere",
    .setUp none "Warn",
    .log "usage_billing.rollup" 25 "quiet",
    .log "usage_billing" 30 "late",
    .setUp (some ⟨"other", true⟩) "notset",
    .log "usage_billing" 20 "quiet",
    .log "usage_billing" 40 half,
    .log "usage_billing.pricing.tiers" 35 "free"]

def Unopened.calls : List JournalCall :=
  [.setUp (some ⟨"locked", false⟩) "info", .setUp (some ⟨"billing", true⟩) "info"]

def Unwritten.calls : List JournalCall :=
  [.setUp (some ⟨"billing", true⟩) "info", .log "usage_billing" 40 half]

end Journal

end Arrears
