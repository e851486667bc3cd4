/-
Settings of a project: which files to look at, how many workers to use,
which diagnostics fail a run, and the languages and comment styles of its
own. They come as a table of which every entry is optional, and every entry
that is present has to have its proper form; the first one that has not, in
the order of the fields here, is what the error names.
-/
import Marginalia.Comment.Catalog
import Marginalia.Diagnostic
import Marginalia.Toml.Value

namespace Marginalia

-- ============================================================ settings

/-- The settings of a project. -/
structure Settings where
  patterns : List Text
  exclude : List Text
  jobs : Nat
  reportUnrecognized : Bool
  failOn : List Diagnostic.Kind
  languages : Assoc Text
  styles : Assoc Comment.Style

namespace Settings

/-- The folders that are passed over unless the settings say otherwise. -/
def defaultExclude : List Text :=
  [".git", ".hg", ".svn", "__pycache__", "node_modules", ".venv", "venv",
    ".tox", "build", "dist"]

/-- The settings of a project that sets nothing. -/
def default : Settings where
  patterns := ["**/*"]
  exclude := defaultExclude
  jobs := 4
  reportUnrecognized := false
  failOn := [.unclosedBlock, .unmatchedEnd, .malformedProperties]
  languages := []
  styles := []

end Settings

-- ============================================================== errors

/-- What can be wrong with a table of settings. -/
inductive SettingsError where
  | notTexts (key : Text)
  | jobs (value : Toml.Value)
  | unshownJobs (why : Toml.Value.Unshown)
  | reportUnrecognized
  | unknownKind (name : Text)
  | languages
  | stylesNotTable
  | styleNotTable (language : Text)
  | lineMarks (language : Text)
  | blockMarks (language : Text)
  | blockMarksNotList (language : Text)
  | notTable

namespace SettingsError

/-- The error in words. -/
def message : SettingsError → Text
  | .notTexts key => "'" ++ key ++ "' must be a list of strings"
  | .jobs value => "'jobs' must be a positive integer, got " ++ value.shown
  | .unshownJobs .tooManyDigits => DigitLimit.writeMessage
  | .unshownJobs .noRoom => "'jobs' nests too deeply"
  | .reportUnrecognized => "'report_unrecognized' must be true or false"
  | .unknownKind name => "fail_on: " ++ Diagnostic.Kind.unknownMessage name
  | .languages => "'languages' must map file extensions to language names"
  | .stylesNotTable =>
    "'profiles' must be a table of [profiles.<language>] entries"
  | .styleNotTable language =>
    "profiles." ++ language ++ " must be a table"
  | .lineMarks language =>
    "profiles." ++ language ++ ".line must be a list of non-empty strings"
  | .blockMarks language =>
    "profiles." ++ language ++ ".block entries must be [open, close] pairs"
  | .blockMarksNotList language =>
    "profiles." ++ language ++ ".block is no list"
  | .notTable => "settings are no table"

end SettingsError

namespace Settings

-- ============================================================= entries

/-- The entry `key` as a list of texts. -/
def readTexts (table : Assoc Toml.Value) (key : Text) (default : List Text) :
    Except SettingsError (List Text) :=
  match table.get? key with
  | none => .ok default
  | some v =>
    match v.texts? with
    | some ts => .ok ts
    | none => .error (.notTexts key)

/-- The error of a wrong number of workers, which shows the value if that
is possible. -/
def refusedJobs (limits : Toml.Limits) (v : Toml.Value) : SettingsError :=
  match v.unshown? limits.shownDepth with
  | none => .jobs v
  | some why => .unshownJobs why

/-- The number of workers: a whole number, at least one. -/
def readJobs (limits : Toml.Limits) (table : Assoc Toml.Value)
    (default : Nat) : Except SettingsError Nat :=
  match table.get? "jobs" with
  | none => .ok default
  | some (.scalar (.int n)) =>
    if 1 ≤ n then .ok n.toNat
    else .error (refusedJobs limits (.scalar (.int n)))
  | some v => .error (refusedJobs limits v)

/-- The choice to report markers without a valid key. -/
def readReport (table : Assoc Toml.Value) (default : Bool) :
    Except SettingsError Bool :=
  match table.get? "report_unrecognized" with
  | none => .ok default
  | some (.scalar (.bool b)) => .ok b
  | some _ => .error .reportUnrecognized

/-- The kind that a name means. -/
def readKind (name : Text) : Except SettingsError Diagnostic.Kind :=
  match Diagnostic.Kind.ofName? name with
  | some kind => .ok kind
  | none => .error (.unknownKind name)

/-- The kinds of diagnostics that fail a run. -/
def readFailOn (table : Assoc Toml.Value) (default : List Diagnostic.Kind) :
    Except SettingsError (List Diagnostic.Kind) :=
  match table.get? "fail_on" with
  | none => .ok default
  | some _ => do (← readTexts table "fail_on" []).mapM readKind

/-- A name and a text for it. -/
def textMember? (member : Text × Toml.Value) : Option (Text × Text) :=
  member.2.str?.map fun t => (member.1, t)

/-- The languages of file extensions. -/
def readLanguages (table : Assoc Toml.Value) :
    Except SettingsError (Assoc Text) :=
  match table.get? "languages" with
  | none => .ok []
  | some (.table members) =>
    match members.mapM textMember? with
    | some languages => .ok languages
    | none => .error .languages
  | some _ => .error .languages

-- ============================================================== styles

/-- A text that is not empty. -/
def mark? (v : Toml.Value) : Option Text :=
  match v.str? with
  | some [] => none
  | found => found

/-- A pair of delimiters. -/
def blockMark? : Toml.Value → Option (Text × Text)
  | .array [left, right] =>
    match mark? left, mark? right with
    | some left, some right => some (left, right)
    | _, _ => none
  | _ => none

/-- The entry `block` of a style. A text or a table without anything in it
does for an empty list. -/
def readBlockMarks (language : Text) (row : Assoc Toml.Value) :
    Except SettingsError (List (Text × Text)) :=
  match row.get? "block" with
  | none => .ok []
  | some (.array items) =>
    match items.mapM blockMark? with
    | some pairs => .ok pairs
    | none => .error (.blockMarks language)
  | some (.scalar (.str [])) | some (.table []) => .ok []
  | some (.scalar (.str _)) | some (.table _) => .error (.blockMarks language)
  | some (.scalar _) | some (.moment _) =>
    .error (.blockMarksNotList language)

/-- The entry `line` of a style. -/
def readLineMarks (language : Text) (row : Assoc Toml.Value) :
    Except SettingsError (List Text) :=
  match row.get? "line" with
  | none => .ok []
  | some (.array items) =>
    match items.mapM mark? with
    | some marks => .ok marks
    | none => .error (.lineMarks language)
  | some _ => .error (.lineMarks language)

/-- A style under the name of its language in lower case. -/
def readStyle (member : Text × Toml.Value) :
    Except SettingsError (Text × Comment.Style) :=
  match member with
  | (language, .table row) => do
    let lineMarks ← readLineMarks language row
    let blockMarks ← readBlockMarks language row
    return (language.lower, ⟨language.lower, lineMarks, blockMarks⟩)
  | (language, _) => .error (.styleNotTable language)

/-- The comment styles of the project; of two for one language the later
one counts. -/
def readStyles (table : Assoc Toml.Value) :
    Except SettingsError (Assoc Comment.Style) :=
  match table.get? "profiles" with
  | none => .ok []
  | some (.table members) => do return Assoc.ofPairs (← members.mapM readStyle)
  | some _ => .error .stylesNotTable

-- =============================================================== table

/-- The settings of a table. -/
def ofTable (limits : Toml.Limits) (table : Assoc Toml.Value) :
    Except SettingsError Settings := do
  let patterns ← readTexts table "include" default.patterns
  let exclude ← readTexts table "exclude" default.exclude
  let jobs ← readJobs limits table default.jobs
  let reportUnrecognized ← readReport table default.reportUnrecognized
  let failOn ← readFailOn table default.failOn
  let languages ← readLanguages table
  let styles ← readStyles table
  return ⟨patterns, exclude, jobs, reportUnrecognized, failOn, languages,
    styles⟩

/-- The settings of a value, which has to be a table. -/
def ofValue (limits : Toml.Limits) :
    Toml.Value → Except SettingsError Settings
  | .table table => ofTable limits table
  | _ => .error .notTable

end Settings

end Marginalia
