/-
Finding the settings of a project. From the folder a run starts in and
upwards, the first folder counts that has a settings file: `bangtag.toml`,
or a `pyproject.toml` with an entry `bangtag` in its table `tool`, which may
be empty. Of the two in one folder the former counts. Where there is none
the project is the folder itself with the default settings.
-/
import Marginalia.Settings
import Marginalia.Files.Tree
import Marginalia.Toml.Reader

namespace Marginalia

/-- A project: its folder, the file its settings came from, and the
settings. -/
structure Project where
  root : Path
  source : Option Path
  settings : Settings

/-- Why a project has no settings: a file that cannot be read, is not UTF-8
or not TOML, holds a number of too many digits or values that nest too
deeply, an entry `tool` that is no table, or what the table holds. -/
inductive ProjectError where
  | unreadable (file : Path) (fault : PathFault)
  | notUtf8 (file : Path)
  | notToml (file : Path)
  | tooManyDigits (file : Path) (count : Nat)
  | noRoom (file : Path)
  | toolNotTable (file : Path)
  | settings (cause : SettingsError)

/-- The error in words. -/
def ProjectError.message : ProjectError → Text
  | .unreadable file fault => file.toText ++ ": " ++ fault.reason
  | .notUtf8 file => file.toText ++ ": not valid UTF-8 text"
  | .notToml file => file.toText ++ ": invalid TOML"
  | .tooManyDigits _ count => DigitLimit.readMessage count
  | .noRoom file => file.toText ++ ": nested too deeply"
  | .toolNotTable file => file.toText ++ ": 'tool' must be a table"
  | .settings cause => cause.message

/-- Is the error one that a run reports and ends with? It is when the form
or the content of the settings is wrong; anything else breaks the run
off. -/
def ProjectError.isReported : ProjectError → Bool
  | .notToml _ => true
  | .settings (.blockMarksNotList _) | .settings (.unshownJobs _)
  | .settings .notTable => false
  | .settings _ => true
  | _ => false

namespace Project

-- =============================================================== files

/-- The settings file of a project. -/
def settingsName : Text := "bangtag.toml"

/-- The file that may hold the settings beside others. -/
def sharedName : Text := "pyproject.toml"

/-- The table of a TOML file. -/
def readToml (limits : Toml.Limits) (w : Workspace) (file : Path) :
    Except ProjectError (Assoc Toml.Value) :=
  match w.bytesAt file with
  | .error fault => .error (.unreadable file fault)
  | .ok bytes =>
    match Utf8.decode bytes with
    | .error _ => .error (.notUtf8 file)
    | .ok t =>
      match Toml.read limits t with
      | .error (.tooManyDigits count) => .error (.tooManyDigits file count)
      | .error .noRoom => .error (.noRoom file)
      | .error _ => .error (.notToml file)
      | .ok table => .ok table

/-- The entry for this program in a table that is shared. -/
def sharedEntry (file : Path) (table : Assoc Toml.Value) :
    Except ProjectError (Option Toml.Value) :=
  match table.get? "tool" with
  | none => .ok none
  | some (.table tools) => .ok (Assoc.get? tools "bangtag")
  | some _ => .error (.toolNotTable file)

/-- The settings that a folder holds, with the file they are in. -/
def settingsIn (limits : Toml.Limits) (w : Workspace) (folder : Path) :
    Except ProjectError (Option (Path × Toml.Value)) :=
  let own := folder.child settingsName
  let shared := folder.child sharedName
  match w.hasFile own, w.hasFile shared with
  | .error fault, _ => .error (.unreadable own fault)
  | .ok true, _ =>
    (readToml limits w own).map fun table => some (own, .table table)
  | .ok false, .error fault => .error (.unreadable shared fault)
  | .ok false, .ok true =>
    match readToml limits w shared with
    | .error e => .error e
    | .ok table =>
      (sharedEntry shared table).map fun entry => entry.map (shared, ·)
  | .ok false, .ok false => .ok none

-- ============================================================== search

/-- The first of some folders that holds settings. -/
def searchIn (limits : Toml.Limits) (w : Workspace) :
    List Path → Except ProjectError (Option (Path × Path × Toml.Value))
  | [] => .ok none
  | folder :: rest =>
    match settingsIn limits w folder with
    | .error e => .error e
    | .ok (some (file, table)) => .ok (some (folder, file, table))
    | .ok none => searchIn limits w rest

/-- A folder and those above it up to the root, for components from the
last to the first. -/
def upwards : List Text → List Path
  | [] => [⟨"/", []⟩]
  | name :: above => ⟨"/", (name :: above).reverse⟩ :: upwards above

/-- The project of the folder `start`. -/
def find (limits : Toml.Limits) (w : Workspace) (start : Path) :
    Except ProjectError Project :=
  let start := w.resolve start
  match searchIn limits w (upwards start.parts.reverse) with
  | .error e => .error e
  | .ok none => .ok ⟨start, none, .default⟩
  | .ok (some (root, file, table)) =>
    match Settings.ofValue limits table with
    | .error cause => .error (.settings cause)
    | .ok settings => .ok ⟨root, some file, settings⟩

end Project

end Marginalia
