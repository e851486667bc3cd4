/-
Reports: the scans of many files in order, and the files that could not be
scanned. The questions asked of one scan are asked of a whole report by
asking every scan in turn. Filters of different kinds narrow each other;
several keys, or several tags, widen each other.
-/
import Marginalia.Scan
import Marginalia.Json.Writer

namespace Marginalia

-- =========================================================== questions

namespace Scan

/-- The annotations with a key. -/
def byKey (s : Scan) (key : Text) : List Annotation :=
  s.annotations.filter fun a => a.key == key

/-- The annotations with a tag. -/
def byTag (s : Scan) (tag : Text) : List Annotation :=
  s.annotations.filter fun a => a.tags.contains tag

/-- The annotations addressed to an agent. -/
def byAgent (s : Scan) (agent : Text) : List Annotation :=
  s.annotations.filter fun a => a.isForAgent agent

/-- The keys of the annotations, each where it first comes. -/
def keys (s : Scan) : List Text := (s.annotations.map (·.key)).eraseDups

/-- The diagnostics of some kinds, or all when no kind is given. -/
def diagnosticsOf (s : Scan) (kinds : List Diagnostic.Kind) :
    List Diagnostic :=
  if kinds.isEmpty then s.diagnostics
  else s.diagnostics.filter fun d => kinds.contains d.kind

end Scan

/-- Which annotations are wanted. An empty list of keys or of tags asks for
nothing in particular. -/
structure Filter where
  keys : List Text
  tags : List Text
  agent : Option Text

/-- The filter that everything passes. -/
def Filter.all : Filter := ⟨[], [], none⟩

/-- Is this annotation wanted? -/
def Filter.accepts (f : Filter) (a : Annotation) : Bool :=
  (f.keys.isEmpty || f.keys.contains a.key)
    && (f.tags.isEmpty || a.tags.any f.tags.contains)
    && match f.agent with
      | none => true
      | some agent => a.isForAgent agent

/-- The wanted annotations of a scan. -/
def Scan.select (s : Scan) (f : Filter) : List Annotation :=
  s.annotations.filter f.accepts

-- ============================================================= reports

/-- The scan of a file, under the name the file goes by. -/
structure FileScan where
  file : Text
  scan : Scan

/-- A file that could not be scanned. -/
structure FileError where
  file : Text
  error : ScanError
  deriving DecidableEq, Repr

/-- The scans and the errors of many files, each in the order of the
files. -/
structure Report where
  scans : List FileScan
  errors : List FileError

namespace Report

/-- The report of one outcome per file. -/
def ofOutcomes : List (Except FileError FileScan) → Report
  | [] => ⟨[], []⟩
  | .ok scan :: rest =>
    let r := ofOutcomes rest
    ⟨scan :: r.scans, r.errors⟩
  | .error e :: rest =>
    let r := ofOutcomes rest
    ⟨r.scans, e :: r.errors⟩

/-- The answers of all scans to a question, each with its file. -/
def ask {α : Type} (r : Report) (question : Scan → List α) :
    List (Text × α) :=
  r.scans.flatMap fun s => (question s.scan).map fun a => (s.file, a)

/-- All annotations. -/
def annotations (r : Report) : List (Text × Annotation) :=
  r.ask (·.annotations)

/-- All diagnostics, or those of the given kinds. -/
def diagnostics (r : Report) (kinds : Option (List Diagnostic.Kind)) :
    List (Text × Diagnostic) :=
  r.ask fun s => s.diagnostics.filter fun d =>
    match kinds with
    | none => true
    | some kinds => kinds.contains d.kind

end Report

-- ============================================================= as JSON

namespace Json

/-- A number as a value. -/
def nat (n : Nat) : Json := .scalar (.int n)

/-- The number of a line. -/
def lineNumber (n : LineNumber) : Json := .scalar (.int n)

/-- A truth value. -/
def bool (b : Bool) : Json := .scalar (.bool b)

/-- A range of lines in a file. -/
def location (file : Text) (first last : LineNumber) : Json :=
  .object [("file", .str file), ("start", lineNumber first),
    ("end", lineNumber last)]

end Json

/-- A scope with its kind, lines and text. -/
def Scope.toJson (s : Scope) : Json :=
  .object
    [ ("kind", .str s.kindName), ("start", .lineNumber s.first),
      ("end", .lineNumber s.last), ("text", .str s.text) ]

/-- An annotation of a file. -/
def Annotation.toJson (file : Text) (a : Annotation) : Json :=
  .object
    [ ("key", .str a.key), ("form", .str a.formName),
      ("value", .scalar a.marker.payload.value),
      ("properties", .object a.marker.payload.properties),
      ("tags", .array (a.tags.map .str)),
      ("location", .location file a.firstLine a.lastLine),
      ("scope", a.scope.toJson), ("salvaged", .bool a.salvaged) ]

/-- A diagnostic of a file. -/
def Diagnostic.toJson (file : Text) (d : Diagnostic) : Json :=
  .object
    [ ("kind", .str d.kind.name),
      ("location", .location file d.line d.line),
      ("message", .str d.message) ]

/-- A scan with the annotations that are wanted; its diagnostics are kept
whole. -/
def FileScan.toJson (f : Filter) (s : FileScan) : Json :=
  .object
    [ ("file", .str s.file),
      ("annotations",
        .array ((s.scan.select f).map fun a => a.toJson s.file)),
      ("diagnostics",
        .array (s.scan.diagnostics.map fun d => d.toJson s.file)) ]

/-- A file that could not be scanned. -/
def FileError.toJson (e : FileError) : Json :=
  .object [("file", .str e.file), ("error", .str e.error.message)]

/-- A report with the annotations that are wanted. -/
def Report.toJson (f : Filter) (r : Report) : Json :=
  .object
    [ ("files", .array (r.scans.map (FileScan.toJson f))),
      ("errors", .array (r.errors.map FileError.toJson)) ]

end Marginalia
