/-
The command `extract`, which prints the annotations of some files as a table or
as JSON, or writes them to a file.
-/
import Marginalia.CommandLine.Common
import Marginalia.Decimal.DigitLimit

namespace Marginalia.CommandLine

/-- The arguments of `extract`. -/
structure ExtractArgs where
  paths : List Path
  language : Option Text
  filter : Filter
  json : Bool
  output : Option Path
  jobs : Option Int
  reportUnrecognized : Option Bool
  verbose : Bool

/-- What the column for scopes shows. -/
def scopeCell (a : Annotation) : Text :=
  match a.scope with
  | .declaration line text => "L" ++ Text.ofInt line ++ ": " ++ text.trim
  | .region first last =>
    let mark : Text := if a.salvaged then " (unclosed)" else []
    "L" ++ Text.ofInt first ++ "-" ++ Text.ofInt last ++ mark
  | .file _ => "file"
  | .trailing _ => "end of file"

/-- What the column for values shows: nothing for no value. -/
def valueCell (a : Annotation) : Text :=
  match a.marker.payload.value with
  | .null => []
  | v => Json.write Json.oneLine (.scalar v)

/-- The row of an annotation. -/
def annotationRow (file : Text) (a : Annotation) : List Text :=
  [ file ++ ":" ++ Text.ofInt a.firstLine, a.key, a.formName, valueCell a,
    Text.joinWith ", " a.tags, scopeCell a ]

/-- The table of annotations. -/
def annotationGrid (rows : List (Text × Annotation)) : Grid :=
  ⟨none,
    [ ⟨"Location", .left, .ellipsis⟩, ⟨"Key", .left, .ellipsis⟩,
      ⟨"Form", .left, .ellipsis⟩, ⟨"Value", .left, .ellipsis⟩,
      ⟨"Tags", .left, .ellipsis⟩, ⟨"Scope", .left, .fold⟩ ],
    rows.map fun (file, a) => annotationRow file a⟩

/-- The line below the table. -/
def extractSummary (annotations files diagnostics : Nat) : Text :=
  let tail : Text :=
    if diagnostics = 0 then []
    else ", " ++ Text.ofNat diagnostics
      ++ " diagnostics (run 'bangtag lint' for details)"
  "\nFound " ++ Text.ofNat annotations ++ " annotations in "
    ++ Text.ofNat files ++ " files" ++ tail

/-- The table of the wanted annotations, when there are any, and the line
below it. -/
def extractTable (c : Console) (f : Filter) (r : Report) : Text :=
  let rows := r.ask fun s => s.select f
  let table : Text :=
    if rows.isEmpty then [] else c.table (annotationGrid rows)
  table ++ c.printed
    (extractSummary rows.length r.scans.length (r.diagnostics none).length)

/-- The line about a file that could not be scanned. -/
def fileErrorLine (c : Console) (e : FileError) : Except Stop Text :=
  printMarkup c
    (heading ++ c.escape e.file ++ ": " ++ c.escape e.error.message)

/-- The line before the scan. -/
def printStart (c : Console) (files : Nat) (workers : Int) :
    Except Stop Text :=
  if DigitLimit.canWrite workers then
    printMarkup c ("Scanning " ++ Text.ofNat files ++ " files with "
      ++ Text.ofInt workers ++ " workers")
  else .error (.brokeOff .tooManyDigits)

/-- Writes the report where it was asked for. -/
def writeReport (w : Workspace) (refusals : Refusals) (output : Option Path)
    (v : Json) : Except Stop Workspace :=
  match output with
  | none => .ok w
  | some target =>
    match w.writeAtomically refusals target (printJson v) with
    | (w, none) => .ok w
    | (_, some fault) => .error (.brokeOff (.write fault))

/-- Runs `extract`. -/
def extract (h : Host) (w : Workspace) (args : ExtractArgs) :
    Except Stop (Printed × Workspace) := do
  let s ← settings h w args.json
  if let some n := args.jobs then
    if n < 1 then
      throw (errorExit h.errors args.json usageCode
        "--jobs must be at least 1")
  let sources ← inputs w s args.language args.paths
  let started ←
    if args.verbose then
      printStart h.errors sources.length (workers s args.jobs)
    else .ok []
  let report := scan w s args.reportUnrecognized sources
  let v := report.toJson args.filter
  let w ← writeReport w h.refusals args.output v
  let wrote ←
    match args.verbose, args.output with
    | true, some target => printMarkup h.errors ("Wrote " ++ target.toText)
    | _, _ => .ok []
  let stdout : Text :=
    if args.json then printJson v
    else if args.output.isSome then []
    else extractTable h.output args.filter report
  let errors ←
    if args.json then .ok []
    else report.errors.mapM (fileErrorLine h.errors)
  let code := if report.errors.isEmpty then 0 else 1
  return (⟨code, stdout, started ++ wrote ++ errors.flatten⟩, w)

end Marginalia.CommandLine
