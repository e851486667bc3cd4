/-
Checking reports. The policy names the kinds of diagnostics that fail a
run: those are errors, all others are warnings, and a file that could not
be scanned is always an error.
-/
import Marginalia.Report

namespace Marginalia.Lint

-- =============================================================== files

/-- One finding: its line, its code, and what it says. -/
structure Finding where
  line : LineNumber
  code : Text
  message : Text
  deriving DecidableEq, Repr

/-- The findings of one file, errors apart from warnings. -/
structure FileLint where
  file : Text
  annotations : Nat
  errors : List Finding
  warnings : List Finding
  deriving DecidableEq, Repr

/-- Did the file pass? -/
def FileLint.passed (l : FileLint) : Bool := l.errors.isEmpty

/-- The kinds of diagnostics that are errors. -/
abbrev Policy := List Diagnostic.Kind

/-- The code of a file that could not be scanned. -/
def unscannedCode : Text := "BT000"

/-- What a diagnostic says here: its kind and its message. -/
def Finding.ofDiagnostic (d : Diagnostic) : Finding :=
  ⟨d.line, d.kind.code, d.kind.name ++ ": " ++ d.message⟩

/-- The findings of a scan. -/
def ofScan (policy : Policy) (s : FileScan) : FileLint :=
  let (errors, warnings) :=
    s.scan.diagnostics.partition fun d => policy.contains d.kind
  ⟨s.file, s.scan.annotations.length, errors.map .ofDiagnostic,
    warnings.map .ofDiagnostic⟩

/-- The finding of a file that could not be scanned. -/
def ofError (e : FileError) : FileLint :=
  ⟨e.file, 0, [⟨0, unscannedCode, "Cannot scan file: " ++ e.error.message⟩],
    []⟩

/-- The findings of a report, scanned files first. -/
def ofReport (policy : Policy) (r : Report) : List FileLint :=
  r.scans.map (ofScan policy) ++ r.errors.map ofError

-- =============================================================== totals

/-- The sum of a count over all files. -/
def total (count : FileLint → Nat) (files : List FileLint) : Nat :=
  files.foldl (fun sum file => sum + count file) 0

/-- How many errors there are. -/
def errorCount (files : List FileLint) : Nat := total (·.errors.length) files

/-- How many warnings there are. -/
def warningCount (files : List FileLint) : Nat :=
  total (·.warnings.length) files

/-- How many files passed. -/
def passedCount (files : List FileLint) : Nat :=
  (files.filter (·.passed)).length

/-- The exit code of a check: 1 when there are errors. -/
def exitCode (files : List FileLint) : Nat :=
  if errorCount files = 0 then 0 else 1

-- ============================================================= as JSON

/-- A finding. -/
def Finding.toJson (f : Finding) : Json :=
  .object
    [ ("line", .lineNumber f.line), ("code", .str f.code),
      ("message", .str f.message) ]

/-- The findings of a file. -/
def FileLint.toJson (l : FileLint) : Json :=
  .object
    [ ("file", .str l.file), ("annotations", .nat l.annotations),
      ("errors", .array (l.errors.map (·.toJson))),
      ("warnings", .array (l.warnings.map (·.toJson))),
      ("passed", .bool l.passed) ]

/-- The names of the policy's kinds in order, each once. -/
def policyNames (policy : Policy) : List Text :=
  ((policy.map (·.name)).eraseDups).mergeSort Text.le

/-- A whole check: the totals, the policy, and the files that have
findings. -/
def toJson (policy : Policy) (files : List FileLint) : Json :=
  .object
    [ ("total", .nat files.length), ("passed", .nat (passedCount files)),
      ("errors", .nat (errorCount files)),
      ("warnings", .nat (warningCount files)),
      ("fail_on", .array ((policyNames policy).map .str)),
      ("files",
        .array ((files.filter fun l =>
          !l.passed || !l.warnings.isEmpty).map (·.toJson))) ]

end Marginalia.Lint
