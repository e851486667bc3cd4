/-
The command `lint`, which prints the diagnostics of some files and fails when
the policy says so.
-/
import Marginalia.CommandLine.Common
import Marginalia.Lint

namespace Marginalia.CommandLine

/-- The arguments of `lint`. -/
structure LintArgs where
  paths : List Path
  failOn : List Text
  language : Option Text
  quiet : Bool
  json : Bool
  summary : Bool
  jobs : Option Int
  reportUnrecognized : Option Bool

/-- The policy: the kinds that are named, or those of the settings. -/
def policy (c : Console) (s : Settings) (json : Bool) (names : List Text) :
    Except Stop Lint.Policy :=
  if names.isEmpty then .ok s.failOn
  else names.mapM fun name =>
    match Diagnostic.Kind.ofName? name with
    | some kind => .ok kind
    | none =>
      .error (errorExit c json usageCode
        (Diagnostic.Kind.unknownMessage name))

/-- The line of a finding; errors and warnings differ in the style of the
code. -/
def findingLine (c : Console) (file style : Text) (f : Lint.Finding) :
    Except Stop Text :=
  printMarkup c ("  [bold]" ++ c.escape file ++ "[/bold]:"
    ++ Text.ofInt f.line ++ ": [" ++ style ++ "]" ++ f.code ++ "[/" ++ style
    ++ "]: " ++ c.escape f.message)

/-- The lines of a file: its errors, and its warnings unless they are to be
left out. -/
def lintLines (c : Console) (quiet : Bool) (l : Lint.FileLint) :
    Except Stop Text := do
  let errors ← l.errors.mapM (findingLine c l.file "red")
  let warnings ←
    if quiet then .ok [] else l.warnings.mapM (findingLine c l.file "yellow")
  return errors.flatten ++ warnings.flatten

/-- The line below the findings. -/
def lintSummary (files : List Lint.FileLint) : Text :=
  "\nChecked " ++ Text.ofNat files.length ++ " files: "
    ++ Text.ofNat (Lint.passedCount files) ++ " passed, "
    ++ Text.ofNat (Lint.errorCount files) ++ " errors, "
    ++ Text.ofNat (Lint.warningCount files) ++ " warnings"

/-- How often each name comes, the commonest first, and of equally common
ones the one that came first. -/
def tally (names : List Text) : List (Text × Nat) :=
  (names.eraseDups.map fun name => (name, names.count name)).mergeSort
    fun a b => b.2 ≤ a.2

/-- The table of kinds of diagnostics and of keys with their counts. -/
def summaryGrid (r : Report) : Grid :=
  let rowsOf (category : Text) (names : List Text) : List (List Text) :=
    (tally names).map fun (name, n) => [category, name, Text.ofNat n]
  ⟨some "Summary",
    [ ⟨"Category", .left, .ellipsis⟩, ⟨"Value", .left, .ellipsis⟩,
      ⟨"Count", .right, .ellipsis⟩ ],
    rowsOf "DIAGNOSTIC" ((r.diagnostics none).map fun d => d.2.kind.name)
      ++ rowsOf "KEY" (r.annotations.map fun a => a.2.key)⟩

/-- Runs `lint`. -/
def lint (h : Host) (w : Workspace) (args : LintArgs) :
    Except Stop Printed := do
  let s ← settings h w args.json
  let policy ← policy h.errors s args.json args.failOn
  let sources ← inputs w s args.language args.paths
  let report := scan w s args.reportUnrecognized sources
  let files := Lint.ofReport policy report
  let code := Lint.exitCode files
  if args.json then
    return ⟨code, printJson (Lint.toJson policy files), []⟩
  let lines ← files.mapM (lintLines h.output args.quiet)
  let table : Text :=
    if args.summary then .scalar '\n' :: h.output.table (summaryGrid report)
    else []
  return ⟨code,
    lines.flatten ++ h.output.printed (lintSummary files) ++ table, []⟩

end Marginalia.CommandLine
