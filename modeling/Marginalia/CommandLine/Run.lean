/-
A run from its command line: which command is asked for, its arguments from the
options that a reader finds, and the answer to a question for the version. What
a run does is a function of its arguments and of the folder it runs in, and what
it changes is the folder that comes out.
-/
import Marginalia.CommandLine.Extract
import Marginalia.CommandLine.Lint
import Marginalia.CommandLine.Options

namespace Marginalia.CommandLine

-- =========================================================== arguments

/-- The value of an option that counts, read; nothing when it cannot be
read. Values given before it do not matter. -/
def readValue? {α : Type} (read? : Text → Option α) (g : Options.Given)
    (name : Text) : Option (Option α) :=
  match g.value? name with
  | none => some none
  | some t => (read? t).map some

/-- The choice to report markers without a valid key. -/
def readReport (g : Options.Given) : Option Bool :=
  g.choice? "--report-unrecognized" "--no-report-unrecognized"

/-- The options of both commands. -/
def commonSpecs : List Options.Spec :=
  [ ⟨["--language", "-l"], true⟩, ⟨["--json"], false⟩,
    ⟨["--jobs", "-j"], true⟩, ⟨["--report-unrecognized"], false⟩,
    ⟨["--no-report-unrecognized"], false⟩ ]

/-- The options of `extract`. -/
def extractSpecs : List Options.Spec :=
  commonSpecs ++
    [ ⟨["--key", "-k"], true⟩, ⟨["--tag"], true⟩, ⟨["--agent"], true⟩,
      ⟨["--output", "-o"], true⟩, ⟨["--verbose", "-v"], false⟩ ]

/-- The arguments of `extract`, from what was given. -/
def extractArgs? (r : Options.Reader) (g : Options.Given) :
    Option ExtractArgs := do
  let paths ← g.arguments.mapM Path.ofText?
  let output ← readValue? Path.ofText? g "--output"
  let jobs ← readValue? r.number? g "--jobs"
  some
    { paths := paths
      language := g.value? "--language"
      filter := ⟨g.values "--key", g.values "--tag", g.value? "--agent"⟩
      json := g.has "--json"
      output := output
      jobs := jobs
      reportUnrecognized := readReport g
      verbose := g.has "--verbose" }

/-- The options of `lint`. -/
def lintSpecs : List Options.Spec :=
  commonSpecs ++
    [ ⟨["--fail-on"], true⟩, ⟨["--quiet"], false⟩, ⟨["--no-quiet"], false⟩,
      ⟨["--summary"], false⟩ ]

/-- The arguments of `lint`, from what was given. -/
def lintArgs? (r : Options.Reader) (g : Options.Given) : Option LintArgs := do
  let paths ← g.arguments.mapM Path.ofText?
  let jobs ← readValue? r.number? g "--jobs"
  some
    { paths := paths
      failOn := g.values "--fail-on"
      language := g.value? "--language"
      quiet := (g.choice? "--quiet" "--no-quiet").getD false
      json := g.has "--json"
      summary := g.has "--summary"
      jobs := jobs
      reportUnrecognized := readReport g }

-- ================================================================ runs

/-- The name and version of the program. -/
def versionLine : Text := "bangtag 0.1.0\n"

/-- Runs a command with its arguments. -/
def runCommand (r : Options.Reader) (h : Host) (w : Workspace)
    (command : Text) (args : List Text) : Outcome :=
  if command = "extract" then
    match (r.given? extractSpecs args).bind (extractArgs? r) with
    | some args => finish (extract h w args) w
    | none => .refused
  else if command = "lint" then
    match (r.given? lintSpecs args).bind (lintArgs? r) with
    | some args => finish ((lint h w args).map (·, w)) w
    | none => .refused
  else .refused

/-- Is the version asked for, before the first argument that is no option
or after two dashes? Nothing when another option stands there. -/
def asksVersion? (asked : Bool) : List Text → Option Bool
  | [] => some asked
  | argument :: rest =>
    if argument = "--version" then asksVersion? true rest
    else if Options.isOption argument && argument != "--" then none
    else some asked

/-- The answer to the question for the version, when it is asked. -/
def answerVersion (w : Workspace) (arguments : List Text) : Outcome :=
  if asksVersion? false arguments = some true then
    .printed ⟨0, versionLine, []⟩ w
  else .refused

/-- Runs the program. Before the command only the question for the version
may come, which is answered whatever follows it. Two dashes may come before
the command; an option after them is no command, but if it asks for the
version it is answered too. -/
def run (r : Options.Reader) (h : Host) (w : Workspace)
    (arguments : List Text) : Outcome :=
  if asksVersion? false arguments = some false then
    let arguments :=
      if arguments.head? = some (Text.ofString "--") then arguments.drop 1
      else arguments
    match arguments with
    | [] => .refused
    | command :: rest =>
      if Options.isOption command then answerVersion w arguments
      else runCommand r h w command rest
  else answerVersion w arguments

end Marginalia.CommandLine
