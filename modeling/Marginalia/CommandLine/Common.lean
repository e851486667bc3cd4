/-
What the commands share: what a run is given besides its arguments, how it may
end, and its way from the working folder to a report. A run finds the project
of the working folder, looks for files and scans them.

A run ends with an exit code and what it printed, is refused because of its
arguments, or breaks off: a pattern that is none, a file that cannot be
written, settings that are no table, a message that is no markup, a number
of too many digits, or text that has no encoding.
-/
import Marginalia.Batch
import Marginalia.Console
import Marginalia.Discovery
import Marginalia.Files.AtomicWrite
import Marginalia.Project

namespace Marginalia

/-- A text on a stream that writes what has no encoding as escapes. -/
def Text.backslashed : Text → Text
  | [] => []
  | .scalar c :: t => .scalar c :: backslashed t
  | .surrogate half :: t =>
    Text.ofString "\\u" ++ Text.ofHex 4 (0xD800 + half.val) ++ backslashed t

namespace CommandLine

-- =============================================================== hosts

/-- What a run finds around it: the consoles of its output and of its errors,
how deep settings may nest, and what the system refuses when a file is
written. -/
structure Host where
  output : Console
  errors : Console
  limits : Toml.Limits
  refusals : Refusals

-- ============================================================ outcomes

/-- What a run printed and the code it ended with. -/
structure Printed where
  exit : Nat
  stdout : Text
  stderr : Text

/-- Why a run broke off. -/
inductive Breakdown where
  | project (cause : ProjectError)
  | discovery (cause : Discovery.Failure)
  | write (cause : WriteFault)
  | console (cause : Console.Fault)
  | tooManyDigits
  | notEncodable

/-- How a run ended. -/
inductive Outcome where
  | printed (p : Printed) (w : Workspace)
  | refused
  | brokeOff (b : Breakdown)

/-- A step of a run, which may end it early: printed, or broken off. -/
inductive Stop where
  | printed (p : Printed)
  | brokeOff (b : Breakdown)

/-- Lines on a console, from markup. -/
def printMarkup (c : Console) (t : Text) : Except Stop Text :=
  match c.markup t with
  | .ok shown => .ok (c.printed shown)
  | .error fault => .error (.brokeOff (.console fault))

/-- The code of a run whose arguments or settings are wrong. -/
def usageCode : Nat := 2

/-- What stands in front of the message of an error. -/
def heading : Text := "[red bold]error:[/red bold] "

/-- An error that ends a run: as an object on the output when that is JSON,
and as a line on the error stream otherwise. The message is read as
markup. -/
def errorExit (c : Console) (json : Bool) (code : Nat) (message : Text) :
    Stop :=
  if json then
    .printed ⟨code,
      Json.write Json.prettyAscii (.object [("error", .str message)]) ++ "\n",
      []⟩
  else
    match printMarkup c (heading ++ message) with
    | .ok line => .printed ⟨code, [], line⟩
    | .error stop => stop

/-- A value as JSON on the output. -/
def printJson (v : Json) : Text := v.write Json.pretty ++ "\n"

/-- The end of a run, once everything on its output is known to have an
encoding. The error stream writes what has none as escapes, and so does the
object of an error. -/
def finish : Except Stop (Printed × Workspace) → Workspace → Outcome
  | .ok (p, w), _ =>
    if Text.isEncodable p.stdout then
      .printed { p with stderr := p.stderr.backslashed } w
    else .brokeOff .notEncodable
  | .error (.printed p), w =>
    .printed { p with stderr := p.stderr.backslashed } w
  | .error (.brokeOff b), _ => .brokeOff b

-- ============================================================ the way

/-- The settings of the project that a run is in. -/
def settings (h : Host) (w : Workspace) (json : Bool) :
    Except Stop Settings :=
  match Project.find h.limits w w.cwdPath with
  | .ok p => .ok p.settings
  | .error e =>
    if e.isReported then
      .error (errorExit h.errors json usageCode e.message)
    else .error (.brokeOff (.project e))

/-- The inputs that some paths stand for. -/
def inputs (w : Workspace) (s : Settings) (language : Option Text)
    (paths : List Path) : Except Stop (List Source) :=
  match Discovery.files w s paths with
  | .error e => .error (.brokeOff (.discovery e))
  | .ok files => .ok (files.map fun p =>
      ⟨Discovery.displayName w (some w.cwdPath) p,
        Discovery.languageHint s language p, .path p⟩)

/-- The number of workers: the one that was asked for, unless it is
zero. -/
def workers (s : Settings) (jobs : Option Int) : Int :=
  match jobs with
  | some 0 | none => s.jobs
  | some n => n

/-- Scans inputs as the settings and the arguments say. -/
def scan (w : Workspace) (s : Settings) (reportUnrecognized : Option Bool)
    (sources : List Source) : Report :=
  let options : ScanOptions :=
    ⟨reportUnrecognized.getD s.reportUnrecognized, s.styles, []⟩
  options.scanAll w sources

end CommandLine

end Marginalia
