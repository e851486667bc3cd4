/-
Scanning many inputs. An input is a text, some bytes, or the path of a
file; one that cannot be scanned becomes an error of its own and leaves the
others alone. Only a file that is read from its path gets a language from
its name, and only when none is given.

Inputs may be scanned one after another, or by a pool of workers that takes
them up and finishes them in an order of its own. How one input is scanned
is left open there.
-/
import Marginalia.Batch.Pool
import Marginalia.Report
import Marginalia.Files.Tree

namespace Marginalia

/-- What is the same for all inputs: whether markers without a valid key
are reported, the comment styles of the project, and the languages of file
extensions. -/
structure ScanOptions where
  reportUnrecognized : Bool := false
  styles : Assoc Comment.Style := []
  languages : List (Text × Text) := []

/-- Where an input comes from. -/
inductive Body where
  | text (t : Text)
  | bytes (content : Utf8.Bytes)
  | path (p : Path)

/-- An input: the name it goes by, a language hint, and where it comes
from. -/
structure Source where
  file : Text
  language : Option Text
  body : Body

-- ============================================================= batches

namespace Batch

/-- How the scan of an input can fail: with an error that it reports, or
because it runs out of stack. -/
inductive Failure where
  | reported (e : FileError)
  | outOfStack

variable (scan : Source → Except Failure FileScan)

/-- What is kept of the scan of an input. One that ran out of stack is an
error of the input. -/
def outcome (s : Source) : Except FileError FileScan :=
  match scan s with
  | .ok result => .ok result
  | .error (.reported e) => .error e
  | .error .outOfStack => .error ⟨s.file, .outOfStack⟩

/-- Scans inputs one after another. -/
def serial (sources : List Source) : Report :=
  .ofOutcomes (sources.map (outcome scan))

/-- Scans inputs with a pool of workers, as a schedule says; nothing when it
is no schedule for them. -/
def pooled? (workers : Nat) (schedule : List Pool.Event)
    (sources : List Source) : Option Report :=
  (Pool.run? workers (outcome scan) sources schedule).map .ofOutcomes

/-- Scans inputs as so many jobs. One job, or one input, needs no pool. -/
def run? (jobs : Int) (schedule : List Pool.Event) (sources : List Source) :
    Option Report :=
  if jobs ≤ 1 ∨ sources.length ≤ 1 then some (serial scan sources)
  else pooled? scan jobs.toNat schedule sources

end Batch

-- ======================================================== single inputs

namespace ScanOptions

open Batch (Failure)

/-- Scans a text. -/
def scanText (o : ScanOptions) (language : Option Text) (t : Text) : Scan :=
  Scan.ofText (Catalog.styleFor language o.styles) o.reportUnrecognized t

/-- Scans some bytes. -/
def scanBytes (o : ScanOptions) (language : Option Text)
    (content : Utf8.Bytes) : Except ScanError Scan :=
  (Scan.decode content).map (o.scanText language)

/-- Scans the file that a path leads to. -/
def scanPath (o : ScanOptions) (w : Workspace) (language : Option Text)
    (p : Path) : Except ScanError Scan :=
  match w.bytesAt p with
  | .error fault => .error (.unreadable fault.reason)
  | .ok content =>
    let language := language.or (Catalog.languageOf p o.languages)
    o.scanBytes language content

/-- Scans an input under its name. -/
def scanSource (o : ScanOptions) (w : Workspace) (s : Source) :
    Except Failure FileScan :=
  let outcome : Except ScanError Scan :=
    match s.body with
    | .text t => .ok (o.scanText s.language t)
    | .bytes content => o.scanBytes s.language content
    | .path p => o.scanPath w s.language p
  match outcome with
  | .ok scan => .ok ⟨s.file, scan⟩
  | .error e => .error (.reported ⟨s.file, e⟩)

/-- Scans all inputs, in order. -/
def scanAll (o : ScanOptions) (w : Workspace) (sources : List Source) :
    Report :=
  Batch.serial (o.scanSource w) sources

/-- Scans all inputs as so many jobs, as a schedule says. -/
def scanMany? (o : ScanOptions) (w : Workspace) (jobs : Int)
    (schedule : List Pool.Event) (sources : List Source) : Option Report :=
  Batch.run? (o.scanSource w) jobs schedule sources

end ScanOptions

end Marginalia
