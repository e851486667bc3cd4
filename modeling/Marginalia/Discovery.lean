/-
Which files a run looks at. A file that is named is taken as it is; a
folder stands for what the project's patterns select below it, except what
lies in an excluded folder, is excluded by its own name, or looks binary.
The files come in the order of their paths, each path once.
-/
import Marginalia.Files.System
import Marginalia.Settings

namespace Marginalia.Discovery

-- ============================================================ failures

/-- Why no files are found: a pattern that is none, or a path that the
system cannot answer for. -/
inductive Failure where
  | pattern (cause : Glob.PatternError)
  | path (fault : PathFault)
  deriving DecidableEq, Repr

/-- The failure in words. -/
def Failure.message : Failure → Text
  | .pattern cause => cause.message
  | .path fault => fault.reason

-- ============================================================= filters

/-- How much of a file is looked at to tell whether it is binary. -/
def sniffLength : Nat := 8192

/-- Does the file hold a NUL near its start? One that cannot be read is
not held against it. -/
def looksBinary (sys : System) (p : Path) : Bool :=
  match sys.bytesAt p with
  | .ok content => (content.take sniffLength).contains 0
  | .error _ => false

/-- Is any component of the path below the folder an excluded name? -/
def isExcluded (exclude : List Text) (folder p : Path) : Bool :=
  match p.relativeTo? folder with
  | some below => below.parts.any exclude.contains
  | none => false

/-- The files that one pattern finds below a folder. The system has to
answer for each path that is found. -/
def found (sys : System) (exclude : List Text) (folder : Path)
    (pattern : Text) : Except Failure (List Path) :=
  match sys.find folder pattern with
  | .error cause => .error (.pattern cause)
  | .ok paths =>
    match paths.mapM sys.hasFile with
    | .error fault => .error (.path fault)
    | .ok _ => .ok (paths.filter fun p =>
        sys.isFile p && !isExcluded exclude folder p && !looksBinary sys p)

/-- The files that one path stands for. -/
def filesOf (sys : System) (s : Settings) (p : Path) :
    Except Failure (List Path) :=
  match sys.hasFile p with
  | .error fault => .error (.path fault)
  | .ok true => .ok [p]
  | .ok false =>
    match sys.hasFolder p with
    | .error fault => .error (.path fault)
    | .ok true => (s.patterns.mapM (found sys s.exclude p)).map List.flatten
    | .ok false => .ok []

/-- The files that some paths stand for, in order; no path stands for the
working folder. -/
def filesIn (sys : System) (s : Settings) (paths : List Path) :
    Except Failure (List Path) :=
  let paths := if paths.isEmpty then [sys.cwd] else paths
  (paths.mapM (filesOf sys s)).map fun groups =>
    groups.flatten.eraseDups.mergeSort Path.le

/-- The files that some paths stand for in a workspace. -/
def files (w : Workspace) (s : Settings) (paths : List Path) :
    Except Failure (List Path) :=
  filesIn w.system s paths

-- =============================================================== names

/-- The name a file goes by: its path below the base folder when it lies
there, and otherwise its path as it was given. -/
def displayName (w : Workspace) (base : Option Path) (p : Path) : Text :=
  match base with
  | none => p.toText
  | some base =>
    match (w.resolve p).relativeTo? (w.resolve base) with
    | some below => below.toText
    | none => p.toText

/-- The language hint of a file: the one that is forced, or what its path
says. A forced language that is empty does not count. -/
def languageHint (s : Settings) (forced : Option Text) (p : Path) :
    Option Text :=
  match forced with
  | some (c :: name) => some (c :: name)
  | _ => Catalog.languageOf p s.languages

end Marginalia.Discovery
