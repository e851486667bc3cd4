/-
What the system answers when it is asked about paths: whether one leads to a
file or to a folder, what a pattern finds below it, and the bytes it leads to.
Each of these may be refused, for a reason that is the system's own: a name is
too long, a folder may not be entered, a disk does not answer.

A workspace is such a system. Its tree has neither links nor permissions, so
that a name that is too long is all it refuses to answer for.
-/
import Marginalia.Files.Glob

namespace Marginalia

/-- The answers of a system. The paths that a pattern finds come in their
order. -/
structure System where
  cwd : Path
  hasFile : Path → Except PathFault Bool
  hasFolder : Path → Except PathFault Bool
  find : Path → Text → Except Glob.PatternError (List Path)
  bytesAt : Path → Except PathFault Utf8.Bytes

/-- Does the path lead to a file, as far as there is an answer? -/
def System.isFile (sys : System) (p : Path) : Bool :=
  match sys.hasFile p with
  | .ok b => b
  | .error _ => false

/-- The answers about a tree. -/
def Workspace.system (w : Workspace) : System where
  cwd := w.cwdPath
  hasFile := w.hasFile
  hasFolder := w.hasFolder
  find := Glob.run w
  bytesAt := w.bytesAt

end Marginalia
