/-
Paths as they are written. A path is a run of leading slashes, of which
two exactly are told apart from one, and the components after it; empty
components and single dots are dropped when a path is read, double dots
stay. Paths are ordered component by component, so that `src/app` comes
before `src.d`.
-/
import Marginalia.Text.Lowercase

namespace Marginalia

-- ============================================================== paths

/-- A path: what it starts with (nothing, one slash or two), and its
components. -/
structure Path where
  root : Text
  parts : List Text
  deriving DecidableEq, Repr

namespace Path

/-- The root of a written path: three or more slashes count as one. -/
def rootOf : Text → Text
  | .scalar '/' :: .scalar '/' :: .scalar '/' :: _ => "/"
  | .scalar '/' :: .scalar '/' :: _ => "//"
  | .scalar '/' :: _ => "/"
  | _ => []

/-- Reads a written path. -/
def ofText (t : Text) : Path :=
  ⟨rootOf t, (Text.splitOn (.scalar '/') t).filter
    fun part => !part.isEmpty && part != [.scalar '.']⟩

/-- Reads a path that is to be followed; a NUL stands in none. -/
def ofText? (t : Text) : Option Path :=
  if t.contains (.ofNat 0) then none else some (ofText t)

/-- Does the path start at the root of the file system? -/
def isAbsolute (p : Path) : Bool := !p.root.isEmpty

/-- The written form; a path without components is a single dot. -/
def toText (p : Path) : Text :=
  if p.root.isEmpty && p.parts.isEmpty then "."
  else p.root ++ Text.joinWith "/" p.parts

/-- The path followed by another one, which wins when it is absolute. -/
def append (p q : Path) : Path :=
  if q.isAbsolute then q else ⟨p.root, p.parts ++ q.parts⟩

instance : Append Path := ⟨append⟩

/-- The path with one more component. -/
def child (p : Path) (part : Text) : Path := ⟨p.root, p.parts ++ [part]⟩

/-- The path without its last component; the root is its own parent. -/
def parent (p : Path) : Path := ⟨p.root, p.parts.dropLast⟩

/-- The last component, empty when there is none. -/
def name (p : Path) : Text := p.parts.getLastD []

/-- The extension of a name with its dot: the text from the last dot on,
when that dot is neither the first nor the last character. -/
def extensionOf (name : Text) : Text :=
  let tail := (name.reverse.takeWhile (· != .scalar '.')).reverse
  if tail.isEmpty || name.length ≤ tail.length + 1 then []
  else .scalar '.' :: tail

/-- The extension of the last component. -/
def extension (p : Path) : Text := extensionOf p.name

-- ============================================================== order

/-- Lexicographic order on lists of components. -/
def lePartsOf : List Text → List Text → Bool
  | [], _ => true
  | _ :: _, [] => false
  | a :: as, b :: bs => if a = b then lePartsOf as bs else Text.le a b

/-- The components that paths are compared by, the root first. -/
def keyParts (p : Path) : List Text :=
  if p.root.isEmpty then p.parts else p.root :: p.parts

/-- Paths in order, component by component. -/
def le (p q : Path) : Bool := lePartsOf p.keyParts q.keyParts

-- ======================================================= resolution

/-- Walks components from a directory, one step up for each double dot;
the root has nothing above it. -/
def resolveParts : List Text → List Text → List Text
  | done, [] => done
  | done, part :: parts =>
    if part = [.scalar '.', .scalar '.'] then resolveParts done.dropLast parts
    else resolveParts (done ++ [part]) parts

/-- The absolute path, free of double dots, that a path means when it is
read from the directory `base`. -/
def resolve (base p : Path) : Path :=
  let whole := base ++ p
  ⟨"/", resolveParts [] whole.parts⟩

/-- The components of `p` below `base`, when it lies there. -/
def relativeTo? (p base : Path) : Option Path :=
  if p.root = base.root && base.parts.isPrefixOf p.parts then
    some ⟨[], p.parts.drop base.parts.length⟩
  else none

end Path

end Marginalia
