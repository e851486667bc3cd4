/-
A tree of folders and files, and the place inside it that a run works
from. A path is followed one component at a time, as the system follows
it: every component but the last has to be a folder that exists, and a
double dot leads to the folder above. The root has no folder above it. A
name has a greatest length, and so has a written path.
-/
import Marginalia.Assoc
import Marginalia.Path
import Marginalia.Text.Utf8

namespace Marginalia

-- =============================================================== trees

/-- A file with its bytes, or a folder with its entries. -/
inductive Tree where
  | file (content : Utf8.Bytes)
  | folder (entries : List (Text × Tree))

/-- A place in a tree: the names on the way to it from the root. -/
abbrev Location := List Text

namespace Tree

instance : Inhabited Tree := ⟨.folder []⟩

/-- Is this a folder? -/
def isFolder : Tree → Bool
  | .folder _ => true
  | .file _ => false

/-- What stands at a place. -/
def at? : Tree → Location → Option Tree
  | t, [] => some t
  | .file _, _ :: _ => none
  | .folder entries, name :: rest =>
    match Assoc.get? entries name with
    | some t => t.at? rest
    | none => none

/-- The tree with `new` at a place, or with nothing there. A place whose
folder does not exist is left alone. -/
def set (new : Option Tree) : Tree → Location → Tree
  | t, [] => new.getD t
  | .file content, _ :: _ => .file content
  | .folder entries, [name] =>
    match new with
    | some t => .folder (Assoc.put entries name t)
    | none => .folder (Assoc.erase entries name)
  | .folder entries, name :: rest =>
    match Assoc.get? entries name with
    | some t => .folder (Assoc.put entries name (set new t rest))
    | none => .folder entries

/-- The names of the entries of a folder. -/
def names : Tree → List Text
  | .file _ => []
  | .folder entries => entries.map (·.1)

mutual

/-- All folders of a tree by their places in it, the tree itself first when
it is one. -/
def folders : Tree → List Location
  | .file _ => []
  | .folder entries => [] :: entryFolders entries

/-- The folders inside some entries. -/
def entryFolders : List (Text × Tree) → List Location
  | [] => []
  | (name, t) :: rest =>
    (folders t).map (name :: ·) ++ entryFolders rest

end

end Tree

-- ========================================================== workspaces

/-- Why the system refuses something about a path. -/
inductive PathFault where
  | missing
  | notFolder
  | isFolder
  | present
  | nameTooLong
  | denied
  | broken
  deriving DecidableEq, Repr

/-- The refusal in the words of the system. -/
def PathFault.reason : PathFault → Text
  | .missing => "No such file or directory"
  | .notFolder => "Not a directory"
  | .isFolder => "Is a directory"
  | .present => "File exists"
  | .nameTooLong => "File name too long"
  | .denied => "Permission denied"
  | .broken => "Input/output error"

/-- A tree and the folder that relative paths start from. -/
structure Workspace where
  tree : Tree
  cwd : Location

namespace Workspace

/-- The working folder as an absolute path. -/
def cwdPath (w : Workspace) : Path := ⟨"/", w.cwd⟩

/-- How many bytes a name may have. -/
def maxNameSize : Nat := 255

/-- How many bytes a written path may have. -/
def maxPathSize : Nat := 4095

/-- How many bytes a code point of a name has. A byte that belongs to no
character stands in a name as the half numbered `0xDC00` above it; no other
half has any. -/
def pointSize? : CodePoint → Option Nat
  | .scalar c => some c.utf8Size
  | .surrogate half =>
    if 0x480 ≤ half.val && half.val < 0x500 then some 1 else none

/-- How many bytes a text has as a name or a path, if it can be one. -/
def nameSize? : Text → Option Nat
  | [] => some 0
  | c :: t =>
    match pointSize? c, nameSize? t with
    | some size, some rest => some (size + rest)
    | _, _ => none

/-- Does the text take more than so many bytes? -/
def isLongerThan (size : Nat) (t : Text) : Bool :=
  (nameSize? t).any fun n => size < n

/-- Why there is nothing of a name in a folder. -/
def absence (name : Text) : PathFault :=
  if isLongerThan maxNameSize name then .nameTooLong else .missing

/-- Follows components from a place. The place that is reached exists when
the one it starts from does. -/
def follow (t : Tree) (here : Location) :
    List Text → Except PathFault Location
  | [] => .ok here
  | part :: rest =>
    match t.at? here with
    | none => .error .missing
    | some (.file _) => .error .notFolder
    | some (.folder _) =>
      if part = [.scalar '.', .scalar '.'] then follow t here.dropLast rest
      else if (t.at? (here ++ [part])).isSome then
        follow t (here ++ [part]) rest
      else .error (absence part)

/-- The place that a path leads to. -/
def locate (w : Workspace) (p : Path) : Except PathFault Location :=
  if isLongerThan maxPathSize p.toText then .error .nameTooLong
  else follow w.tree (if p.isAbsolute then [] else w.cwd) p.parts

/-- What stands where a path leads. -/
def entry? (w : Workspace) (p : Path) : Option Tree :=
  match w.locate p with
  | .ok here => w.tree.at? here
  | .error _ => none

/-- Does the path lead to a file? -/
def isFile (w : Workspace) (p : Path) : Bool :=
  match w.entry? p with
  | some (.file _) => true
  | _ => false

/-- Does the path lead to a file? A name that is too long is no answer. -/
def hasFile (w : Workspace) (p : Path) : Except PathFault Bool :=
  match w.locate p with
  | .error .nameTooLong => .error .nameTooLong
  | _ => .ok (w.isFile p)

/-- Does the path lead to a folder? -/
def isFolder (w : Workspace) (p : Path) : Bool :=
  match w.entry? p with
  | some (.folder _) => true
  | _ => false

/-- Does the path lead to a folder? A name that is too long is no
answer. -/
def hasFolder (w : Workspace) (p : Path) : Except PathFault Bool :=
  match w.locate p with
  | .error .nameTooLong => .error .nameTooLong
  | _ => .ok (w.isFolder p)

/-- The bytes of the file that a path leads to. -/
def bytesAt (w : Workspace) (p : Path) : Except PathFault Utf8.Bytes :=
  match w.locate p with
  | .error fault => .error fault
  | .ok here =>
    match w.tree.at? here with
    | some (.file content) => .ok content
    | some (.folder _) => .error .isFolder
    | none => .error .missing

/-- The absolute path, free of double dots, that a path means here. -/
def resolve (w : Workspace) (p : Path) : Path := Path.resolve w.cwdPath p

end Workspace

end Marginalia
