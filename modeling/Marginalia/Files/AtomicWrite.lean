/-
Writing a file so that nobody ever sees half of it: the text goes to a
temporary file beside the target, which then takes the target's place. The
folders above the target are made where they are missing. When anything
fails, the temporary file is taken away again and the target is as it was.

The tree has neither links nor files of several names. A link that stands where
the temporary file goes would be followed, so that whatever it leads to, which
may be the target, is written over before anything is moved.
-/
import Marginalia.Files.Tree

namespace Marginalia

/-- The steps of a write that the system may refuse for reasons of its
own, such as a full disk: making a folder, opening the temporary file, writing
the text to it, putting it in the target's place, and taking it away again. -/
inductive WriteStep where
  | folder (p : Path)
  | opening
  | writing
  | replacement
  | removal
  deriving DecidableEq, Repr

/-- Why a file was not written. -/
inductive WriteFault where
  | path (fault : PathFault)
  | noName (target : Path)
  | notEncodable
  | refused (step : WriteStep)
  deriving DecidableEq, Repr

/-- The steps that the system refuses. -/
abbrev Refusals := WriteStep → Bool

/-- A system that refuses nothing. -/
def Refusals.none : Refusals := fun _ => false

namespace Workspace

-- ============================================================= folders

/-- The folder that the last component of a path stands in. -/
def folderOf (w : Workspace) (p : Path) : Except PathFault Location :=
  if isLongerThan maxPathSize p.toText then .error .nameTooLong
  else
    match w.locate p.parent with
    | .error fault => .error fault
    | .ok here =>
      match w.tree.at? here with
      | some (.folder _) => .ok here
      | some (.file _) => .error .notFolder
      | none => .error .missing

/-- Makes one folder, whose parent has to exist. -/
def makeFolder (w : Workspace) (p : Path) : Except PathFault Workspace :=
  match p.parts.getLast? with
  | none => .error .present
  | some name =>
    match w.folderOf p with
    | .error fault => .error fault
    | .ok here =>
      if name = [.scalar '.', .scalar '.']
          || (w.tree.at? (here ++ [name])).isSome then
        .error .present
      else if isLongerThan maxNameSize name then .error .nameTooLong
      else .ok
        { w with tree := w.tree.set (some (.folder [])) (here ++ [name]) }

/-- Makes one folder unless it is there already. -/
def ensureFolder (w : Workspace) (refusals : Refusals) (p : Path) :
    Workspace × Option WriteFault :=
  match w.makeFolder p with
  | .ok w' =>
    if refusals (.folder p) then (w, some (.refused (.folder p)))
    else (w', none)
  | .error fault =>
    if w.isFolder p then (w, none) else (w, some (.path fault))

/-- Makes a folder, given by its components from the last to the first, and
the folders above it that are missing, as far as the system lets it. -/
def ensureFoldersUnless (refusals : Refusals) (root : Text) (w : Workspace)
    (names : List Text) : Workspace × Option WriteFault :=
  match names with
  | [] => w.ensureFolder refusals ⟨root, []⟩
  | name :: above =>
    let p : Path := ⟨root, (name :: above).reverse⟩
    match w.makeFolder p with
    | .error .missing =>
      match ensureFoldersUnless refusals root w above with
      | (w', some fault) => (w', some fault)
      | (w', none) => w'.ensureFolder refusals p
    | _ => w.ensureFolder refusals p

/-- Makes a folder and the folders above it where the system refuses
nothing. -/
def ensureFolders (root : Text) (w : Workspace) (names : List Text) :
    Workspace × Option WriteFault :=
  ensureFoldersUnless .none root w names

-- =============================================================== files

/-- Writes the bytes of a file whose folder exists. -/
def writeFile (w : Workspace) (p : Path) (content : Utf8.Bytes) :
    Except PathFault Workspace :=
  match w.folderOf p with
  | .error fault => .error fault
  | .ok here =>
    let place := here ++ [p.name]
    if p.name = [.scalar '.', .scalar '.'] then .error .isFolder
    else
      match w.tree.at? place with
      | some (.folder _) => .error .isFolder
      | some (.file _) =>
        .ok { w with tree := w.tree.set (some (.file content)) place }
      | none =>
        if isLongerThan maxNameSize p.name then .error .nameTooLong
        else .ok { w with tree := w.tree.set (some (.file content)) place }

/-- Takes a file away, if there is one. -/
def removeFile (w : Workspace) (p : Path) : Workspace :=
  match w.locate p with
  | .ok here =>
    if w.isFile p then { w with tree := w.tree.set none here } else w
  | .error _ => w

/-- The temporary file that stands beside a target. -/
def temporaryFor (target : Path) : Path :=
  target.parent.child ("." ++ target.name ++ ".tmp")

/-- Writes the temporary file. Opening it empties it, before anything can
fail about the text. -/
def writeTemporary (w : Workspace) (refusals : Refusals) (target : Path)
    (t : Text) : Workspace × Option WriteFault :=
  if refusals .opening then (w, some (.refused .opening))
  else
    match w.writeFile (temporaryFor target) [] with
    | .error fault => (w, some (.path fault))
    | .ok opened =>
      if refusals .writing then (opened, some (.refused .writing))
      else
        match Utf8.encode t with
        | none => (opened, some .notEncodable)
        | some content =>
          match opened.writeFile (temporaryFor target) content with
          | .error fault => (opened, some (.path fault))
          | .ok written => (written, none)

/-- Puts the temporary file in the target's place. The system never puts
anything in the place of a double dot. -/
def moveToTarget (w : Workspace) (refusals : Refusals) (target : Path) :
    Workspace × Option WriteFault :=
  if refusals .replacement || target.name = [.scalar '.', .scalar '.'] then
    (w, some (.refused .replacement))
  else
    match w.bytesAt (temporaryFor target) with
    | .error fault => (w, some (.path fault))
    | .ok content =>
      match w.writeFile target content with
      | .error fault => (w, some (.path fault))
      | .ok moved => (moved.removeFile (temporaryFor target), none)

/-- Takes the temporary file away again after a fault. A refusal of that is
passed over, for the fault is what there is to tell. -/
def withdraw (w : Workspace) (refusals : Refusals) (target : Path) :
    Workspace :=
  if refusals .removal then w else w.removeFile (temporaryFor target)

/-- Writes a text to a file, whole or not at all. -/
def writeAtomically (w : Workspace) (refusals : Refusals) (target : Path)
    (t : Text) : Workspace × Option WriteFault :=
  match ensureFoldersUnless refusals target.root w
      target.parent.parts.reverse with
  | (w, some fault) => (w, some fault)
  | (w, none) =>
    if target.name.isEmpty then (w, some (.noName target))
    else
      match w.writeTemporary refusals target t with
      | (w, some fault) => (w.withdraw refusals target, some fault)
      | (w, none) =>
        match w.moveToTarget refusals target with
        | (w, some fault) => (w.withdraw refusals target, some fault)
        | (w, none) => (w, none)

end Workspace

end Marginalia
