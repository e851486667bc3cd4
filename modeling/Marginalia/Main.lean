/-
The program. It takes a picture of the folders that a run may look at, runs
the command on it, prints what the run printed, and carries out what
changed: the folders that were made and the files that were written, each
of them beside its place first and then moved there.
-/
import Marginalia.CommandLine.Reading
import Marginalia.CommandLine.Run
import Marginalia.Display.Console

namespace Marginalia.Program

-- ============================================================= picture

/-- A text as the system takes it; code points that cannot be encoded are
left out. -/
def toSystem (t : Text) : String :=
  String.ofList (t.filterMap fun
    | .scalar c => some c
    | .surrogate _ => none)

/-- The written form of a place. -/
def written (here : Location) : String := toSystem (Path.toText ⟨"/", here⟩)

/-- What stands at a directory entry. Links are followed to files only, so
that the walk ends; what cannot be read is left out. -/
partial def readEntry (entry : IO.FS.DirEntry) : IO (Option Tree) := do
  try
    let kind := (← entry.path.symlinkMetadata).type
    if kind == .dir then
      let mut entries : List (Text × Tree) := []
      for inner in ← entry.path.readDir do
        if let some t ← readEntry inner then
          entries := (Text.ofString inner.fileName, t) :: entries
      return some (.folder entries)
    else if ← entry.path.isDir then return none
    else
      return some (.file (← IO.FS.readBinFile entry.path).toList)
  catch _ => return none

/-- What stands at a place. -/
def readPlace (here : Location) : IO (Option Tree) := do
  readEntry ⟨(← IO.currentDir) / "/", written here⟩

/-- The tree with the settings files of a folder and of those above it. -/
def readSettings (tree : Tree) : List Text → Location → IO Tree
  | names, here => do
    let mut tree := (Workspace.ensureFolders "/" ⟨tree, []⟩ here.reverse).1.tree
    for name in [Project.settingsName, Project.sharedName] do
      if let some (.file content) ← readPlace (here ++ [name]) then
        tree := tree.set (some (.file content)) (here ++ [name])
    match names with
    | [] => return tree
    | name :: rest => readSettings tree rest (here ++ [name])

/-- The tree with what stands at a place. -/
def addPlace (tree : Tree) (here : Location) : IO Tree := do
  match ← readPlace here with
  | none => return tree
  | some found =>
    let above := here.dropLast
    let tree := (Workspace.ensureFolders "/" ⟨tree, []⟩ above.reverse).1.tree
    return tree.set (some found) here

/-- The picture for a run in a folder with some arguments: that folder,
what any argument leads to outside it, and the settings above. -/
def takePicture (cwd : Location) (args : List Text) : IO Tree := do
  let mut tree ← readSettings (.folder []) cwd []
  tree ← addPlace tree cwd
  for argument in args do
    let here := (Workspace.resolve ⟨tree, cwd⟩ (.ofText argument)).parts
    if !cwd.isPrefixOf here then tree ← addPlace tree here
  return tree

-- ============================================================= changes

/-- Writes a file beside its place and moves it there. -/
def writePlace (here : Location) (content : Utf8.Bytes) : IO Unit := do
  let temporary := (Workspace.temporaryFor ⟨"/", here⟩).parts
  IO.FS.writeBinFile (written temporary) ⟨content.toArray⟩
  IO.FS.rename (written temporary) (written here)

mutual

/-- Brings a place from one state to another. -/
partial def carryOut (here : Location) (old : Option Tree) : Tree → IO Unit
  | .file content =>
    match old with
    | some (.file before) =>
      if before == content then return () else writePlace here content
    | _ => writePlace here content
  | .folder entries => do
    let before := match old with
      | some (.folder before) => before
      | _ => []
    if old.isNone then IO.FS.createDirAll (written here)
    carryOutEntries here before entries

/-- Brings the entries of a folder from one state to another. -/
partial def carryOutEntries (here : Location) (before : List (Text × Tree)) :
    List (Text × Tree) → IO Unit
  | [] => return ()
  | (name, t) :: rest => do
    carryOut (here ++ [name]) (Assoc.get? before name) t
    carryOutEntries here before rest

end

-- ================================================================= run

/-- What a breakdown is called on the error stream. -/
def breakdownText : CommandLine.Breakdown → Text
  | .project cause => cause.message
  | .discovery cause => cause.message
  | .write (.path fault) => fault.reason
  | .write (.noName target) => target.toText ++ ": no file name"
  | .tooManyDigits => DigitLimit.writeMessage
  | .write .notEncodable | .notEncodable => "text without an encoding"
  | .write (.refused _) => "the system refused to write"
  | .console (.markup reason) | .console (.value reason) => reason

/-- How many cells a line has where nothing says how many fit. -/
def defaultWidth : Nat := 80

/-- What a run of the program finds around it. -/
def host : CommandLine.Host where
  output := Display.console defaultWidth
  errors := Display.console defaultWidth
  limits := ⟨970, 975⟩
  refusals := .none

/-- Runs the program and gives its exit code. -/
def run (args : List Text) : IO UInt32 := do
  let cwd := (Path.ofText (Text.ofString (← IO.currentDir).toString)).parts
  let tree ← takePicture cwd args
  match CommandLine.run Options.reader host ⟨tree, cwd⟩ args with
  | .printed p w =>
    carryOut [] (some tree) w.tree
    (← IO.getStdout).putStr (toSystem p.stdout)
    (← IO.getStderr).putStr (toSystem p.stderr)
    return .ofNat p.exit
  | .refused =>
    (← IO.getStderr).putStrLn
      "Usage: bangtag [--version] (extract | lint) [OPTIONS] [PATHS]"
    return .ofNat CommandLine.usageCode
  | .brokeOff b =>
    (← IO.getStderr).putStrLn (toSystem (breakdownText b))
    return 1

end Marginalia.Program

/-- The program with its arguments. -/
def main (args : List String) : IO UInt32 :=
  Marginalia.Program.run (args.map Marginalia.Text.ofString)
