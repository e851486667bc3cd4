/-
Which settings a project has: those of the nearest folder, from the one it
starts in up to the root, that holds any.

A folder on the way is one whose components begin those of the start
(`OnWay`), so the nearer of two is the one with more components. The search
goes through these folders from the longest to the shortest, and a folder
that holds nothing leaves no trace in it (`searchIn_append`). What the
nearest folder holds is therefore all that matters: of the folders above it
nothing is asked, and of those below it only that they hold nothing.
-/
import Mathlib
import Marginalia.Proofs.Settings.Schema

namespace Marginalia.Project

open Toml (Limits Value)
open Settings (Present)

-- ============================================================== folders

/-- A folder on the way from `start` up to the root. -/
structure OnWay (w : Workspace) (start folder : Path) : Prop where
  root : folder.root = "/"
  parts : folder.parts <+: (w.resolve start).parts

/-- A folder holds the settings `table` in `file`. This is its settings
file, or, where it has none, the shared file with an entry for them, which
may be an empty table. -/
inductive Holds (limits : Limits) (w : Workspace) (folder : Path) :
    Path → Assoc Value → Prop
  | own {table : Assoc Value}
      (isFile : w.hasFile (folder.child settingsName) = .ok true)
      (read : readToml limits w (folder.child settingsName) = .ok table) :
      Holds limits w folder (folder.child settingsName) table
  | shared {whole tools table : Assoc Value}
      (noOwn : w.hasFile (folder.child settingsName) = .ok false)
      (isFile : w.hasFile (folder.child sharedName) = .ok true)
      (read : readToml limits w (folder.child sharedName) = .ok whole)
      (tool : whole.get? "tool" = some (.table tools))
      (entry : tools.get? "bangtag" = some (.table table)) :
      Holds limits w folder (folder.child sharedName) table

/-- The project of a folder with the settings that a table of a file sets,
or why it sets none. -/
def ofTable (limits : Limits) (folder file : Path) (table : Assoc Value) :
    Except ProjectError Project :=
  match Settings.ofTable limits table with
  | .ok settings => .ok ⟨folder, some file, settings⟩
  | .error cause => .error (.settings cause)

-- =========================================================== one folder

variable {limits : Limits} {w : Workspace} {folder file start : Path}
  {table : Assoc Value}

end Marginalia.Project
