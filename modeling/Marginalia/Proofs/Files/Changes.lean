/-
What stands where in a tree, and what the steps of a write change about it. A
tree is known by what is seen at each place: nothing, a folder, or a file with
its bytes (`node?`). Putting something in a folder, or taking it away, changes
what is seen at one place (`node?_set`), and each step of a write does that at
most.

Paths lead where they led as long as the folders stay (`Leads.mono`), so a
step that keeps them can be spoken of by the places of the steps before it.
-/
import Mathlib.Logic.Function.Basic
import Marginalia.Files.AtomicWrite
import Marginalia.Proofs.Assoc
import Marginalia.Proofs.Files.Search
import Marginalia.Proofs.Files.Spelling

namespace Marginalia

/-- What is seen at a place: a folder, whatever lies in it, or a file. -/
inductive Node where
  | folder
  | file (content : Utf8.Bytes)
  deriving DecidableEq

-- =============================================================== trees

namespace Tree

/-- What is seen of a tree at its root. -/
def kind : Tree → Node
  | .folder _ => .folder
  | .file content => .file content

/-- What is seen at a place of a tree. -/
def node? (t : Tree) (place : Location) : Option Node := (t.at? place).map kind

variable {t : Tree} {place here : Location} {content : Utf8.Bytes}

theorem kind_eq_folder : t.kind = .folder ↔ ∃ entries, t = .folder entries := by
  cases t <;> simp [kind]

theorem kind_eq_file : t.kind = .file content ↔ t = .file content := by
  cases t <;> simp [kind]

theorem node?_eq_folder : t.node? place = some .folder
    ↔ ∃ entries, t.at? place = some (.folder entries) := by
  unfold node?
  simp only [Option.map_eq_some_iff, kind_eq_folder]
  grind

theorem node?_eq_file : t.node? place = some (.file content)
    ↔ t.at? place = some (.file content) := by
  unfold node?
  simp only [Option.map_eq_some_iff, kind_eq_file, exists_eq_right]

theorem node?_eq_none : t.node? place = none ↔ t.at? place = none :=
  Option.map_eq_none_iff

@[simp]
theorem node?_nil (t : Tree) : t.node? [] = some t.kind := by
  cases t <;> rfl

theorem node?_folder_cons (entries : List (Text × Tree)) (name : Text)
    (rest : Location) : (folder entries).node? (name :: rest)
      = (Assoc.get? entries name).bind (·.node? rest) := by
  unfold node?
  rw [at?]
  cases Assoc.get? entries name <;> rfl

/-- Something lies in folders only. -/
theorem node?_below (h : t.node? place ≠ some .folder) (name : Text)
    (rest : Location) : t.node? (place ++ name :: rest) = none := by
  induction place generalizing t with
  | nil =>
      cases t with
      | file content => rfl
      | folder entries => exact absurd rfl h
  | cons first place ih =>
      cases t with
      | file content => rfl
      | folder entries =>
          rw [node?_folder_cons] at h
          rw [List.cons_append, node?_folder_cons]
          cases hget : Assoc.get? entries first with
          | none => rfl
          | some u =>
              rw [hget] at h
              exact ih h

/-- Above a folder is a folder. -/
theorem node?_dropLast (h : t.node? place = some .folder) :
    t.node? place.dropLast = some .folder := by
  rcases List.eq_nil_or_concat place with rfl | ⟨above, name, rfl⟩
  · exact h
  · rw [List.concat_eq_append] at h ⊢
    rw [List.dropLast_concat]
    by_contra habove
    rw [node?_below habove name []] at h
    cases h

/-- Setting an entry of a folder, or taking it away, leaves the others. -/
theorem set_singleton (new : Option Tree) (entries : List (Text × Tree))
    (name : Text) :
    ∃ entries', set new (.folder entries) [name] = .folder entries'
      ∧ ∀ other, Assoc.get? entries' other
        = if name = other then new else Assoc.get? entries other := by
  cases new with
  | some u => exact ⟨_, rfl, fun other => Assoc.get?_put entries name other u⟩
  | none =>
      refine ⟨_, rfl, fun other => ?_⟩
      split
      · rename_i heq
        rw [← heq]
        exact Assoc.get?_erase entries name
      · rename_i hne
        exact Assoc.get?_erase_of_ne entries hne

/-- What is seen below one entry is all that changes when the others stay. -/
theorem node?_folder_congr {entries entries' : List (Text × Tree)}
    {name : Text} {below : Location} {node : Option Node}
    (hother : ∀ other, name ≠ other →
      Assoc.get? entries' other = Assoc.get? entries other)
    (hname : ∀ rest, (folder entries').node? (name :: rest)
      = if rest = below then node else (folder entries).node? (name :: rest)) :
    (folder entries').node?
      = Function.update (folder entries).node? (name :: below) node := by
  funext place
  cases place with
  | nil =>
      rw [Function.update_of_ne (List.cons_ne_nil _ _).symm]
      rfl
  | cons other rest =>
      by_cases hentry : name = other
      · subst hentry
        rw [hname]
        by_cases hrest : rest = below
        · rw [if_pos hrest, hrest, Function.update_self]
        · rw [if_neg hrest, Function.update_of_ne (by simpa using hrest)]
      · have hne : other :: rest ≠ name :: below := by
          simp [Ne.symm hentry]
        rw [Function.update_of_ne hne, node?_folder_cons, node?_folder_cons,
          hother other hentry]

/-- Putting something into a folder that has nothing in it itself, where no
folder was, or taking away what is no folder, changes what is seen at its
place and nothing else. -/
theorem node?_set {new : Option Tree} {name : Text}
    (hhere : t.node? here = some .folder)
    (hnew : ∀ u ∈ new, ∀ name rest, u.node? (name :: rest) = none)
    (hold : t.node? (here ++ [name]) ≠ some .folder) :
    (t.set new (here ++ [name])).node?
      = Function.update t.node? (here ++ [name]) (new.map kind) := by
  induction here generalizing t with
  | nil =>
      obtain ⟨entries, rfl⟩ := kind_eq_folder.1 (Option.some.inj hhere)
      obtain ⟨entries', hset, hget⟩ := set_singleton new entries name
      rw [List.nil_append, hset]
      refine node?_folder_congr (fun other hother => ?_) (fun rest => ?_)
      · rw [hget, if_neg hother]
      rw [node?_folder_cons, hget, if_pos rfl]
      cases rest with
      | nil => cases new <;> simp
      | cons next rest =>
          have hbelow : (folder entries).node? (name :: next :: rest) = none :=
            node?_below hold next rest
          rw [if_neg (List.cons_ne_nil _ _), hbelow]
          cases new with
          | none => rfl
          | some u => exact hnew u rfl next rest
  | cons first here ih =>
      cases t with
      | file content => cases hhere
      | folder entries =>
          rw [node?_folder_cons] at hhere
          rw [List.cons_append, node?_folder_cons] at hold
          cases hget : Assoc.get? entries first with
          | none =>
              rw [hget] at hhere
              cases hhere
          | some u =>
              rw [hget] at hhere hold
              have hset : set new (.folder entries) (first :: (here ++ [name]))
                  = .folder (Assoc.put entries first
                    (set new u (here ++ [name]))) := by
                cases here <;> simp [Tree.set, hget]
              rw [List.cons_append, hset]
              refine node?_folder_congr (fun other hother => ?_)
                (fun rest => ?_)
              · rw [Assoc.get?_put, if_neg hother]
              rw [node?_folder_cons, Assoc.get?_put, if_pos rfl,
                Option.bind_some, ih hhere hold, Function.update_apply,
                node?_folder_cons, hget, Option.bind_some]

end Tree

-- =============================================================== paths

/-- A path is its parent and its name. -/
theorem Path.parts_eq {p : Path} (h : p.parts ≠ []) :
    p.parts = p.parent.parts ++ [p.name] := by
  unfold parent name
  rw [List.getLastD_eq_getLast?, List.getLast?_eq_some_getLast h,
    Option.getD_some, List.dropLast_concat_getLast]

theorem Path.name_of_getLast? {p : Path} {name : Text}
    (h : p.parts.getLast? = some name) : p.parts ≠ [] ∧ p.name = name := by
  constructor
  · rintro hnil
    simp [hnil] at h
  · unfold Path.name
    rw [List.getLastD_eq_getLast?, h, Option.getD_some]

namespace Workspace

/-- The path leads to the place when it is followed, however long it is. -/
def Leads (w : Workspace) (p : Path) (place : Location) : Prop :=
  follow w.tree (if p.isAbsolute then [] else w.cwd) p.parts = .ok place

/-- What is seen at one place has changed, or is what it was; all else is as
it was. -/
structure Changes (w : Workspace) (place : Location) (node : Option Node)
    (w' : Workspace) : Prop where
  cwd : w'.cwd = w.cwd
  tree : w'.tree.node? = Function.update w.tree.node? place node

/-- The folders are where they were. -/
structure KeepsFolders (w w' : Workspace) : Prop where
  cwd : w'.cwd = w.cwd
  folder : ∀ place, w.tree.node? place = some .folder →
    w'.tree.node? place = some .folder

variable {w w' w'' : Workspace} {p : Path} {here place : Location}
  {content : Utf8.Bytes}

theorem KeepsFolders.refl (w : Workspace) : KeepsFolders w w :=
  ⟨rfl, fun _ h => h⟩

@[simp]
theorem follow_nil (t : Tree) (here : Location) : follow t here [] = .ok here :=
  rfl

/-- One component leads on from a folder, to the folder above or to
something in it. -/
theorem follow_cons {t : Tree} {part : Text} {rest : List Text} :
    follow t here (part :: rest) = .ok place
      ↔ t.node? here = some .folder
        ∧ (part = Path.up
            ∧ follow t here.dropLast rest = .ok place
          ∨ part ≠ Path.up
            ∧ t.node? (here ++ [part]) ≠ none
            ∧ follow t (here ++ [part]) rest = .ok place) := by
  rw [follow, Tree.node?_eq_folder]
  unfold Path.up
  simp only [ne_eq, Tree.node?_eq_none]
  cases hat : t.at? here with
  | none => simp
  | some u =>
      cases u with
      | file content => simp
      | folder entries =>
          by_cases hpart : part = [.scalar '.', .scalar '.']
          · simp [hpart]
          · cases hnext : t.at? (here ++ [part]) <;> simp [hpart]

/-- Components are followed one after another. -/
theorem follow_append {t : Tree} {parts rest : List Text} :
    follow t here (parts ++ rest) = .ok place
      ↔ ∃ there, follow t here parts = .ok there
        ∧ follow t there rest = .ok place := by
  induction parts generalizing here with
  | nil => simp
  | cons part parts ih =>
      simp only [List.cons_append, follow_cons, ih]
      grind

/-- Following goes through folders, so it leads where it led as long as they
stay and there is something at its end. -/
theorem follow_mono {t t' : Tree} {parts : List Text}
    (hkeep : ∀ place, t.node? place = some .folder →
      t'.node? place = some .folder)
    (hthere : t'.node? place ≠ none)
    (h : follow t here parts = .ok place) :
    follow t' here parts = .ok place := by
  induction parts generalizing here with
  | nil => exact h
  | cons part rest ih =>
      obtain ⟨hhere, ⟨hpart, hrest⟩ | ⟨hpart, hnext, hrest⟩⟩ := follow_cons.1 h
      · exact follow_cons.2 ⟨hkeep here hhere, .inl ⟨hpart, ih hrest⟩⟩
      · refine follow_cons.2
          ⟨hkeep here hhere, .inr ⟨hpart, ?_, ih hrest⟩⟩
        cases rest with
        | nil =>
            cases hrest
            exact hthere
        | cons next rest =>
            rw [hkeep _ (follow_cons.1 hrest).1]
            simp

theorem Leads.unique {place' : Location} (h : w.Leads p place)
    (h' : w.Leads p place') : place = place' :=
  Except.ok.inj (h.symm.trans h')

theorem Leads.mono (h : w.Leads p place) (hkeep : KeepsFolders w w')
    (hthere : w'.tree.node? place ≠ none) : w'.Leads p place := by
  unfold Leads
  rw [hkeep.cwd]
  exact follow_mono hkeep.folder hthere h

/-- What a path leads to is found from the folder that its parent leads
to. -/
theorem Leads.parent (h : w.Leads p place) (hparts : p.parts ≠ []) :
    ∃ here, w.Leads p.parent here ∧ w.tree.node? here = some .folder := by
  unfold Leads at h
  rw [Path.parts_eq hparts, follow_append] at h
  obtain ⟨here, hhere, hrest⟩ := h
  exact ⟨here, hhere, (follow_cons.1 hrest).1⟩

/-- A path that ends in a name leads into the folder that its parent leads
to. -/
theorem leads_iff (hparts : p.parts ≠ [])
    (hname : p.name ≠ Path.up) :
    w.Leads p place ↔ ∃ here, w.Leads p.parent here
      ∧ w.tree.node? here = some .folder ∧ place = here ++ [p.name]
      ∧ w.tree.node? place ≠ none := by
  unfold Leads
  rw [Path.parts_eq hparts, follow_append]
  simp only [follow_cons, hname, false_and, false_or, ne_eq,
    not_false_eq_true, true_and, follow_nil, Except.ok.injEq]
  constructor
  · rintro ⟨here, hhere, hfolder, hthere, rfl⟩
    exact ⟨here, hhere, hfolder, rfl, hthere⟩
  · rintro ⟨here, hhere, hfolder, rfl, hthere⟩
    exact ⟨here, hhere, hfolder, hthere, rfl⟩

/-- A double dot leads to no file. -/
theorem name_ne_up_of_file (hparts : p.parts ≠ []) (h : w.Leads p place)
    (hfile : w.tree.node? place = some (.file content)) :
    p.name ≠ Path.up := by
  intro hup
  unfold Leads at h
  rw [Path.parts_eq hparts, follow_append] at h
  obtain ⟨here, -, hrest⟩ := h
  obtain ⟨hfolder, ⟨-, hplace⟩ | ⟨hne, -⟩⟩ := follow_cons.1 hrest
  · cases hplace
    rw [Tree.node?_dropLast hfolder] at hfile
    cases hfile
  · exact hne hup

/-- The folder that a path leads to is where it was. -/
theorem KeepsFolders.leads (h : KeepsFolders w w') (hleads : w.Leads p here)
    (hfolder : w.tree.node? here = some .folder) : w'.Leads p here :=
  hleads.mono h (by simp [h.folder here hfolder])

theorem locate_eq_ok : w.locate p = .ok place
    ↔ isLongerThan maxPathSize p.toText = false ∧ w.Leads p place := by
  unfold locate Leads
  cases isLongerThan maxPathSize p.toText <;> simp

theorem KeepsFolders.locate (h : KeepsFolders w w')
    (hlocate : w.locate p = .ok place) (hthere : w'.tree.node? place ≠ none) :
    w'.locate p = .ok place := by
  obtain ⟨hsize, hleads⟩ := locate_eq_ok.1 hlocate
  exact locate_eq_ok.2 ⟨hsize, hleads.mono h hthere⟩

theorem folderOf_eq_ok : w.folderOf p = .ok here
    ↔ isLongerThan maxPathSize p.toText = false
      ∧ w.locate p.parent = .ok here ∧ w.tree.node? here = some .folder := by
  unfold folderOf
  rw [Tree.node?_eq_folder]
  cases isLongerThan maxPathSize p.toText with
  | true => simp
  | false =>
      cases w.locate p.parent with
      | error fault => simp
      | ok there =>
          simp only [Bool.false_eq_true, ↓reduceIte, Except.ok.injEq, true_and]
          split <;> grind

theorem bytesAt_eq_ok : w.bytesAt p = .ok content
    ↔ ∃ place, w.locate p = .ok place
      ∧ w.tree.node? place = some (.file content) := by
  unfold bytesAt
  simp only [Tree.node?_eq_file]
  cases w.locate p with
  | error fault => simp
  | ok there =>
      simp only [Except.ok.injEq, exists_eq_left']
      split <;> grind

theorem isFolder_iff : w.isFolder p = true
    ↔ ∃ place, w.locate p = .ok place
      ∧ w.tree.node? place = some .folder := by
  unfold isFolder entry?
  simp only [Tree.node?_eq_folder]
  cases w.locate p with
  | error fault => simp
  | ok there =>
      simp only [Except.ok.injEq, exists_eq_left']
      split <;> grind

-- ================================================================ steps

section

variable {node : Option Node}

theorem Changes.self (h : Changes w place node w') :
    w'.tree.node? place = node := by
  rw [h.tree, Function.update_self]

theorem Changes.other {other : Location} (h : Changes w place node w')
    (hne : other ≠ place) : w'.tree.node? other = w.tree.node? other := by
  rw [h.tree, Function.update_of_ne hne]

theorem Changes.trans {node' : Option Node} (h : Changes w place node w')
    (h' : Changes w' place node' w'') : Changes w place node' w'' :=
  ⟨h'.cwd.trans h.cwd, by rw [h'.tree, h.tree, Function.update_idem]⟩

theorem Changes.keepsFolders (h : Changes w place node w')
    (hold : w.tree.node? place ≠ some .folder) : KeepsFolders w w' := by
  refine ⟨h.cwd, fun other hother => ?_⟩
  have hne : other ≠ place := by
    rintro rfl
    exact hold hother
  rw [h.other hne, hother]

/-- A path still leads to a file when what changes is elsewhere. -/
theorem Changes.locate {other : Location}
    (h : Changes w other node w') (hold : w.tree.node? other ≠ some .folder)
    (hne : place ≠ other) (hfile : w.locate p = .ok place
      ∧ w.tree.node? place = some (.file content)) :
    w'.locate p = .ok place ∧ w'.tree.node? place = some (.file content) := by
  have hnode := (h.other hne).trans hfile.2
  exact ⟨(h.keepsFolders hold).locate hfile.1 (by simp [hnode]), hnode⟩

end

/-- Something is put into a folder. -/
theorem changes_set (new : Option Tree) {name : Text}
    (hhere : w.tree.node? here = some .folder)
    (hnew : ∀ u ∈ new, ∀ name rest, u.node? (name :: rest) = none)
    (hold : w.tree.node? (here ++ [name]) ≠ some .folder) :
    Changes w (here ++ [name]) (new.map Tree.kind)
      { w with tree := w.tree.set new (here ++ [name]) } :=
  ⟨rfl, Tree.node?_set hhere hnew hold⟩

/-- A folder is made where there was nothing. -/
theorem makeFolder_ok (h : w.makeFolder p = .ok w') :
    p.parts ≠ [] ∧ p.name ≠ Path.up
      ∧ ∃ here, w.folderOf p = .ok here
        ∧ w.tree.node? (here ++ [p.name]) = none
        ∧ Changes w (here ++ [p.name]) (some .folder) w' := by
  unfold makeFolder at h
  split at h
  · cases h
  · rename_i name hlast
    obtain ⟨hparts, hname⟩ := Path.name_of_getLast? hlast
    split at h
    · cases h
    · rename_i here hfolder
      split at h
      · cases h
      · rename_i hfree
        rw [Bool.or_eq_true, decide_eq_true_eq, not_or, Bool.not_eq_true,
          Option.isSome_eq_false_iff, Option.isNone_iff_eq_none] at hfree
        split at h
        · cases h
        · cases h
          rw [hname]
          have hnone := Tree.node?_eq_none.2 hfree.2
          refine ⟨hparts, hfree.1, here, hfolder, hnone, ?_⟩
          refine changes_set (some (.folder []))
            (folderOf_eq_ok.1 hfolder).2.2 ?_ (by simp [hnone])
          rintro u hu name rest
          cases hu
          rfl

/-- A path names something in the folder that may be a file. -/
structure Writable (w : Workspace) (p : Path) (here : Location) : Prop where
  folder : w.folderOf p = .ok here
  name : p.name ≠ Path.up
  free : w.tree.node? (here ++ [p.name]) ≠ some .folder

/-- The file that a path names in a folder has been written. -/
structure Written (w : Workspace) (p : Path) (content : Utf8.Bytes)
    (here : Location) (w' : Workspace) : Prop extends Writable w p here where
  changes : Changes w (here ++ [p.name]) (some (.file content)) w'

theorem writeFile_ok (h : w.writeFile p content = .ok w') :
    ∃ here, Written w p content here w' := by
  unfold writeFile at h
  split at h
  · cases h
  · rename_i here hfolder
    have hset (hold : w.tree.node? (here ++ [p.name]) ≠ some .folder) :=
      changes_set (some (.file content)) (folderOf_eq_ok.1 hfolder).2.2
        (by rintro u hu name rest; cases hu; rfl) hold
    dsimp only at h
    split at h
    · cases h
    · rename_i hname
      suffices hwritten : w.tree.node? (here ++ [p.name]) ≠ some .folder
          ∧ Changes w (here ++ [p.name]) (some (.file content)) w' from
        ⟨here, ⟨hfolder, hname, hwritten.1⟩, hwritten.2⟩
      split at h
      · cases h
      · rename_i old hold
        cases h
        have hold := Tree.node?_eq_file.2 hold
        exact ⟨by simp [hold], hset (by simp [hold])⟩
      · rename_i hold
        have hold := Tree.node?_eq_none.2 hold
        split at h
        · cases h
        · cases h
          exact ⟨by simp [hold], hset (by simp [hold])⟩

/-- Such a file is written when a new name is not too long. -/
theorem Writable.writeFile (h : Writable w p here)
    (hsize : isLongerThan maxNameSize p.name = false) (content : Utf8.Bytes) :
    ∃ w', w.writeFile p content = .ok w' ∧ Written w p content here w' := by
  suffices hwrite : ∃ w', w.writeFile p content = .ok w' by
    obtain ⟨w', hwrite⟩ := hwrite
    obtain ⟨here', hwritten⟩ := writeFile_ok hwrite
    obtain rfl := Except.ok.inj (h.folder.symm.trans hwritten.folder)
    exact ⟨w', hwrite, hwritten⟩
  have hname : p.name ≠ [.scalar '.', .scalar '.'] := h.name
  unfold Workspace.writeFile
  rw [h.folder]
  dsimp only
  rw [if_neg hname]
  cases hat : w.tree.at? (here ++ [p.name]) with
  | none =>
      dsimp only
      rw [if_neg (by simp [hsize])]
      exact ⟨_, rfl⟩
  | some u =>
      cases u with
      | file old => exact ⟨_, rfl⟩
      | folder entries => exact absurd (Tree.node?_eq_folder.2 ⟨_, hat⟩) h.free

theorem KeepsFolders.folderOf (h : KeepsFolders w w')
    (hfolder : w.folderOf p = .ok here) : w'.folderOf p = .ok here := by
  obtain ⟨hsize, hlocate, hnode⟩ := folderOf_eq_ok.1 hfolder
  have hnode' := h.folder here hnode
  exact folderOf_eq_ok.2 ⟨hsize, h.locate hlocate (by simp [hnode']), hnode'⟩

/-- It may still be a file when a file is written. -/
theorem Writable.mono {q : Path} (h : Writable w q here)
    (hw : Written w p content here w') : Writable w' q here := by
  refine ⟨(hw.changes.keepsFolders hw.free).folderOf h.folder, h.name, ?_⟩
  by_cases hplace : here ++ [q.name] = here ++ [p.name]
  · rw [hplace, hw.changes.self]
    simp
  · rw [hw.changes.other hplace]
    exact h.free

/-- The folder that a file is written in is where it was. -/
theorem Written.leads (h : Written w p content here w') :
    w.Leads p.parent here ∧ w'.Leads p.parent here := by
  obtain ⟨-, hlocate, hfolder⟩ := folderOf_eq_ok.1 h.folder
  have hleads := (locate_eq_ok.1 hlocate).2
  exact ⟨hleads, (h.changes.keepsFolders h.free).leads hleads hfolder⟩

section

variable {p : Path} (hparts : p.parts ≠ [])

include hparts

theorem Written.locate (h : Written w p content here w') :
    w'.locate p = .ok (here ++ [p.name])
      ∧ w'.tree.node? (here ++ [p.name]) = some (.file content) := by
  obtain ⟨hsize, -, hfolder⟩ := folderOf_eq_ok.1 h.folder
  have hfolder' := (h.changes.keepsFolders h.free).folder here hfolder
  have hnode := h.changes.self
  exact ⟨locate_eq_ok.2 ⟨hsize, (leads_iff hparts h.name).2
    ⟨here, h.leads.2, hfolder', rfl, by simp [hnode]⟩⟩, hnode⟩

theorem Written.bytesAt (h : Written w p content here w') :
    w'.bytesAt p = .ok content :=
  bytesAt_eq_ok.2 ⟨_, h.locate hparts⟩

/-- A file is taken away. -/
theorem removeFile_ok (hname : p.name ≠ Path.up)
    (h : w.bytesAt p = .ok content) :
    ∃ here, w.Leads p.parent here ∧ w.tree.node? here = some .folder
      ∧ w.tree.node? (here ++ [p.name]) = some (.file content)
      ∧ Changes w (here ++ [p.name]) none (w.removeFile p) := by
  obtain ⟨place, hplace, hnode⟩ := bytesAt_eq_ok.1 h
  obtain ⟨here, hhere, hfolder, rfl, -⟩ :=
    (leads_iff hparts hname).1 (locate_eq_ok.1 hplace).2
  refine ⟨here, hhere, hfolder, hnode, ?_⟩
  unfold removeFile
  rw [hplace]
  dsimp only
  rw [if_pos (isFile_iff.2 ⟨_, content, hplace, Tree.node?_eq_file.1 hnode⟩)]
  exact changes_set none hfolder (by simp) (by simp [hnode])

end

/-- Where there is no file, nothing is taken away. -/
theorem removeFile_of_not_isFile (h : w.isFile p ≠ true) :
    w.removeFile p = w := by
  unfold removeFile
  split
  · rw [if_neg h]
  · rfl

/-- A file that is written twice is as it was written last. -/
theorem Written.again {content' : Utf8.Bytes} {here' : Location}
    (h : Written w p content here w') (h' : Written w' p content' here' w'') :
    Written w p content' here w'' := by
  obtain rfl := h.leads.2.unique h'.leads.1
  exact ⟨h.toWritable, h.changes.trans h'.changes⟩

end Workspace

end Marginalia
