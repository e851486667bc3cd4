/-
What can be said of the files that are found below a folder. Whatever the
system, what leads to a file does not lead to a folder, what a pattern finds
below a folder is written as the folder is with more components behind it, and
a search that is refused is refused for a path (`System.IsProper`).

A workspace answers so when no name in its tree has a slash
(`isProper_system`). What its patterns find is followed component by component
(`exists_select_of_cons`), and the only answer it owes is that for a name that
is too long (`error_of_run`).
-/
import Marginalia.Files.System
import Marginalia.Proofs.Assoc
import Marginalia.Proofs.Traverse

namespace Marginalia

-- =============================================================== trees

namespace Tree

/-- No name in the tree has a slash. -/
def IsProper (t : Tree) : Prop :=
  ∀ place, (t.at? place).isSome = true → ∀ name ∈ place, .scalar '/' ∉ name

theorem isProper_file (content : Utf8.Bytes) : (file content).IsProper := by
  intro place h
  cases place with
  | nil => exact fun _ hname => absurd hname List.not_mem_nil
  | cons name rest => cases h

theorem isProper_folder {entries : List (Text × Tree)}
    (h : ∀ entry ∈ entries, .scalar '/' ∉ entry.1 ∧ entry.2.IsProper) :
    (folder entries).IsProper := by
  intro place hplace
  cases place with
  | nil => exact fun _ hname => absurd hname List.not_mem_nil
  | cons name rest =>
      rw [at?] at hplace
      cases hget : Assoc.get? entries name with
      | none =>
          rw [hget] at hplace
          cases hplace
      | some t =>
          rw [hget] at hplace
          obtain ⟨hname, ht⟩ := h _ (Assoc.mem_of_get? hget)
          rw [List.forall_mem_cons]
          exact ⟨hname, ht rest hplace⟩

end Tree

-- ========================================================== workspaces

namespace Workspace

variable {w : Workspace} {p : Path}

/-- A path leads to a file where it is followed to one. -/
theorem isFile_iff : w.isFile p = true
    ↔ ∃ here content, w.locate p = .ok here
      ∧ w.tree.at? here = some (.file content) := by
  constructor
  · intro h
    unfold isFile entry? at h
    cases hlocate : w.locate p with
    | error fault =>
        rw [hlocate] at h
        cases h
    | ok here =>
        simp only [hlocate] at h
        split at h
        · rename_i content hat
          exact ⟨here, content, rfl, hat⟩
        · cases h
  · rintro ⟨here, content, hlocate, hat⟩
    simp only [isFile, entry?, hlocate, hat]

/-- The answer that a path leads to a file is given exactly if it does. -/
theorem hasFile_eq_true : w.hasFile p = .ok true ↔ w.isFile p = true := by
  constructor
  · intro h
    unfold hasFile at h
    split at h
    · cases h
    · exact Except.ok.inj h
  · intro h
    obtain ⟨here, content, hlocate, -⟩ := isFile_iff.1 h
    unfold hasFile
    rw [hlocate, h]

/-- The answer that a path leads to a folder is given only if it does. -/
theorem isFolder_of_hasFolder (h : w.hasFolder p = .ok true) :
    w.isFolder p = true := by
  unfold hasFolder at h
  split at h
  · cases h
  · exact Except.ok.inj h

/-- What leads to a file does not lead to a folder. -/
theorem isFolder_of_isFile (h : w.isFile p = true) :
    w.isFolder p = false := by
  obtain ⟨here, content, hlocate, hat⟩ := isFile_iff.1 h
  simp only [isFolder, entry?, hlocate, hat]

/-- A file can be read. -/
theorem exists_bytesAt (h : w.isFile p = true) :
    ∃ content, w.bytesAt p = .ok content := by
  obtain ⟨here, content, hlocate, hat⟩ := isFile_iff.1 h
  exact ⟨content, by simp only [bytesAt, hlocate, hat]⟩

/-- The components that are followed in a tree are names of it or lead
up. -/
theorem mem_of_follow {t : Tree} {parts : List Text} {here place : Location}
    (h : follow t here parts = .ok place) :
    ∀ part ∈ parts, part = [.scalar '.', .scalar '.']
      ∨ ∃ place, (t.at? place).isSome = true ∧ part ∈ place := by
  induction parts generalizing here with
  | nil => exact fun _ hpart => absurd hpart List.not_mem_nil
  | cons part rest ih =>
      rw [List.forall_mem_cons]
      rw [follow] at h
      split at h
      · cases h
      · cases h
      · split at h
        · rename_i hup
          exact ⟨.inl hup, ih h⟩
        · split at h
          · rename_i hsome
            exact ⟨.inr ⟨_, hsome, by simp⟩, ih h⟩
          · cases h

/-- In a tree whose names have no slashes, neither have the components that
are followed. -/
theorem parts_of_follow {t : Tree} (ht : t.IsProper) {parts : List Text}
    {here place : Location} (h : follow t here parts = .ok place) :
    ∀ part ∈ parts, .scalar '/' ∉ part := by
  intro part hpart
  rcases mem_of_follow h part hpart with rfl | ⟨place, hplace, hmem⟩
  · decide
  · exact ht place hplace part hmem

/-- The components of a path that leads to a file have no slashes. -/
theorem parts_of_isFile (hw : w.tree.IsProper) (h : w.isFile p = true) :
    ∀ part ∈ p.parts, .scalar '/' ∉ part := by
  obtain ⟨here, content, hlocate, -⟩ := isFile_iff.1 h
  unfold locate at hlocate
  split at hlocate
  · cases hlocate
  · exact parts_of_follow hw hlocate

end Workspace

-- ============================================================ searches

namespace Glob

open Traverse

variable {t : Tree} {p f : Path} {here : Location} {found : List Path}

/-- The text is a pattern. -/
def IsPattern (pattern : Text) : Prop :=
  ∃ components, ofText pattern = .ok components

theorem error_of_ask {e : PatternError} (h : ask p = .error e) :
    e = .path .nameTooLong := by
  unfold ask at h
  split at h
  · cases h
    rfl
  · cases h

/-- What one component of a pattern adds to the written form of a place. -/
inductive Adds (t : Tree) (here : Location) : Component → List Text → Prop
  | here : Adds t here .here []
  | name (name : Text) : Adds t here (.name name) [name]
  | wildcard {pattern : List Element} {entries : List (Text × Tree)}
      {entry : Text × Tree} (at_here : t.at? here = some (.folder entries))
      (entry_mem : entry ∈ entries) : Adds t here (.wildcard pattern) [entry.1]
  | folders {found : Tree} {below : Location}
      (at_here : t.at? here = some found) (below_mem : below ∈ found.folders) :
      Adds t here .folders below

/-- One component of a pattern: what is found with it is found with the
rest of the pattern from a place that is written as this one is, with what
the component adds behind it. -/
theorem exists_select_of_cons {c : Component} {rest : List Component}
    (h : select t (c :: rest) p here = .ok found) (hf : f ∈ found) :
    ∃ below here' found', Adds t here c below
      ∧ select t rest ⟨p.root, p.parts ++ below⟩ here' = .ok found'
      ∧ f ∈ found' := by
  cases c with
  | here =>
      rw [select, bind_ok] at h
      obtain ⟨-, -, h⟩ := h
      exact ⟨[], here, found, .here, by rwa [List.append_nil], hf⟩
  | name name =>
      rw [select, bind_ok] at h
      obtain ⟨-, -, h⟩ := h
      dsimp only at h
      split at h
      · cases h
        cases hf
      · split at h
        · exact ⟨[name], _, found, .name name, h, hf⟩
        · cases h
          cases hf
  | wildcard pattern =>
      rw [select, bind_ok] at h
      obtain ⟨-, -, h⟩ := h
      split at h
      · rename_i entries hat
        rw [bind_ok] at h
        obtain ⟨groups, hgroups, ⟨⟩⟩ := h
        obtain ⟨group, hgroup, hf⟩ := List.mem_flatten.1 hf
        obtain ⟨⟨name, found⟩, hentry, h⟩ := (mem_mapM hgroups).1 hgroup
        dsimp only at h
        split at h
        · exact ⟨[name], _, group, .wildcard hat hentry, h, hf⟩
        · cases h
          cases hf
      · cases h
        cases hf
  | folders =>
      rw [select] at h
      split at h
      · cases h
        cases hf
      · rename_i start hat
        rw [bind_ok] at h
        obtain ⟨groups, hgroups, ⟨⟩⟩ := h
        obtain ⟨group, hgroup, hf⟩ :=
          List.mem_flatten.1 (List.mem_eraseDups.1 hf)
        obtain ⟨below, hbelow, h⟩ := (mem_mapM hgroups).1 hgroup
        rw [bind_ok] at h
        obtain ⟨-, -, h⟩ := h
        exact ⟨below, _, group, .folders hat hbelow, h, hf⟩

/-- One component of a pattern: where it is not refused itself, the rest of
the pattern is. -/
theorem error_of_select_cons {c : Component} {rest : List Component}
    {e : PatternError} (h : select t (c :: rest) p here = .error e) :
    e = .path .nameTooLong ∨ ∃ p' here', select t rest p' here' = .error e := by
  cases c with
  | here =>
      rw [select, bind_error] at h
      rcases h with h | ⟨-, -, h⟩
      · exact .inl (error_of_ask h)
      · exact .inr ⟨_, _, h⟩
  | name name =>
      rw [select, bind_error] at h
      rcases h with h | ⟨-, -, h⟩
      · exact .inl (error_of_ask h)
      · dsimp only at h
        split at h
        · cases h
        · split at h
          · exact .inr ⟨_, _, h⟩
          · cases h
  | wildcard pattern =>
      rw [select, bind_error] at h
      rcases h with h | ⟨-, -, h⟩
      · exact .inl (error_of_ask h)
      · split at h
        · rw [bind_error] at h
          rcases h with h | ⟨groups, -, ⟨⟩⟩
          obtain ⟨⟨name, found⟩, -, h⟩ := error_of_mapM h
          dsimp only at h
          split at h
          · exact .inr ⟨_, _, h⟩
          · cases h
        · cases h
  | folders =>
      rw [select] at h
      split at h
      · cases h
      · rw [bind_error] at h
        rcases h with h | ⟨groups, -, ⟨⟩⟩
        obtain ⟨below, -, h⟩ := error_of_mapM h
        rw [bind_error] at h
        rcases h with h | ⟨-, -, h⟩
        · exact .inl (error_of_ask h)
        · exact .inr ⟨_, _, h⟩

/-- What a pattern selects is written as the folder is, with components
behind it. -/
theorem exists_below_of_select {components : List Component}
    (h : select t components p here = .ok found) (hf : f ∈ found) :
    ∃ below, f = ⟨p.root, p.parts ++ below⟩ := by
  induction components generalizing p here found with
  | nil =>
      rw [select] at h
      cases h
      rw [List.mem_singleton.1 hf]
      exact ⟨[], by rw [List.append_nil]⟩
  | cons c rest ih =>
      obtain ⟨below, here', found', -, h', hf'⟩ := exists_select_of_cons h hf
      obtain ⟨more, hmore⟩ := ih h' hf'
      exact ⟨below ++ more, by rw [hmore, List.append_assoc]⟩

/-- A selection is refused for a name that is too long only. -/
theorem error_of_select {components : List Component} {e : PatternError}
    (h : select t components p here = .error e) : e = .path .nameTooLong := by
  induction components generalizing p here with
  | nil =>
      rw [select] at h
      cases h
  | cons c rest ih =>
      rcases error_of_select_cons h with h | ⟨p', here', h⟩
      · exact h
      · exact ih h

/-- A pattern finds what its components select, or nothing. -/
theorem run_cases (w : Workspace) (p : Path) (pattern : Text) :
    (∃ e, ofText pattern = .error e ∧ run w p pattern = .error e)
      ∨ run w p pattern = .ok []
      ∨ ∃ components here, ofText pattern = .ok components
        ∧ run w p pattern
          = (select w.tree components p here).map (·.mergeSort Path.le) := by
  unfold run
  split
  · rename_i e herror
    exact .inl ⟨e, herror, rfl⟩
  · rename_i components hcomponents
    split
    · exact .inr (.inl rfl)
    · rename_i here _
      split
      · exact .inr (.inr ⟨components, here, hcomponents, rfl⟩)
      · exact .inr (.inl rfl)

/-- What a pattern finds below a folder is written as the folder is, with
components behind it. -/
theorem exists_below_of_run {w : Workspace} {pattern : Text}
    (h : run w p pattern = .ok found) (hf : f ∈ found) :
    ∃ below, f = ⟨p.root, p.parts ++ below⟩ := by
  rcases run_cases w p pattern with ⟨e, -, hrun⟩ | hrun | ⟨cs, here, -, hrun⟩
  · rw [hrun] at h
    cases h
  · rw [hrun] at h
    cases h
    cases hf
  · rw [hrun, map_ok] at h
    obtain ⟨selected, hselect, rfl⟩ := h
    exact exists_below_of_select hselect (List.mem_mergeSort.1 hf)

/-- A pattern is refused for a name that is too long only. -/
theorem error_of_run {w : Workspace} {pattern : Text} {e : PatternError}
    (hpattern : IsPattern pattern) (h : run w p pattern = .error e) :
    e = .path .nameTooLong := by
  obtain ⟨components, hcomponents⟩ := hpattern
  rcases run_cases w p pattern with ⟨e, herror, -⟩ | hrun | ⟨cs, here, -, hrun⟩
  · rw [hcomponents] at herror
    cases herror
  · rw [hrun] at h
    cases h
  · rw [hrun, map_error] at h
    exact error_of_select h

end Glob

-- ============================================================= systems

/-- The answers of a system fit together. A path that leads to a file does
not lead to a folder, and its components have no slashes; what is found below
a folder is written as the folder is, with components behind it; and a pattern
is refused for a path only. -/
structure System.IsProper (sys : System) : Prop where
  apart {p : Path} : sys.hasFile p = .ok true → sys.hasFolder p ≠ .ok true
  parts {p : Path} : sys.hasFile p = .ok true →
    ∀ part ∈ p.parts, .scalar '/' ∉ part
  below {p f : Path} {pattern : Text} {found : List Path} :
    sys.find p pattern = .ok found → f ∈ found →
    ∃ below, f = ⟨p.root, p.parts ++ below⟩
  refused {p : Path} {pattern : Text} {e : Glob.PatternError} :
    Glob.IsPattern pattern → sys.find p pattern = .error e →
    ∃ fault, e = .path fault

theorem Workspace.isProper_system {w : Workspace} (hw : w.tree.IsProper) :
    w.system.IsProper where
  apart hfile hfolder := by
    have h := isFolder_of_hasFolder hfolder
    rw [isFolder_of_isFile (hasFile_eq_true.1 hfile)] at h
    cases h
  parts hfile := parts_of_isFile hw (hasFile_eq_true.1 hfile)
  below := Glob.exists_below_of_run
  refused hpattern h := ⟨_, Glob.error_of_run hpattern h⟩

end Marginalia
