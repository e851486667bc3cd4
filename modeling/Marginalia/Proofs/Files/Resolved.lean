/-
The files of a run as the files they are. A list of files has each path once,
but a file has many paths. In a workspace as the system has them (`IsSound`) a
path that leads to a file means the place of that file (`exists_place`), so
two entries are one file when they mean the same, and that takes different
roots or a double dot (`files_resolved`). What stands for a given path has the
root of that path, and only the double dots of the path and of the patterns.

Names come from what the entries mean: the part below the base folder, or the
path itself where there is none (`shown`). One file has one name there however
it is spelt, and a file outside may be written as another is called
(`Passes`).
-/
import Marginalia.Proofs.Files.Selected
import Marginalia.Proofs.Files.Spelling

namespace Marginalia

-- =============================================================== trees

namespace Tree

mutual

/-- Every name in the tree can be the name of an entry. -/
def HasNames : Tree → Prop
  | .file _ => True
  | .folder entries => EntriesHaveNames entries

/-- Every name of the entries, and in them, can be the name of an entry. -/
def EntriesHaveNames : List (Text × Tree) → Prop
  | [] => True
  | (name, t) :: rest => Path.IsName name ∧ HasNames t ∧ EntriesHaveNames rest

end

theorem EntriesHaveNames.of_mem {entries : List (Text × Tree)}
    (h : EntriesHaveNames entries) {entry : Text × Tree}
    (hmem : entry ∈ entries) : Path.IsName entry.1 ∧ entry.2.HasNames := by
  induction entries with
  | nil => cases hmem
  | cons first rest ih =>
      obtain ⟨hname, ht, hrest⟩ := h
      rcases List.mem_cons.1 hmem with rfl | hmem
      · exact ⟨hname, ht⟩
      · exact ih hrest hmem

/-- The way to a place is made of names, and so is what stands there. -/
theorem HasNames.at? {t u : Tree} {place : Location} (h : t.HasNames)
    (hat : t.at? place = some u) :
    (∀ name ∈ place, Path.IsName name) ∧ u.HasNames := by
  induction place generalizing t with
  | nil =>
      cases t <;> cases hat <;> exact ⟨List.forall_mem_nil _, h⟩
  | cons name rest ih =>
      cases t with
      | file content => cases hat
      | folder entries =>
          rw [Tree.at?] at hat
          cases hget : Assoc.get? entries name with
          | none =>
              rw [hget] at hat
              cases hat
          | some t =>
              rw [hget] at hat
              rw [HasNames] at h
              obtain ⟨hname, ht⟩ := h.of_mem (Assoc.mem_of_get? hget)
              obtain ⟨hrest, hu⟩ := ih ht hat
              exact ⟨List.forall_mem_cons.2 ⟨hname, hrest⟩, hu⟩

theorem HasNames.isProper {t : Tree} (h : t.HasNames) : t.IsProper := by
  intro place hplace name hname
  obtain ⟨u, hu⟩ := Option.isSome_iff_exists.1 hplace
  exact ((h.at? hu).1 name hname).slash

mutual

/-- The way to a folder inside a tree is made of names. -/
theorem HasNames.of_mem_folders : ∀ {t : Tree}, t.HasNames →
    ∀ below ∈ t.folders, ∀ name ∈ below, Path.IsName name
  | .file _, _, _, hbelow => absurd hbelow List.not_mem_nil
  | .folder entries, h, below, hbelow => by
      rw [HasNames] at h
      rcases List.mem_cons.1 hbelow with rfl | hbelow
      · exact List.forall_mem_nil _
      · exact h.of_mem_entryFolders below hbelow

theorem EntriesHaveNames.of_mem_entryFolders :
    ∀ {entries : List (Text × Tree)}, EntriesHaveNames entries →
      ∀ below ∈ entryFolders entries, ∀ name ∈ below, Path.IsName name
  | [], _, _, hbelow => absurd hbelow List.not_mem_nil
  | (name, t) :: rest, h, below, hbelow => by
      obtain ⟨hname, ht, hrest⟩ := h
      rcases List.mem_append.1 hbelow with hbelow | hbelow
      · obtain ⟨inner, hinner, rfl⟩ := List.mem_map.1 hbelow
        exact List.forall_mem_cons.2
          ⟨hname, ht.of_mem_folders inner hinner⟩
      · exact hrest.of_mem_entryFolders below hbelow

end

end Tree

-- ========================================================== workspaces

namespace Workspace

/-- A workspace as the system has them: what stands in its folders has names,
and the run stands in a folder. -/
structure IsSound (w : Workspace) : Prop where
  names : w.tree.HasNames
  cwd : ∃ entries, w.tree.at? w.cwd = some (.folder entries)

variable {w : Workspace} {p : Path} {here : Location}

theorem IsSound.name_of_mem_cwd (hw : w.IsSound) :
    ∀ name ∈ w.cwd, Path.IsName name := by
  obtain ⟨entries, hcwd⟩ := hw.cwd
  exact (hw.names.at? hcwd).1

/-- Where components can be followed, walking them leads to the same
place. -/
theorem resolveParts_of_follow {t : Tree} {parts : List Text}
    {place : Location} (h : follow t here parts = .ok place) :
    Path.resolveParts here parts = place := by
  induction parts generalizing here with
  | nil =>
      cases h
      rfl
  | cons part rest ih =>
      rw [follow] at h
      rw [Path.resolveParts]
      split at h
      · cases h
      · cases h
      · split at h
        · rename_i hup
          rw [if_pos hup]
          exact ih h
        · rename_i hup
          rw [if_neg hup]
          split at h
          · exact ih h
          · cases h

/-- A path that leads to a place means that place. -/
theorem resolve_of_locate (hw : w.IsSound) (h : w.locate p = .ok here) :
    w.resolve p = ⟨"/", here⟩ := by
  have hstart : Path.start w.cwdPath p
      = if p.isAbsolute then [] else w.cwd := by
    have hup : Path.up ∉ w.cwd := fun hmem =>
      (hw.name_of_mem_cwd _ hmem).ne_up rfl
    unfold Path.start cwdPath
    rw [Path.resolveParts_of_up_not_mem hup, List.nil_append]
  unfold locate at h
  split at h
  · cases h
  · unfold resolve
    rw [Path.resolve_eq, hstart, resolveParts_of_follow h]

/-- A file has a place, which is what its path means. -/
theorem IsSound.exists_place (hw : w.IsSound) (h : w.isFile p = true) :
    ∃ here content, w.locate p = .ok here
      ∧ w.tree.at? here = some (.file content)
      ∧ w.resolve p = ⟨"/", here⟩ := by
  obtain ⟨here, content, hlocate, hat⟩ := isFile_iff.1 h
  exact ⟨here, content, hlocate, hat, resolve_of_locate hw hlocate⟩

/-- The components of a path that leads to a file are names or lead up. -/
theorem IsSound.parts_of_isFile (hw : w.IsSound) (h : w.isFile p = true) :
    ∀ part ∈ p.parts, Path.IsPart part := by
  obtain ⟨here, content, hlocate, -⟩ := isFile_iff.1 h
  unfold locate at hlocate
  split at hlocate
  · cases hlocate
  · intro part hpart
    rcases mem_of_follow hlocate part hpart with rfl | ⟨place, hplace, hmem⟩
    · exact Path.isPart_up
    · obtain ⟨u, hu⟩ := Option.isSome_iff_exists.1 hplace
      exact ((hw.names.at? hu).1 part hmem).toIsPart

end Workspace

-- ============================================================ searches

namespace Glob

open Traverse

variable {t : Tree} {p f : Path} {here : Location} {found : List Path}

/-- A component adds names, unless it is what it adds. -/
theorem Adds.names (ht : t.HasNames) {c : Component} {below : List Text}
    (h : Adds t here c below) :
    ∀ part ∈ below, Path.IsName part ∨ c = .name part := by
  cases h with
  | here => exact List.forall_mem_nil _
  | name name => exact List.forall_mem_singleton.2 (.inr rfl)
  | wildcard at_here entry_mem =>
      have hentries := (ht.at? at_here).2
      rw [Tree.HasNames] at hentries
      exact List.forall_mem_singleton.2 (.inl (hentries.of_mem entry_mem).1)
  | folders at_here below_mem =>
      intro part hpart
      exact .inl ((ht.at? at_here).2.of_mem_folders below below_mem part hpart)

/-- What a pattern selects has names behind the folder, and components of the
pattern. -/
theorem exists_names_of_select (ht : t.HasNames) {components : List Component}
    (h : select t components p here = .ok found) (hf : f ∈ found) :
    ∃ below, f = ⟨p.root, p.parts ++ below⟩
      ∧ ∀ part ∈ below, Path.IsName part ∨ .name part ∈ components := by
  induction components generalizing p here found with
  | nil =>
      rw [select] at h
      cases h
      rw [List.mem_singleton.1 hf]
      exact ⟨[], by rw [List.append_nil], List.forall_mem_nil _⟩
  | cons c rest ih =>
      obtain ⟨below, here', found', hadds, h', hf'⟩ :=
        exists_select_of_cons h hf
      obtain ⟨more, hmore, hnames⟩ := ih h' hf'
      refine ⟨below ++ more, by rw [hmore, List.append_assoc], ?_⟩
      intro part hpart
      rcases List.mem_append.1 hpart with hpart | hpart
      · rcases hadds.names ht part hpart with hname | rfl
        · exact .inl hname
        · exact .inr (List.mem_cons_self ..)
      · exact (hnames part hpart).imp_right (List.mem_cons_of_mem _)

theorem eq_of_ofText_name {t name : Text}
    (h : Component.ofText t = .ok (.name name)) : t = name := by
  unfold Component.ofText at h
  split at h
  · cases h
  · split at h
    · cases h
    · split at h
      · cases h
      · cases h
        rfl

/-- A name among the components of a pattern is written in it. -/
theorem mem_parts_of_ofText {pattern part : Text}
    {components : List Component} (h : ofText pattern = .ok components)
    (hmem : .name part ∈ components) :
    part ∈ (Path.ofText pattern).parts := by
  unfold ofText at h
  dsimp only at h
  split at h
  · cases h
  split at h
  · cases h
  split at h
  · cases h
  split at h
  · cases h
  rename_i read hread
  have hread_mem : .name part ∈ read := by
    split at h
    · cases h
      simpa using hmem
    · cases h
      exact hmem
  obtain ⟨t, ht, hname⟩ := (mem_mapM hread).1 hread_mem
  rwa [eq_of_ofText_name hname] at ht

/-- What a pattern finds below a folder has names behind the folder, and
components that are written in the pattern. -/
theorem exists_names_of_run {w : Workspace} (hw : w.tree.HasNames)
    {pattern : Text} (h : run w p pattern = .ok found) (hf : f ∈ found) :
    ∃ below, f = ⟨p.root, p.parts ++ below⟩
      ∧ ∀ part ∈ below,
        Path.IsName part ∨ part ∈ (Path.ofText pattern).parts := by
  rcases run_cases w p pattern with
    ⟨e, -, hrun⟩ | hrun | ⟨cs, here, hcs, hrun⟩
  · rw [hrun] at h
    cases h
  · rw [hrun] at h
    cases h
    cases hf
  · rw [hrun, map_ok] at h
    obtain ⟨selected, hselect, rfl⟩ := h
    obtain ⟨below, hbelow, hnames⟩ :=
      exists_names_of_select hw hselect (List.mem_mergeSort.1 hf)
    refine ⟨below, hbelow, fun part hpart => ?_⟩
    exact (hnames part hpart).imp_right (mem_parts_of_ofText hcs)

end Glob

-- ============================================================= entries

namespace Discovery

variable {w : Workspace} {s : Settings} {p f g : Path} {paths fs : List Path}

/-- The paths that a run is about: those that are given, or the working
folder. -/
def given (w : Workspace) (paths : List Path) : List Path :=
  if paths.isEmpty then [w.cwdPath] else paths

theorem given_ne_nil (w : Workspace) (paths : List Path) :
    given w paths ≠ [] := by
  unfold given
  split
  · exact List.cons_ne_nil _ _
  · rename_i h
    exact fun hnil => h (List.isEmpty_iff.2 hnil)

theorem files_given (w : Workspace) (s : Settings) (paths : List Path) :
    files w s paths = files w s (given w paths) := by
  unfold files filesIn given
  cases paths <;> rfl

theorem isSpelt_given (hw : w.IsSound) (hpaths : ∀ p ∈ paths, p.IsSpelt) :
    ∀ p ∈ given w paths, p.IsSpelt := by
  unfold given
  split
  · refine List.forall_mem_singleton.2 ⟨.inr (.inl rfl), fun part hpart => ?_⟩
    exact (hw.name_of_mem_cwd part hpart).toIsPart
  · exact hpaths

/-- What a path stands for is spelt as it is, with components behind it. -/
theorem StandsFor.root_eq (h : StandsFor w.system s p f) :
    f.root = p.root := by
  cases h with
  | self path => rw [path]
  | below _ _ _ _ _ path => rw [path]

theorem StandsFor.isSpelt (hw : w.IsSound) (hp : p.IsSpelt)
    (h : StandsFor w.system s p f) : f.IsSpelt where
  root := h.root_eq ▸ hp.root
  parts := hw.parts_of_isFile (Workspace.hasFile_eq_true.1 h.isFile)

/-- Where neither the path nor a pattern has a double dot, what the path
stands for has none. -/
theorem StandsFor.up_not_mem (hw : w.IsSound) (hp : Path.up ∉ p.parts)
    (hs : ∀ pattern ∈ s.patterns, Path.up ∉ (Path.ofText pattern).parts)
    (h : StandsFor w.system s p f) : Path.up ∉ f.parts := by
  cases h with
  | self path => rwa [← path]
  | below _ pattern_mem find found_mem =>
      obtain ⟨below, rfl, hnames⟩ :=
        Glob.exists_names_of_run hw.names find found_mem
      intro hmem
      rcases List.mem_append.1 hmem with hmem | hmem
      · exact hp hmem
      · rcases hnames _ hmem with hname | hname
        · exact hname.ne_up rfl
        · exact hs _ pattern_mem hname

/-- The entries of a list of files are files that some path stands for, in
their order. -/
theorem files_entries (hw : w.IsSound) (hpaths : ∀ p ∈ paths, p.IsSpelt)
    (h : files w s paths = .ok fs) :
    fs.Pairwise Path.Before
      ∧ ∀ f, f ∈ fs ↔ ∃ p ∈ given w paths, StandsFor w.system s p f := by
  rw [files_given] at h
  have hspelt := isSpelt_given hw hpaths
  exact (filesIn_ok (Workspace.isProper_system hw.names.isProper)
    (fun p hp => (hspelt p hp).isClean) (given_ne_nil w paths) h).2

-- =============================================================== names

/-- The file lies below the base folder. -/
def LiesBelow (w : Workspace) (base p : Path) : Prop :=
  ((w.resolve p).relativeTo? (w.resolve base)).isSome = true

/-- The file `f` does not lie below the base folder, but it is written as `g`
is called there. -/
def Passes (w : Workspace) (base f g : Path) : Prop :=
  ¬ LiesBelow w base f
    ∧ (w.resolve g).relativeTo? (w.resolve base) = some f

/-- The path that a file goes by. -/
def shown (w : Workspace) (base p : Path) : Path :=
  ((w.resolve p).relativeTo? (w.resolve base)).getD p

theorem displayName_eq (w : Workspace) (base p : Path) :
    displayName w (some base) p = (shown w base p).toText := by
  unfold displayName shown
  dsimp only
  cases (w.resolve p).relativeTo? (w.resolve base) <;> rfl

theorem root_resolve (w : Workspace) (p : Path) : (w.resolve p).root = "/" :=
  rfl

/-- What comes below a base folder is what comes behind its components. -/
theorem relativeTo?_resolve {base q : Path} :
    (w.resolve p).relativeTo? (w.resolve base) = some q
      ↔ q.root = []
        ∧ (w.resolve p).parts = (w.resolve base).parts ++ q.parts := by
  unfold Path.relativeTo?
  simp only [root_resolve, decide_true, Bool.true_and, List.isPrefixOf_iff_prefix]
  constructor
  · intro h
    split at h
    · rename_i hprefix
      cases h
      exact ⟨rfl, (List.prefix_iff_eq_append.1 hprefix).symm⟩
    · cases h
  · rintro ⟨hroot, hparts⟩
    rw [hparts, if_pos (List.prefix_append _ _), List.drop_left]
    cases q
    cases hroot
    rfl

/-- Files that are called the same below a base folder are the same. -/
theorem resolve_eq_of_relativeTo? {base q : Path}
    (hf : (w.resolve f).relativeTo? (w.resolve base) = some q)
    (hg : (w.resolve g).relativeTo? (w.resolve base) = some q) :
    w.resolve f = w.resolve g := by
  show (⟨"/", (w.resolve f).parts⟩ : Path) = ⟨"/", (w.resolve g).parts⟩
  rw [(relativeTo?_resolve.1 hf).2, (relativeTo?_resolve.1 hg).2]

/-- Files are called the same when they are the same, when one means the other
and lies below the base folder, or when one passes for the other. -/
theorem shown_eq_iff {base : Path} : shown w base f = shown w base g
    ↔ f = g ∨ LiesBelow w base f ∧ w.resolve f = w.resolve g
      ∨ Passes w base f g ∨ Passes w base g f := by
  unfold shown Passes LiesBelow
  cases hf : (w.resolve f).relativeTo? (w.resolve base) with
  | none =>
      cases hg : (w.resolve g).relativeTo? (w.resolve base) with
      | none => simp
      | some q =>
          have hne : f ≠ g := by
            rintro rfl
            rw [hf] at hg
            cases hg
          simp [hne, eq_comm]
  | some q =>
      cases hg : (w.resolve g).relativeTo? (w.resolve base) with
      | none =>
          have hne : f ≠ g := by
            rintro rfl
            rw [hf] at hg
            cases hg
          have hmeant : w.resolve f ≠ w.resolve g := by
            intro heq
            rw [heq, hg] at hf
            cases hf
          simp [hne, hmeant]
      | some q' =>
          have hmeant : q = q' ↔ w.resolve f = w.resolve g := by
            constructor
            · rintro rfl
              exact resolve_eq_of_relativeTo? hf hg
            · intro heq
              rw [heq, hg] at hf
              cases hf
              rfl
          have heq : f = g → w.resolve f = w.resolve g := fun h => h ▸ rfl
          simp only [Option.getD_some, Option.isSome_some, true_and,
            not_true_eq_false, false_and, or_false, hmeant]
          exact ⟨.inr, (·.elim heq id)⟩

theorem isSpelt_shown (hw : w.IsSound) (base : Path) (hspelt : f.IsSpelt)
    (hfile : w.isFile f = true) : (shown w base f).IsSpelt := by
  unfold shown
  cases hf : (w.resolve f).relativeTo? (w.resolve base) with
  | none => exact hspelt
  | some q =>
      obtain ⟨hroot, hparts⟩ := relativeTo?_resolve.1 hf
      obtain ⟨here, content, -, hat, hplace⟩ := hw.exists_place hfile
      refine ⟨.inl hroot, fun part hpart => ?_⟩
      rw [hplace] at hparts
      have hmem : part ∈ here := by
        rw [show here = _ from hparts]
        exact List.mem_append_right _ hpart
      exact ((hw.names.at? hat).1 part hmem).toIsPart

/-- No file passes for one below the working folder, for without a root and
without double dots it lies there itself. -/
theorem not_passes_cwd (hw : w.IsSound) (hg : w.isFile g = true) :
    ¬ Passes w w.cwdPath f g := by
  rintro ⟨houtside, hwritten⟩
  obtain ⟨hroot, hparts⟩ := relativeTo?_resolve.1 hwritten
  obtain ⟨here, content, -, hat, hplace⟩ := hw.exists_place hg
  have hup : Path.up ∉ f.parts := by
    intro hmem
    rw [hplace] at hparts
    have hhere : Path.up ∈ here := by
      rw [show here = _ from hparts]
      exact List.mem_append_right _ hmem
    exact ((hw.names.at? hat).1 _ hhere).ne_up rfl
  have hrelative : f.isAbsolute = false := by
    unfold Path.isAbsolute
    rw [hroot]
    rfl
  have hbelow : (w.resolve f).relativeTo? (w.resolve w.cwdPath) = some f := by
    rw [relativeTo?_resolve]
    refine ⟨hroot, ?_⟩
    unfold Workspace.resolve
    rw [Path.resolve_of_up_not_mem _ hup]
    unfold Path.start
    rw [hrelative]
    rfl
  exact houtside (Option.isSome_iff_exists.2 ⟨f, hbelow⟩)

-- ============================================================ the whole

/-- The files of a run, told apart. No path comes twice, and every path leads
to a file and means the place of that file; but two paths may mean one file
when they have different roots or a double dot. When the given paths have one
root, and neither they nor the patterns have a double dot, no file comes twice
and no two go by one name.

Two files go by one name exactly if they are one file that lies below the base
folder, or if one outside it is written as the other is called; the latter
does not happen when the base is the working folder. -/
theorem files_resolved (hw : w.IsSound) (hpaths : ∀ p ∈ paths, p.IsSpelt)
    (h : files w s paths = .ok fs) :
    fs.Nodup
      ∧ (∀ f ∈ fs, ∃ here content, w.locate f = .ok here
        ∧ w.tree.at? here = some (.file content)
        ∧ w.resolve f = ⟨"/", here⟩)
      ∧ (∀ f ∈ fs, ∀ g ∈ fs, w.resolve f = w.resolve g →
        f = g ∨ f.root ≠ g.root ∨ Path.up ∈ f.parts ∨ Path.up ∈ g.parts)
      ∧ (∀ f ∈ fs, ∀ g ∈ fs, ∀ base,
        displayName w (some base) f = displayName w (some base) g
          ↔ f = g ∨ LiesBelow w base f ∧ w.resolve f = w.resolve g
            ∨ Passes w base f g ∨ Passes w base g f)
      ∧ (∀ f ∈ fs, ∀ g ∈ fs, ¬ Passes w w.cwdPath f g)
      ∧ (∀ root, (∀ p ∈ given w paths, p.root = root ∧ Path.up ∉ p.parts) →
        (∀ pattern ∈ s.patterns, Path.up ∉ (Path.ofText pattern).parts) →
        (fs.map w.resolve).Nodup
          ∧ (fs.map (displayName w (some w.cwdPath))).Nodup) := by
  obtain ⟨hascending, hmem⟩ := files_entries hw hpaths h
  have hspelt := isSpelt_given hw hpaths
  have hnodup : fs.Nodup := by
    refine hascending.imp ?_
    rintro f _ hbefore rfl
    exact Std.Irrefl.irrefl f hbefore
  have hfile : ∀ f ∈ fs, w.isFile f = true := by
    intro f hf
    obtain ⟨p, -, hstands⟩ := (hmem f).1 hf
    exact Workspace.hasFile_eq_true.1 hstands.isFile
  have hfspelt : ∀ f ∈ fs, f.IsSpelt := by
    intro f hf
    obtain ⟨p, hp, hstands⟩ := (hmem f).1 hf
    exact hstands.isSpelt hw (hspelt p hp)
  have hname : ∀ f ∈ fs, ∀ g ∈ fs, ∀ base,
      displayName w (some base) f = displayName w (some base) g
        ↔ f = g ∨ LiesBelow w base f ∧ w.resolve f = w.resolve g
          ∨ Passes w base f g ∨ Passes w base g f := by
    intro f hf g hg base
    rw [displayName_eq, displayName_eq, Path.toText_inj
      (isSpelt_shown hw base (hfspelt f hf) (hfile f hf))
      (isSpelt_shown hw base (hfspelt g hg) (hfile g hg)), shown_eq_iff]
  have hpasses : ∀ f ∈ fs, ∀ g ∈ fs, ¬ Passes w w.cwdPath f g :=
    fun f _ g hg => not_passes_cwd hw (hfile g hg)
  refine ⟨hnodup, fun f hf => hw.exists_place (hfile f hf), ?_, hname,
    hpasses, fun root halike hs => ?_⟩
  · intro f _ g _ heq
    by_cases hroot : f.root = g.root
    · by_cases hf : Path.up ∈ f.parts
      · exact .inr (.inr (.inl hf))
      · by_cases hg : Path.up ∈ g.parts
        · exact .inr (.inr (.inr hg))
        · exact .inl (Path.eq_of_resolve_eq hroot hf hg heq)
    · exact .inr (.inl hroot)
  · have hplain : ∀ f ∈ fs, f.root = root ∧ Path.up ∉ f.parts := by
      intro f hf
      obtain ⟨p, hp, hstands⟩ := (hmem f).1 hf
      obtain ⟨hroot, hup⟩ := halike p hp
      exact ⟨hstands.root_eq.trans hroot, hstands.up_not_mem hw hup hs⟩
    have hmeant : ∀ f ∈ fs, ∀ g ∈ fs, w.resolve f = w.resolve g → f = g := by
      intro f hf g hg
      obtain ⟨hroot, hup⟩ := hplain f hf
      obtain ⟨hroot', hup'⟩ := hplain g hg
      exact Path.eq_of_resolve_eq (hroot.trans hroot'.symm) hup hup'
    refine ⟨hnodup.map_on hmeant, hnodup.map_on fun f hf g hg heq => ?_⟩
    rcases (hname f hf g hg _).1 heq with heq | ⟨-, heq⟩ | hpass | hpass
    · exact heq
    · exact hmeant f hf g hg heq
    · exact absurd hpass (hpasses f hf g hg)
    · exact absurd hpass (hpasses g hg f hf)

/-- A folder and a file in it that is found there too, seen from the folder
above. -/
theorem files_resolved_overlapping :
    let w : Workspace := ⟨.folder [("home", .folder [("src", .folder
      [("a.py", .file [120]), ("b", .folder [("a.py", .file [121])])])])],
      ["home"]⟩
    let fs : List Path := [.ofText "src/a.py", .ofText "src/b/a.py"]
    w.IsSound ∧ files w .default [.ofText "src/b/a.py", .ofText "src"] = .ok fs
      ∧ (fs.map w.resolve).Nodup
      ∧ (fs.map (displayName w (some w.cwdPath))).Nodup := by
  intro w fs
  have hw : w.IsSound := by
    refine ⟨?_, _, rfl⟩
    simp only [w, Tree.HasNames, Tree.EntriesHaveNames]
    decide
  have hfiles : files w .default [.ofText "src/b/a.py", .ofText "src"]
      = .ok fs := by cbv
  have hspelt : ∀ p ∈ ([.ofText "src/b/a.py", .ofText "src"] : List Path),
      p.IsSpelt := by
    simp only [List.forall_mem_cons]
    exact ⟨Path.isSpelt_ofText _, Path.isSpelt_ofText _,
      List.forall_mem_nil _⟩
  obtain ⟨-, -, -, -, -, halike⟩ := files_resolved hw hspelt hfiles
  exact ⟨hw, hfiles, halike [] (by decide) (by decide)⟩

/-- A file comes twice when it is given once more by a way through a folder
beside it. -/
theorem files_repeated :
    let w : Workspace :=
      ⟨.folder [("a.py", .file [120]), ("d", .folder [])], []⟩
    let fs : List Path := [.ofText "a.py", .ofText "d/../a.py"]
    w.IsSound ∧ (∀ p ∈ fs, p.IsSpelt) ∧ files w .default fs = .ok fs
      ∧ ¬ (fs.map w.resolve).Nodup
      ∧ ¬ (fs.map (displayName w (some w.cwdPath))).Nodup := by
  intro w fs
  have hw : w.IsSound := by
    refine ⟨?_, _, rfl⟩
    simp only [w, Tree.HasNames, Tree.EntriesHaveNames]
    decide
  refine ⟨hw, ?_, by cbv, by decide, by decide⟩
  simp only [fs, List.forall_mem_cons]
  exact ⟨Path.isSpelt_ofText _, Path.isSpelt_ofText _, List.forall_mem_nil _⟩

end Discovery

end Marginalia
