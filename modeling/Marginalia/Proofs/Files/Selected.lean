/-
Which files a run looks at, whatever the system answers. A path stands for
itself when it is a file; when it is a folder it stands for what some pattern
finds below it, except what an exclusion or the look of its bytes keeps out
(`StandsFor`). A run looks at everything that some given path stands for, so a
file that is kept out on one way is still looked at when another way leads to
it.

The list of files is known by its members, for it goes up strictly
(`filesIn_of_ascending`). All that the order of the paths and of the patterns,
and repetitions of them, could change is therefore without effect, and so is a
second round over what the first one has found.

There is a list only if the system answers whatever it is asked. It refuses to
where a name is too long or a folder may not be entered (`Refuses`), and the run
then fails as a whole with that refusal: what the other paths stand for is lost
with it.
-/
import Mathlib
import Marginalia.Discovery
import Marginalia.Proofs.Files.Order
import Marginalia.Proofs.Files.Search

namespace Marginalia.Discovery

open Traverse

-- ======================================================== what is meant

/-- The path `p` stands for the file `f`: it is the file, or a folder below
which a pattern finds it. In the latter case no component below the folder is
an excluded name, and the first 8192 bytes hold no NUL where they can be
read. -/
inductive StandsFor (sys : System) (s : Settings) (p f : Path) : Prop
  | self (path : p = f) (isFile : sys.hasFile f = .ok true)
  | below {pattern : Text} {found : List Path} {below : List Text}
      (isFolder : sys.hasFolder p = .ok true)
      (pattern_mem : pattern ∈ s.patterns)
      (find : sys.find p pattern = .ok found) (found_mem : f ∈ found)
      (isFile : sys.hasFile f = .ok true)
      (path : f = ⟨p.root, p.parts ++ below⟩)
      (kept : ∀ part ∈ below, part ∉ s.exclude)
      (text : ∀ content, sys.bytesAt f = .ok content →
        0 ∉ content.take 8192)

/-- The system refuses to say what the path `p` stands for: whether it is a
file or a folder, what a pattern finds below it, or whether that is a file. -/
inductive Refuses (sys : System) (s : Settings) (p : Path) : Failure → Prop
  | file {fault : PathFault} (refused : sys.hasFile p = .error fault) :
      Refuses sys s p (.path fault)
  | folder {fault : PathFault} (notFile : sys.hasFile p = .ok false)
      (refused : sys.hasFolder p = .error fault) :
      Refuses sys s p (.path fault)
  | search {pattern : Text} {fault : PathFault}
      (notFile : sys.hasFile p = .ok false)
      (isFolder : sys.hasFolder p = .ok true)
      (pattern_mem : pattern ∈ s.patterns)
      (refused : sys.find p pattern = .error (.path fault)) :
      Refuses sys s p (.pattern (.path fault))
  | found {pattern : Text} {found : List Path} {f : Path} {fault : PathFault}
      (notFile : sys.hasFile p = .ok false)
      (isFolder : sys.hasFolder p = .ok true)
      (pattern_mem : pattern ∈ s.patterns)
      (find : sys.find p pattern = .ok found) (found_mem : f ∈ found)
      (refused : sys.hasFile f = .error fault) : Refuses sys s p (.path fault)

/-- The system answers whatever the path `p` makes a run ask. -/
def Answers (sys : System) (s : Settings) (p : Path) : Prop :=
  ∀ cause, ¬ Refuses sys s p cause

variable {sys : System} {s : Settings} {p f : Path} {paths : List Path}
  {fs : List Path}

theorem StandsFor.isFile (h : StandsFor sys s p f) :
    sys.hasFile f = .ok true := by
  cases h with
  | self _ isFile => exact isFile
  | below _ _ _ _ isFile => exact isFile

/-- A file stands for itself and for nothing else. -/
theorem standsFor_of_isFile (hsys : sys.IsProper)
    (hp : sys.hasFile p = .ok true) : StandsFor sys s p f ↔ f = p := by
  constructor
  · intro h
    cases h with
    | self path => exact path.symm
    | below isFolder => exact absurd isFolder (hsys.apart hp)
  · rintro rfl
    exact .self rfl hp

/-- Nothing is refused about a file. -/
theorem answers_of_isFile (hp : sys.hasFile p = .ok true) :
    Answers sys s p := by
  intro cause h
  cases h with
  | file refused => exact nomatch hp.symm.trans refused
  | folder notFile => exact nomatch hp.symm.trans notFile
  | search notFile => exact nomatch hp.symm.trans notFile
  | found notFile => exact nomatch hp.symm.trans notFile

/-- What a clean path stands for is a clean path. -/
theorem StandsFor.isClean (hsys : sys.IsProper) (h : StandsFor sys s p f)
    (hp : p.IsClean) : f.IsClean := by
  refine ⟨?_, hsys.parts h.isFile⟩
  cases h with
  | self path => exact path ▸ hp.root
  | below _ _ _ _ _ path =>
      rw [path]
      exact hp.root

-- ============================================================= filters

theorem isFile_eq_true : sys.isFile f = true ↔ sys.hasFile f = .ok true := by
  unfold System.isFile
  cases sys.hasFile f with
  | error fault => exact ⟨nofun, nofun⟩
  | ok b => exact ⟨congrArg _, Except.ok.inj⟩

/-- A file passes for text when no NUL can be read near its start. -/
theorem looksBinary_eq_false : looksBinary sys f = false
    ↔ ∀ content, sys.bytesAt f = .ok content → 0 ∉ content.take 8192 := by
  unfold looksBinary
  cases sys.bytesAt f with
  | error fault => exact ⟨fun _ => nofun, fun _ => rfl⟩
  | ok content =>
      simp only [sniffLength, Except.ok.injEq, forall_eq', ← Bool.not_eq_true,
        List.contains_iff_mem]

/-- A path below a folder is kept when no component that it adds is an
excluded name. -/
theorem isExcluded_eq_false {exclude below : List Text}
    (hf : f = ⟨p.root, p.parts ++ below⟩) :
    isExcluded exclude p f = false ↔ ∀ part ∈ below, part ∉ exclude := by
  have hbelow : f.relativeTo? p = some ⟨[], below⟩ := by
    rw [hf]
    unfold Path.relativeTo?
    rw [if_pos (by simp), List.drop_left]
  simp only [isExcluded, hbelow, List.any_eq_false, List.contains_iff_mem]

-- ========================================================= one pattern

variable {pattern : Text}

/-- A pattern has a list of files when the system answers for the search and
for all that it finds. -/
theorem found_ok : found sys s.exclude p pattern = .ok fs
    ↔ ∃ all, sys.find p pattern = .ok all
      ∧ (∀ f ∈ all, ∃ b, sys.hasFile f = .ok b)
      ∧ fs = all.filter fun f =>
        sys.isFile f && !isExcluded s.exclude p f && !looksBinary sys f := by
  unfold found
  cases hfind : sys.find p pattern with
  | error e => simp
  | ok all =>
      cases hall : all.mapM sys.hasFile with
      | error fault =>
          obtain ⟨f, hf, hfault⟩ := error_of_mapM hall
          simp only [hall]
          refine ⟨nofun, ?_⟩
          rintro ⟨_, ⟨⟩, hanswers, -⟩
          obtain ⟨b, hb⟩ := hanswers f hf
          rw [hfault] at hb
          cases hb
      | ok answers =>
          simp only [hall]
          constructor
          · rintro ⟨⟩
            exact ⟨all, rfl, fun f hf => exists_of_mapM hall hf, rfl⟩
          · rintro ⟨_, ⟨⟩, -, rfl⟩
            rfl

/-- A pattern has no list of files where the search is refused, or the answer
for something that it finds. -/
theorem found_error {cause : Failure}
    (h : found sys s.exclude p pattern = .error cause) :
    (∃ e, sys.find p pattern = .error e ∧ cause = .pattern e)
      ∨ ∃ all, sys.find p pattern = .ok all
        ∧ ∃ f ∈ all, ∃ fault, sys.hasFile f = .error fault
          ∧ cause = .path fault := by
  unfold found at h
  split at h
  · rename_i e hfind
    cases h
    exact .inl ⟨e, hfind, rfl⟩
  · rename_i all hfind
    split at h
    · rename_i fault hall
      cases h
      obtain ⟨f, hf, hfault⟩ := error_of_mapM hall
      exact .inr ⟨all, hfind, f, hf, fault, hfault, rfl⟩
    · cases h

/-- A folder stands for the files that its patterns have. -/
theorem standsFor_iff_found (hsys : sys.IsProper)
    (hp : sys.hasFolder p = .ok true)
    (hs : ∀ pattern ∈ s.patterns,
      ∃ fs, found sys s.exclude p pattern = .ok fs) :
    StandsFor sys s p f
      ↔ ∃ fs, (∃ pattern ∈ s.patterns,
        found sys s.exclude p pattern = .ok fs) ∧ f ∈ fs := by
  constructor
  · intro h
    cases h with
    | self path isFile => exact absurd (path ▸ hp) (hsys.apart isFile)
    | @below pattern _ _ _ hmem hfind hf hfile path kept text =>
        obtain ⟨fs, hfs⟩ := hs pattern hmem
        refine ⟨fs, ⟨pattern, hmem, hfs⟩, ?_⟩
        obtain ⟨all, hall, -, rfl⟩ := found_ok.1 hfs
        rw [hfind] at hall
        cases hall
        rw [List.mem_filter, isFile_eq_true.2 hfile,
          (isExcluded_eq_false path).2 kept, looksBinary_eq_false.2 text]
        exact ⟨hf, rfl⟩
  · rintro ⟨fs, ⟨pattern, hmem, hfs⟩, hf⟩
    obtain ⟨all, hfind, -, rfl⟩ := found_ok.1 hfs
    obtain ⟨hf, hpass⟩ := List.mem_filter.1 hf
    simp only [Bool.and_eq_true, Bool.not_eq_true'] at hpass
    obtain ⟨⟨hfile, hkept⟩, htext⟩ := hpass
    obtain ⟨below, hbelow⟩ := hsys.below hfind hf
    exact .below hp hmem hfind hf (isFile_eq_true.1 hfile) hbelow
      ((isExcluded_eq_false hbelow).1 hkept) (looksBinary_eq_false.1 htext)

-- ============================================================ one path

/-- The files of a path: there are none where the system does not answer, and
otherwise a file has itself, a folder what its patterns have, and anything
else nothing. -/
theorem filesOf_cases (sys : System) (s : Settings) (p : Path) :
    (∃ fault, Refuses sys s p (.path fault)
        ∧ filesOf sys s p = .error (.path fault))
      ∨ sys.hasFile p = .ok true ∧ filesOf sys s p = .ok [p]
      ∨ sys.hasFile p = .ok false
        ∧ (sys.hasFolder p = .ok true ∧ filesOf sys s p
            = (s.patterns.mapM (found sys s.exclude p)).map List.flatten
          ∨ sys.hasFolder p = .ok false ∧ filesOf sys s p = .ok []) := by
  unfold filesOf
  cases hfile : sys.hasFile p with
  | error fault => exact .inl ⟨fault, .file hfile, rfl⟩
  | ok isFile =>
      cases isFile with
      | true => exact .inr (.inl ⟨rfl, rfl⟩)
      | false =>
          cases hfolder : sys.hasFolder p with
          | error fault => exact .inl ⟨fault, .folder hfile hfolder, rfl⟩
          | ok isFolder =>
              cases isFolder with
              | true => exact .inr (.inr ⟨rfl, .inl ⟨rfl, rfl⟩⟩)
              | false => exact .inr (.inr ⟨rfl, .inr ⟨rfl, rfl⟩⟩)

/-- A list of files of a path holds what the path stands for, and nothing was
refused. -/
theorem filesOf_ok (hsys : sys.IsProper) (h : filesOf sys s p = .ok fs) :
    Answers sys s p ∧ ∀ f, f ∈ fs ↔ StandsFor sys s p f := by
  rcases filesOf_cases sys s p with ⟨fault, -, heq⟩ | ⟨hfile, heq⟩
    | ⟨hfile, ⟨hfolder, heq⟩ | ⟨hfolder, heq⟩⟩
  · rw [heq] at h
    cases h
  · rw [heq] at h
    cases h
    refine ⟨answers_of_isFile hfile, fun f => ?_⟩
    rw [List.mem_singleton, standsFor_of_isFile hsys hfile]
  · rw [heq, map_ok] at h
    obtain ⟨groups, hgroups, rfl⟩ := h
    have hfound : ∀ pattern ∈ s.patterns,
        ∃ fs, found sys s.exclude p pattern = .ok fs :=
      fun pattern hmem => exists_of_mapM hgroups hmem
    refine ⟨fun cause hrefuses => ?_, fun f => ?_⟩
    · cases hrefuses with
      | file refused => exact nomatch hfile.symm.trans refused
      | folder _ refused => exact nomatch hfolder.symm.trans refused
      | search _ _ hmem refused =>
          obtain ⟨fs, hfs⟩ := hfound _ hmem
          obtain ⟨all, hfind, -, -⟩ := found_ok.1 hfs
          exact nomatch hfind.symm.trans refused
      | found _ _ hmem find hf refused =>
          obtain ⟨fs, hfs⟩ := hfound _ hmem
          obtain ⟨all, hfind, hall, -⟩ := found_ok.1 hfs
          cases hfind.symm.trans find
          obtain ⟨b, hb⟩ := hall _ hf
          exact nomatch hb.symm.trans refused
    · rw [standsFor_iff_found hsys hfolder hfound, List.mem_flatten]
      simp only [mem_mapM hgroups]
  · rw [heq] at h
    cases h
    refine ⟨fun cause hrefuses => ?_, fun f => ⟨nofun, fun hstands => ?_⟩⟩
    · cases hrefuses with
      | file refused => exact nomatch hfile.symm.trans refused
      | folder _ refused => exact nomatch hfolder.symm.trans refused
      | search _ isFolder => exact nomatch hfolder.symm.trans isFolder
      | found _ isFolder => exact nomatch hfolder.symm.trans isFolder
    · cases hstands with
      | self path isFile => exact nomatch (path ▸ hfile).symm.trans isFile
      | below isFolder => exact nomatch hfolder.symm.trans isFolder

/-- Where there is no list of the files of a path, the system has refused
something about it. -/
theorem refuses_of_filesOf (hsys : sys.IsProper) {cause : Failure}
    (hs : ∀ pattern ∈ s.patterns, Glob.IsPattern pattern)
    (h : filesOf sys s p = .error cause) : Refuses sys s p cause := by
  rcases filesOf_cases sys s p with ⟨fault, hrefuses, heq⟩ | ⟨-, heq⟩
    | ⟨hfile, ⟨hfolder, heq⟩ | ⟨-, heq⟩⟩
  · rw [heq] at h
    cases h
    exact hrefuses
  · rw [heq] at h
    cases h
  · rw [heq, map_error] at h
    obtain ⟨pattern, hmem, hfail⟩ := error_of_mapM h
    rcases found_error hfail with ⟨e, hfind, rfl⟩
      | ⟨all, hfind, f, hf, fault, hfault, rfl⟩
    · obtain ⟨fault, rfl⟩ := hsys.refused (hs pattern hmem) hfind
      exact .search hfile hfolder hmem hfind
    · exact .found hfile hfolder hmem hfind hf hfault
  · rw [heq] at h
    cases h

-- =========================================================== all paths

/-- The files of some paths are those of each path, sorted. -/
theorem filesIn_eq (hpaths : paths ≠ []) : filesIn sys s paths
    = (paths.mapM (filesOf sys s)).map fun groups =>
      groups.flatten.eraseDups.mergeSort Path.le := by
  have hempty : paths.isEmpty = false := List.isEmpty_eq_false_iff.2 hpaths
  rw [filesIn, hempty]
  rfl

/-- A list of files goes up strictly and holds what some path stands for. -/
theorem filesIn_ok (hsys : sys.IsProper) (hclean : ∀ p ∈ paths, p.IsClean)
    (hpaths : paths ≠ []) (h : filesIn sys s paths = .ok fs) :
    (∀ p ∈ paths, Answers sys s p) ∧ fs.Pairwise Path.Before
      ∧ ∀ f, f ∈ fs ↔ ∃ p ∈ paths, StandsFor sys s p f := by
  rw [filesIn_eq hpaths, map_ok] at h
  obtain ⟨groups, hgroups, rfl⟩ := h
  have hmem : ∀ f,
      f ∈ groups.flatten ↔ ∃ p ∈ paths, StandsFor sys s p f := by
    intro f
    simp only [List.mem_flatten, mem_mapM hgroups]
    constructor
    · rintro ⟨group, ⟨p, hp, hgroup⟩, hf⟩
      exact ⟨p, hp, ((filesOf_ok hsys hgroup).2 f).1 hf⟩
    · rintro ⟨p, hp, hf⟩
      obtain ⟨group, hgroup⟩ := exists_of_mapM hgroups hp
      exact ⟨group, ⟨p, hp, hgroup⟩, ((filesOf_ok hsys hgroup).2 f).2 hf⟩
  refine ⟨fun p hp => ?_, Path.ascending_mergeSort fun f hf => ?_, fun f => ?_⟩
  · obtain ⟨group, hgroup⟩ := exists_of_mapM hgroups hp
    exact (filesOf_ok hsys hgroup).1
  · obtain ⟨p, hp, hstands⟩ := (hmem f).1 hf
    exact hstands.isClean hsys (hclean p hp)
  · rw [List.mem_mergeSort, List.mem_eraseDups, hmem]

/-- There is no list of files only where the system has refused something
about one of the paths. -/
theorem refuses_of_filesIn (hsys : sys.IsProper) {cause : Failure}
    (hpaths : paths ≠ [])
    (hs : ∀ pattern ∈ s.patterns, Glob.IsPattern pattern)
    (h : filesIn sys s paths = .error cause) :
    ∃ p ∈ paths, Refuses sys s p cause := by
  rw [filesIn_eq hpaths, map_error] at h
  obtain ⟨p, hp, hfail⟩ := error_of_mapM h
  exact ⟨p, hp, refuses_of_filesOf hsys hs hfail⟩

/-- Where the system answers for all paths there is a list of files. -/
theorem exists_filesIn (hsys : sys.IsProper) (hpaths : paths ≠ [])
    (hs : ∀ pattern ∈ s.patterns, Glob.IsPattern pattern)
    (h : ∀ p ∈ paths, Answers sys s p) :
    ∃ fs, filesIn sys s paths = .ok fs := by
  cases hfiles : filesIn sys s paths with
  | ok fs => exact ⟨fs, rfl⟩
  | error cause =>
      obtain ⟨p, hp, hrefuses⟩ := refuses_of_filesIn hsys hpaths hs hfiles
      exact absurd hrefuses (h p hp cause)

/-- Settings with the same exclusions and the same set of patterns give a
path the same files and the same answers. -/
theorem StandsFor.of_same {s' : Settings} (hexclude : s'.exclude = s.exclude)
    (hpatterns : s.patterns ⊆ s'.patterns) (h : StandsFor sys s p f) :
    StandsFor sys s' p f := by
  cases h with
  | self path isFile => exact .self path isFile
  | below isFolder hmem find found_mem isFile path kept text =>
      exact .below isFolder (hpatterns hmem) find found_mem isFile path
        (hexclude ▸ kept) text

theorem Answers.of_same {s' : Settings} (hpatterns : s'.patterns ⊆ s.patterns)
    (h : Answers sys s p) : Answers sys s' p := by
  intro cause hrefuses
  cases hrefuses with
  | file refused => exact h _ (.file refused)
  | folder notFile refused => exact h _ (.folder notFile refused)
  | search notFile isFolder hmem refused =>
      exact h _ (.search notFile isFolder (hpatterns hmem) refused)
  | found notFile isFolder hmem find found_mem refused =>
      exact h _
        (.found notFile isFolder (hpatterns hmem) find found_mem refused)

/-- A list that goes up strictly and holds what some path stands for is the
list of files, where the system answers. -/
theorem filesIn_of_ascending (hsys : sys.IsProper)
    (hclean : ∀ p ∈ paths, p.IsClean) (hpaths : paths ≠ [])
    (hs : ∀ pattern ∈ s.patterns, Glob.IsPattern pattern)
    (hanswers : ∀ p ∈ paths, Answers sys s p)
    (hascending : fs.Pairwise Path.Before)
    (hmem : ∀ f, f ∈ fs ↔ ∃ p ∈ paths, StandsFor sys s p f) :
    filesIn sys s paths = .ok fs := by
  obtain ⟨fs', h'⟩ := exists_filesIn hsys hpaths hs hanswers
  obtain ⟨-, hascending', hmem'⟩ := filesIn_ok hsys hclean hpaths h'
  rw [h', hascending'.eq_of_mem_iff hascending fun f => ?_]
  rw [hmem, hmem']

/-- Only the sets of the paths and of the patterns count. -/
theorem filesIn_of_same (hsys : sys.IsProper)
    (hclean : ∀ p ∈ paths, p.IsClean) (hpaths : paths ≠ [])
    (hs : ∀ pattern ∈ s.patterns, Glob.IsPattern pattern)
    (h : filesIn sys s paths = .ok fs) {s' : Settings} {paths' : List Path}
    (hexclude : s'.exclude = s.exclude)
    (hpatterns : ∀ pattern, pattern ∈ s'.patterns ↔ pattern ∈ s.patterns)
    (hsame : ∀ p, p ∈ paths' ↔ p ∈ paths) :
    filesIn sys s' paths' = .ok fs := by
  obtain ⟨hanswers, hascending, hmem⟩ := filesIn_ok hsys hclean hpaths h
  have hfew : s'.patterns ⊆ s.patterns := fun pattern => (hpatterns pattern).1
  have hall : s.patterns ⊆ s'.patterns := fun pattern => (hpatterns pattern).2
  obtain ⟨p, hp⟩ := List.exists_mem_of_ne_nil paths hpaths
  refine filesIn_of_ascending hsys (fun p hp => hclean p ((hsame p).1 hp))
    (List.ne_nil_of_mem ((hsame p).2 hp))
    (fun pattern hmem => hs pattern (hfew hmem))
    (fun p hp => (hanswers p ((hsame p).1 hp)).of_same hfew) hascending
    fun f => ?_
  rw [hmem]
  constructor
  · rintro ⟨p, hp, hf⟩
    exact ⟨p, (hsame p).2 hp, hf.of_same hexclude hall⟩
  · rintro ⟨p, hp, hf⟩
    exact ⟨p, (hsame p).1 hp, hf.of_same hexclude.symm hfew⟩

/-- The files that were found are files, and stand for themselves only. -/
theorem filesIn_again (hsys : sys.IsProper)
    (hclean : ∀ p ∈ paths, p.IsClean) (hpaths : paths ≠ [])
    (hs : ∀ pattern ∈ s.patterns, Glob.IsPattern pattern)
    (h : filesIn sys s paths = .ok fs) (hfs : fs ≠ []) :
    filesIn sys s fs = .ok fs := by
  obtain ⟨-, hascending, hmem⟩ := filesIn_ok hsys hclean hpaths h
  have hfile : ∀ f ∈ fs, sys.hasFile f = .ok true := by
    intro f hf
    obtain ⟨p, -, hstands⟩ := (hmem f).1 hf
    exact hstands.isFile
  have hcleanFs : ∀ f ∈ fs, f.IsClean := by
    intro f hf
    obtain ⟨p, hp, hstands⟩ := (hmem f).1 hf
    exact hstands.isClean hsys (hclean p hp)
  refine filesIn_of_ascending hsys hcleanFs hfs hs
    (fun f hf => answers_of_isFile (hfile f hf)) hascending fun f => ?_
  constructor
  · exact fun hf => ⟨f, hf, .self rfl (hfile f hf)⟩
  · rintro ⟨p, hp, hf⟩
    rw [(standsFor_of_isFile hsys (hfile p hp)).1 hf]
    exact hp

/-- The files of a run. There is a list of them exactly if the system answers
whatever it is asked, and otherwise the failure is what it has refused about
one of the paths. A list goes up strictly and holds the files that some given
path stands for. Another order of the paths or of the patterns, and
repetitions of them, leave it as it is, and so does a second round over it. -/
theorem files_selected (hsys : sys.IsProper)
    (hclean : ∀ p ∈ paths, p.IsClean) (hpaths : paths ≠ [])
    (hs : ∀ pattern ∈ s.patterns, Glob.IsPattern pattern) :
    ((∃ fs, filesIn sys s paths = .ok fs)
        ↔ ∀ p ∈ paths, ∀ cause, ¬ Refuses sys s p cause)
      ∧ (∀ cause, filesIn sys s paths = .error cause →
        ∃ p ∈ paths, Refuses sys s p cause)
      ∧ ∀ fs, filesIn sys s paths = .ok fs →
        fs.Pairwise Path.Before
          ∧ (∀ f, f ∈ fs ↔ ∃ p ∈ paths, StandsFor sys s p f)
          ∧ (∀ (s' : Settings) (paths' : List Path), s'.exclude = s.exclude →
            (∀ pattern, pattern ∈ s'.patterns ↔ pattern ∈ s.patterns) →
            (∀ p, p ∈ paths' ↔ p ∈ paths) → filesIn sys s' paths' = .ok fs)
          ∧ (fs ≠ [] → filesIn sys s fs = .ok fs) := by
  refine ⟨⟨?_, exists_filesIn hsys hpaths hs⟩,
    fun cause => refuses_of_filesIn hsys hpaths hs, fun fs h => ?_⟩
  · rintro ⟨fs, h⟩
    exact (filesIn_ok hsys hclean hpaths h).1
  · obtain ⟨-, hascending, hmem⟩ := filesIn_ok hsys hclean hpaths h
    exact ⟨hascending, hmem,
      fun s' paths' => filesIn_of_same hsys hclean hpaths hs h,
      filesIn_again hsys hclean hpaths hs h⟩

/-- A folder that is excluded is searched when it is given itself, and a
binary file that is given is kept, in whatever order. -/
theorem files_selected_overlapping :
    let w : Workspace := ⟨.folder [("src", .folder [("a.py", .file [120]),
      ("skip", .folder [("b.py", .file [121])]), ("z", .file [0])])], []⟩
    let s (patterns : List Text) : Settings :=
      { Settings.default with patterns := patterns, exclude := ["skip"] }
    let fs : List Path :=
      [.ofText "src/a.py", .ofText "src/skip/b.py", .ofText "src/z"]
    files w (s ["*.py", "**/*"])
        [.ofText "src/skip", .ofText "src/z", .ofText "none", .ofText "src"]
        = .ok fs
      ∧ files w (s ["**/*", "*.py", "**/*"])
        [.ofText "src", .ofText "none", .ofText "src/skip", .ofText "src/z",
          .ofText "src"] = .ok fs
      ∧ files w (s ["*.py", "**/*"]) fs = .ok fs
      ∧ fs.Pairwise Path.Before := by
  intro w s fs
  let paths : List Path :=
    [.ofText "src/skip", .ofText "src/z", .ofText "none", .ofText "src"]
  have hfiles : files w (s ["*.py", "**/*"]) paths = .ok fs := by cbv
  have hw : w.tree.IsProper := by
    have hskip : (Tree.folder [("b.py", .file [121])]).IsProper :=
      Tree.isProper_folder (List.forall_mem_singleton.2
        ⟨by decide, Tree.isProper_file _⟩)
    have hsrc : (Tree.folder [("a.py", .file [120]),
        ("skip", .folder [("b.py", .file [121])]),
        ("z", .file [0])]).IsProper := by
      refine Tree.isProper_folder ?_
      simp only [List.forall_mem_cons]
      exact ⟨⟨by decide, Tree.isProper_file _⟩, ⟨by decide, hskip⟩,
        ⟨by decide, Tree.isProper_file _⟩, List.forall_mem_nil _⟩
    exact Tree.isProper_folder (List.forall_mem_singleton.2
      ⟨by decide, hsrc⟩)
  have hclean : ∀ p ∈ paths, p.IsClean := by
    simp only [paths, List.forall_mem_cons]
    exact ⟨Path.isClean_ofText _, Path.isClean_ofText _,
      Path.isClean_ofText _, Path.isClean_ofText _, List.forall_mem_nil _⟩
  have hs : ∀ pattern ∈ (s ["*.py", "**/*"]).patterns,
      Glob.IsPattern pattern := by
    show ∀ pattern ∈ ([ "*.py", "**/*"] : List Text), Glob.IsPattern pattern
    simp only [List.forall_mem_cons]
    exact ⟨⟨_, rfl⟩, ⟨_, rfl⟩, List.forall_mem_nil _⟩
  obtain ⟨hascending, -, hsame, hagain⟩ :=
    (files_selected (Workspace.isProper_system hw) hclean
      (List.cons_ne_nil _ _) hs).2.2 fs hfiles
  refine ⟨hfiles, hsame _ _ rfl (fun pattern => ?_) (fun p => ?_),
    hagain (List.cons_ne_nil _ _), hascending⟩
  · show pattern ∈ ([_, _, _] : List Text) ↔ pattern ∈ ([_, _] : List Text)
    grind
  · grind

set_option maxRecDepth 10000 in
/-- A name that is too long for a file is a path that leads nowhere, but it
leaves the run without the file that is given beside it. -/
theorem files_unanswered :
    let w : Workspace := ⟨.folder [("x.py", .file [97, 10])], []⟩
    let long : Path := .ofText (List.replicate 256 (.scalar 'a'))
    let paths : List Path := [.ofText "x.py", long]
    w.tree.IsProper ∧ (∀ p ∈ paths, p.IsClean)
      ∧ (∀ pattern ∈ Settings.default.patterns, Glob.IsPattern pattern)
      ∧ (∃ p ∈ paths, StandsFor w.system .default p (.ofText "x.py"))
      ∧ w.entry? long = none
      ∧ files w .default paths = .error (.path .nameTooLong)
      ∧ ¬ ∃ fs, files w .default paths = .ok fs := by
  intro w long paths
  have hfiles : files w .default paths = .error (.path .nameTooLong) := by
    rfl
  refine ⟨Tree.isProper_folder (List.forall_mem_singleton.2
    ⟨by decide, Tree.isProper_file _⟩), ?_, ?_,
    ⟨_, List.mem_cons_self .., .self rfl (by rfl)⟩, by rfl, hfiles, ?_⟩
  · simp only [paths, List.forall_mem_cons]
    exact ⟨Path.isClean_ofText _, Path.isClean_ofText _,
      List.forall_mem_nil _⟩
  · exact List.forall_mem_singleton.2 ⟨_, rfl⟩
  · rintro ⟨fs, h⟩
    rw [hfiles] at h
    cases h

end Marginalia.Discovery
