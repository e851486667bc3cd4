/-
The language of a file. An input that is prepared for a command carries a
language hint, which was looked up with the overrides of the project; the scan
of the input knows no overrides. A file that is scanned by its path alone is
looked up with them. Both come to the same: a hint that was found is not
looked for again, and a file that has none with the overrides has none without
them either (`or_languageOf`).
-/
import Mathlib
import Marginalia.CommandLine.Common
import Marginalia.Proofs.Batch.Schedules

namespace Marginalia

/-- Where nothing is found with overrides nothing is found without. -/
theorem Catalog.or_languageOf (p : Path) (overrides : List (Text × Text)) :
    (languageOf p overrides).or (languageOf p []) = languageOf p overrides := by
  unfold languageOf
  dsimp only
  cases overrides.reverse.find? _ with
  | some o => rfl
  | none => exact Option.or_self ..

namespace ScanOptions

variable (w : Workspace) (s : Settings) (report : Bool)

/-- The options of a scan that looks up the languages of files itself. -/
def ofSettings : ScanOptions := ⟨report, s.styles, s.languages⟩

/-- The options of a scan of inputs that come with their languages. -/
def ofCommand : ScanOptions := ⟨report, s.styles, []⟩

/-- The scan of a file by its path alone, under a name. -/
def scanNamed (o : ScanOptions) (w : Workspace) (file : Text) (p : Path) :
    Except FileError FileScan :=
  match o.scanPath w none p with
  | .ok scan => .ok ⟨file, scan⟩
  | .error e => .error ⟨file, e⟩

/-- The input of a file, as a command prepares it when no language is
forced. -/
def preparedFrom (base : Option Path) (p : Path) : Source :=
  ⟨Discovery.displayName w base p, Discovery.languageHint s none p, .path p⟩

/-- A hint that was looked up before is as good as looking it up. -/
theorem scanPath_hinted (p : Path) :
    (ofCommand s report).scanPath w (Discovery.languageHint s none p) p
      = (ofSettings s report).scanPath w none p := by
  have hhint : Discovery.languageHint s none p
      = Catalog.languageOf p s.languages := rfl
  unfold scanPath
  rw [hhint]
  cases w.bytesAt p with
  | error fault => rfl
  | ok content =>
      simp only [ofCommand, Catalog.or_languageOf]
      rfl

theorem outcome_prepared (base : Option Path) (p : Path) :
    Batch.outcome ((ofCommand s report).scanSource w) (preparedFrom w s base p)
      = (ofSettings s report).scanNamed w (Discovery.displayName w base p) p := by
  unfold Batch.outcome scanNamed
  rw [← scanPath_hinted]
  unfold scanSource preparedFrom
  dsimp only
  cases (ofCommand s report).scanPath w _ p <;> rfl

/-- An input that is prepared with its language hint is scanned as its file is
by its path alone: with the style of the language that the overrides or the
path give, or refused for the same reason, whatever the number of jobs, the
schedule and the base of the name. The report of a command is that of all its
files, each scanned so. -/
theorem language_agreed :
    (∀ (base : Option Path) (p : Path) (jobs : Int)
        (schedule : List Pool.Event),
      (ofCommand s report).scanMany? w jobs schedule [preparedFrom w s base p]
        = some (.ofOutcomes [(ofSettings s report).scanNamed w
          (Discovery.displayName w base p) p]))
      ∧ (∀ (p : Path) (content : Utf8.Bytes), w.bytesAt p = .ok content →
        (ofSettings s report).scanPath w none p
          = (Scan.decode content).map (Scan.ofText (Catalog.styleFor
              (Catalog.languageOf p s.languages) s.styles) report))
      ∧ ∀ paths files, Discovery.files w s paths = .ok files →
        ∃ sources, CommandLine.inputs w s none paths = .ok sources
          ∧ sources = files.map (preparedFrom w s (some w.cwdPath))
          ∧ CommandLine.scan w s (some report) sources
            = .ofOutcomes (files.map fun p => (ofSettings s report).scanNamed w
              (Discovery.displayName w (some w.cwdPath) p) p) := by
  refine ⟨fun base p jobs schedule => ?_, fun p content h => ?_,
    fun paths files h => ?_⟩
  · -- one input needs no pool
    unfold scanMany? Batch.run?
    rw [if_pos (.inr (Nat.le_refl 1)), Batch.serial, List.map_singleton,
      outcome_prepared]
  · unfold scanPath
    rw [h]
    rfl
  · refine ⟨files.map (preparedFrom w s (some w.cwdPath)), ?_, rfl, ?_⟩
    · unfold CommandLine.inputs
      rw [h]
      rfl
    · show scanAll (ofCommand s report) w _ = _
      unfold scanAll Batch.serial
      rw [List.map_map]
      congr 1
      exact List.map_congr_left fun p _ => outcome_prepared w s report _ p

/-- An override in capitals and without its dot, and one to a language without
a name. -/
theorem language_agreed_overridden :
    let w : Workspace := ⟨.folder [("a.inc", .file [47, 47, 64, 33, 107]),
      ("b.py", .file [35])], []⟩
    let s : Settings :=
      { Settings.default with languages := [("INC", "c"), (".py", [])] }
    let paths : List Path := [.ofText "a.inc", .ofText "b.py"]
    Discovery.files w s paths = .ok paths
      ∧ ∃ sources, CommandLine.inputs w s none paths = .ok sources
        ∧ sources.map (·.language) = ([some "c", some []] : List (Option Text))
        ∧ CommandLine.scan w s (some true) sources
          = .ofOutcomes [(ofSettings s true).scanNamed w "a.inc" (.ofText "a.inc"),
            (ofSettings s true).scanNamed w "b.py" (.ofText "b.py")] := by
  intro w s paths
  have hfiles : Discovery.files w s paths = .ok paths := by cbv
  obtain ⟨sources, hinputs, hsources, hscan⟩ :=
    (language_agreed w s true).2.2 paths paths hfiles
  refine ⟨hfiles, sources, hinputs, ?_, hscan⟩
  rw [hsources]
  rfl

end ScanOptions

end Marginalia
