/-
The gate of a check. Every input gives one entry: what its scan reported,
errors apart from warnings as the policy says, or the one error that it
could not be scanned (`ofReport_scanAll`). The totals count these findings,
nothing is counted twice and nothing is left out, and so the exit code says
exactly whether there was something that fails a run. A larger policy moves
findings from the warnings to the errors and never back.

In its lines a check can always say what it found on a lawful console, so it
ends with that code whichever way it prints (`exists_lint`).
-/
import Marginalia.Proofs.Batch.Export
import Marginalia.Proofs.Display.Console
import Marginalia.Proofs.Lint.Lines
import Marginalia.Proofs.StableSort

namespace Marginalia

namespace Lint

-- =============================================================== files

/-- The diagnostics of a scan are parted by the policy, in their order. -/
theorem ofScan_eq (policy : Policy) (s : FileScan) :
    ofScan policy s = ⟨s.file, s.scan.annotations.length,
      (s.scan.diagnostics.filter fun d => policy.contains d.kind).map
        .ofDiagnostic,
      (s.scan.diagnostics.filter fun d => !policy.contains d.kind).map
        .ofDiagnostic⟩ := by
  unfold ofScan
  rw [List.partition_eq_filter_filter]
  rfl

section Entries

variable (policy : Policy) (o : ScanOptions) (w : Workspace)

/-- The findings of one input. The diagnostics whose kind is in the policy
are errors and all others warnings, in the order of the scan; that an input
could not be scanned is one error. -/
def entry (s : Source) : FileLint :=
  match o.result w s with
  | .ok scan => ⟨s.file, scan.annotations.length,
      (scan.diagnostics.filter fun d => policy.contains d.kind).map
        .ofDiagnostic,
      (scan.diagnostics.filter fun d => !policy.contains d.kind).map
        .ofDiagnostic⟩
  | .error e =>
    ⟨s.file, 0, [⟨0, "BT000", "Cannot scan file: " ++ e.message⟩], []⟩

/-- Can the input be scanned? -/
def isScanned (s : Source) : Bool := (o.result w s).isOk

/-- Was anything found in the input? -/
def hasFindings (s : Source) : Bool :=
  match o.result w s with
  | .ok scan => !scan.diagnostics.isEmpty
  | .error _ => true

/-- Inputs in the order of a report: first those that can be scanned. -/
def inOrder (sources : List Source) : List Source :=
  sources.filter (isScanned o w) ++ sources.filter fun s => !isScanned o w s

theorem inOrder_perm (sources : List Source) :
    (inOrder o w sources).Perm sources :=
  List.filter_append_perm ..

theorem scanAll_cons (s : Source) (rest : List Source) :
    o.scanAll w (s :: rest)
      = match o.result w s with
        | .ok scan => ⟨⟨s.file, scan⟩ :: (o.scanAll w rest).scans,
            (o.scanAll w rest).errors⟩
        | .error e => ⟨(o.scanAll w rest).scans,
            ⟨s.file, e⟩ :: (o.scanAll w rest).errors⟩ := by
  unfold ScanOptions.scanAll Batch.serial
  rw [List.map_cons, ScanOptions.outcome_scanSource]
  cases o.result w s <;> rfl

/-- Every input gives one entry, and nothing else does. -/
theorem ofReport_scanAll (sources : List Source) :
    ofReport policy (o.scanAll w sources)
      = (inOrder o w sources).map (entry policy o w) := by
  have hparts :
      (o.scanAll w sources).scans.map (ofScan policy)
          = (sources.filter (isScanned o w)).map (entry policy o w)
        ∧ (o.scanAll w sources).errors.map ofError
          = (sources.filter fun s => !isScanned o w s).map
            (entry policy o w) := by
    induction sources with
    | nil => exact ⟨rfl, rfl⟩
    | cons s rest ih =>
        obtain ⟨hscans, herrors⟩ := ih
        rw [scanAll_cons, List.filter_cons, List.filter_cons]
        cases hs : o.result w s with
        | ok scan =>
            have hscanned : isScanned o w s = true := by
              rw [isScanned, hs]
              rfl
            have hentry :
                ofScan policy ⟨s.file, scan⟩ = entry policy o w s := by
              rw [entry, hs, ofScan_eq]
            rw [hscanned]
            exact ⟨congrArg₂ List.cons hentry hscans, herrors⟩
        | error e =>
            have hscanned : isScanned o w s = false := by
              rw [isScanned, hs]
              rfl
            have hentry : ofError ⟨s.file, e⟩ = entry policy o w s := by
              rw [entry, hs, ofError, unscannedCode]
            rw [hscanned]
            exact ⟨hscans, congrArg₂ List.cons hentry herrors⟩
  unfold ofReport inOrder
  rw [List.map_append, hparts.1, hparts.2]

/-- An entry says something exactly when something was found, whatever the
policy is. -/
theorem entry_nonempty (s : Source) :
    (!(entry policy o w s).passed || !(entry policy o w s).warnings.isEmpty)
      = hasFindings o w s := by
  unfold FileLint.passed entry hasFindings
  cases o.result w s with
  | error e => rfl
  | ok scan =>
      dsimp only
      cases scan.diagnostics with
      | nil => rfl
      | cons d rest =>
          simp only [List.filter_cons]
          cases policy.contains d.kind with
          | true => rfl
          | false => exact Bool.or_true _

end Entries

-- ============================================================== totals

theorem total_cons (count : FileLint → Nat) (l : FileLint)
    (files : List FileLint) :
    total count (l :: files) = count l + total count files := by
  have hstart : ∀ (files : List FileLint) (n : Nat),
      files.foldl (fun sum file => sum + count file) n
        = n + total count files := by
    intro files
    induction files with
    | nil => exact fun n => rfl
    | cons l files ih =>
        intro n
        unfold total
        rw [List.foldl_cons, List.foldl_cons, ih, ih]
        omega
  rw [total, List.foldl_cons, hstart, Nat.zero_add]

theorem total_append (count : FileLint → Nat) (files files' : List FileLint) :
    total count (files ++ files') = total count files + total count files' := by
  induction files with
  | nil => exact (Nat.zero_add _).symm
  | cons l files ih =>
      rw [List.cons_append, total_cons, total_cons, ih]
      omega

section Totals

variable (policy : Policy) (r : Report)

theorem countP_diagnostics_cons (p : Diagnostic → Bool) (s : FileScan)
    (scans : List FileScan) (errors : List FileError) :
    (Report.diagnostics ⟨s :: scans, errors⟩ none).countP (fun d => p d.2)
      = (s.scan.diagnostics.filter p).length
        + (Report.diagnostics ⟨scans, errors⟩ none).countP fun d => p d.2 := by
  unfold Report.diagnostics Report.ask
  rw [List.flatMap_cons, List.countP_append, List.countP_map]
  congr 1
  show List.countP p (s.scan.diagnostics.filter fun _ => true) = _
  rw [List.filter_eq_self.2 fun _ _ => rfl, List.countP_eq_length_filter]

/-- A total, when it counts some diagnostics of a scan and as many findings
for every input that could not be scanned. -/
theorem total_ofReport (count : FileLint → Nat) {p : Diagnostic → Bool}
    {n : Nat}
    (hscan : ∀ s, count (ofScan policy s)
      = (s.scan.diagnostics.filter p).length)
    (herror : ∀ e, count (ofError e) = n) :
    total count (ofReport policy r)
      = (r.diagnostics none).countP (fun d => p d.2)
        + r.errors.length * n := by
  obtain ⟨scans, errors⟩ := r
  unfold ofReport
  rw [total_append]
  dsimp only
  congr 1
  · induction scans with
    | nil => rfl
    | cons s scans ih =>
        rw [List.map_cons, total_cons, hscan, ih, countP_diagnostics_cons]
  · induction errors with
    | nil => exact (Nat.zero_mul n).symm
    | cons e errors ih =>
        rw [List.map_cons, total_cons, herror, ih, List.length_cons,
          Nat.succ_mul, Nat.add_comm]

/-- The errors are the diagnostics of the policy and the inputs that could
not be scanned. -/
theorem errorCount_ofReport :
    errorCount (ofReport policy r)
      = (r.diagnostics none).countP (fun d => policy.contains d.2.kind)
        + r.errors.length := by
  have htotal := total_ofReport policy r (·.errors.length) (n := 1)
    (fun s => by rw [ofScan_eq, List.length_map]) fun e => rfl
  rwa [Nat.mul_one] at htotal

/-- The warnings are all other diagnostics. -/
theorem warningCount_ofReport :
    warningCount (ofReport policy r)
      = (r.diagnostics none).countP fun d => !policy.contains d.2.kind := by
  have htotal := total_ofReport policy r (·.warnings.length) (n := 0)
    (fun s => by rw [ofScan_eq, List.length_map]) fun e => rfl
  rwa [Nat.mul_zero, Nat.add_zero] at htotal

/-- There is something that fails the run. -/
def Fails : Prop :=
  r.errors ≠ [] ∨ ∃ d ∈ r.diagnostics none, d.2.kind ∈ policy

theorem errorCount_eq_zero_iff :
    errorCount (ofReport policy r) = 0 ↔ ¬ Fails policy r := by
  rw [errorCount_ofReport, Nat.add_eq_zero_iff, List.countP_eq_zero,
    List.length_eq_zero_iff, Fails, not_or, not_not, not_exists, and_comm]
  refine and_congr_right fun _ => forall_congr' fun d => ?_
  rw [not_and, List.contains_iff_mem]

theorem exitCode_eq_one_iff :
    exitCode (ofReport policy r) = 1 ↔ Fails policy r := by
  have hcount := errorCount_eq_zero_iff policy r
  unfold exitCode
  by_cases hfails : Fails policy r
  · rw [if_neg fun h => hcount.1 h hfails]
    exact iff_of_true rfl hfails
  · rw [if_pos (hcount.2 hfails)]
    exact iff_of_false Nat.zero_ne_one hfails

theorem exitCode_eq_zero_iff :
    exitCode (ofReport policy r) = 0 ↔ ¬ Fails policy r := by
  rw [← errorCount_eq_zero_iff]
  unfold exitCode
  split <;> simp_all

/-- More kinds in the policy fail all that failed before. -/
theorem Fails.mono {policy larger : Policy} {r : Report}
    (h : policy ⊆ larger) : Fails policy r → Fails larger r := by
  rintro (herror | ⟨d, hd, hkind⟩)
  · exact .inl herror
  · exact .inr ⟨d, hd, h hkind⟩

end Totals

-- ============================================================= as JSON

/-- What is told of a diagnostic. -/
def told (d : Diagnostic) : Json :=
  .object
    [ ("line", .lineNumber d.line), ("code", .str d.kind.code),
      ("message", .str (d.kind.name ++ ": " ++ d.message)) ]

/-- The names of the kinds in a policy: in order, each once. -/
structure AreNames (policy : Policy) (names : List Text) : Prop where
  ascending : names.Pairwise fun a b => Text.le a b = true ∧ a ≠ b
  mem_iff : ∀ name, name ∈ names ↔ ∃ kind ∈ policy, kind.name = name

theorem totalPreorder_le : StableSort.TotalPreorder Text.le :=
  ⟨fun _ _ _ => Text.le_trans, fun t u => by
    rw [Bool.or_eq_true]
    exact Text.le_total t u⟩

theorem areNames_policyNames (policy : Policy) :
    AreNames policy (policyNames policy) := by
  refine ⟨totalPreorder_le.pairwise_mergeSort _, fun name => ?_⟩
  unfold policyNames
  rw [List.mem_mergeSort, List.mem_eraseDups, List.mem_map]

section Account

variable (policy : Policy) (o : ScanOptions) (w : Workspace)

/-- Does the input pass? It is scanned, and none of its diagnostics is of a
kind of the policy. -/
def passes (s : Source) : Bool :=
  match o.result w s with
  | .ok scan => scan.diagnostics.all fun d => !policy.contains d.kind
  | .error _ => false

/-- What is told of an input: the diagnostics of its scan, those of the policy
as errors and all others as warnings, or the one error that it could not be
scanned. -/
def toldOf (s : Source) : Json :=
  match o.result w s with
  | .ok scan =>
    .object
      [ ("file", .str s.file), ("annotations", .nat scan.annotations.length),
        ("errors", .array ((scan.diagnostics.filter fun d =>
          policy.contains d.kind).map told)),
        ("warnings", .array ((scan.diagnostics.filter fun d =>
          !policy.contains d.kind).map told)),
        ("passed", .bool (passes policy o w s)) ]
  | .error e =>
    .object
      [ ("file", .str s.file), ("annotations", .nat 0),
        ("errors", .array
          [.object
            [ ("line", .nat 0), ("code", .str "BT000"),
              ("message", .str ("Cannot scan file: " ++ e.message)) ]]),
        ("warnings", .array []), ("passed", .bool false) ]

/-- What a check says, input by input, and under which names of kinds. Of the
diagnostics of all scans each is an error or a warning, and there is one more
error for each input that could not be scanned. The inputs in which anything
was found are listed with what is told of them. -/
def account (names : List Text) (sources : List Source) : Json :=
  let r := o.scanAll w sources
  let failing := (r.diagnostics none).countP fun d => policy.contains d.2.kind
  let other := (r.diagnostics none).countP fun d => !policy.contains d.2.kind
  let found := (inOrder o w sources).filter (hasFindings o w)
  .object
    [ ("total", .nat sources.length),
      ("passed", .nat (sources.countP (passes policy o w))),
      ("errors", .nat (failing + r.errors.length)), ("warnings", .nat other),
      ("fail_on", .array (names.map .str)),
      ("files", .array (found.map (toldOf policy o w))) ]

/-- An entry without errors is that of an input that passes. -/
theorem passed_entry (s : Source) :
    (entry policy o w s).passed = passes policy o w s := by
  unfold FileLint.passed entry passes
  cases o.result w s with
  | error e => rfl
  | ok scan =>
      dsimp only
      rw [List.isEmpty_map, Bool.eq_iff_iff, List.isEmpty_iff,
        List.filter_eq_nil_iff, List.all_eq_true]
      exact forall₂_congr fun d _ => by rw [Bool.not_eq_true']; simp

theorem toJson_entry (s : Source) :
    (entry policy o w s).toJson = toldOf policy o w s := by
  have hpassed := passed_entry policy o w s
  unfold FileLint.toJson
  rw [hpassed]
  unfold entry toldOf
  cases hresult : o.result w s with
  | error e =>
      rw [passes, hresult]
      rfl
  | ok scan =>
      dsimp only
      rw [List.map_map, List.map_map]
      rfl

theorem toJson_scanAll (sources : List Source) :
    toJson policy (ofReport policy (o.scanAll w sources))
      = account policy o w (policyNames policy) sources := by
  have hpassed : passedCount (ofReport policy (o.scanAll w sources))
      = sources.countP (passes policy o w) := by
    rw [passedCount, ← List.countP_eq_length_filter, ofReport_scanAll,
      List.countP_map, ← (inOrder_perm o w sources).countP_eq]
    exact List.countP_congr fun s _ => by
      rw [Function.comp_apply, passed_entry]
  have hlength : (ofReport policy (o.scanAll w sources)).length
      = sources.length := by
    rw [ofReport_scanAll, List.length_map]
    exact (inOrder_perm o w sources).length_eq
  have hfiles : ((ofReport policy (o.scanAll w sources)).filter fun l =>
        !l.passed || !l.warnings.isEmpty).map (·.toJson)
      = ((inOrder o w sources).filter (hasFindings o w)).map
        (toldOf policy o w) := by
    rw [ofReport_scanAll, List.filter_map, List.map_map]
    refine (List.map_congr_left fun s _ => toJson_entry policy o w s).trans ?_
    exact congrArg _ (List.filter_congr fun s _ => entry_nonempty policy o w s)
  unfold toJson account
  rw [hpassed, hlength, hfiles, errorCount_ofReport, warningCount_ofReport]

end Account

section Encodable

variable {o : ScanOptions} {w : Workspace}

/-- What is told of a diagnostic has an encoding. -/
theorem isEncodable_told {scan : Scan} (h : scan.IsOfEncodable)
    {d : Diagnostic} (hd : d ∈ scan.diagnostics) :
    (told d).isEncodable = true := by
  obtain ⟨style, report, t, ht, rfl⟩ := h
  have hmessage := Scan.isEncodable_message ht hd
  have hcode : d.kind.code.isEncodable = true := by
    cases d.kind <;> simp [Diagnostic.Kind.code]
  simp [told, hmessage, hcode]

/-- Of what is told of an input only the name of the file may lack an
encoding. -/
theorem isEncodable_toldOf (policy : Policy) {s : Source}
    (hbody : s.body.isEncodable = true) (hfile : s.file.isEncodable = true) :
    (toldOf policy o w s).isEncodable = true := by
  have hclean := ScanOptions.isClean_result (o := o) (w := w) hbody
  unfold toldOf
  cases hresult : o.result w s with
  | ok scan =>
      rw [hresult] at hclean
      have htold : ∀ d ∈ scan.diagnostics, (told d).isEncodable = true :=
        fun d hd => isEncodable_told hclean hd
      simp +contextual [hfile, htold]
  | error e =>
      rw [hresult] at hclean
      have hmessage : e.message.isEncodable = true := hclean
      simp [hfile, hmessage]

theorem isEncodable_account (policy : Policy) {sources : List Source}
    (hbodies : ∀ s ∈ sources, s.body.isEncodable = true)
    (hfiles : ∀ s ∈ sources, s.file.isEncodable = true) :
    (account policy o w (policyNames policy) sources).isEncodable
      = true := by
  have htold : ∀ s ∈ inOrder o w sources,
      (toldOf policy o w s).isEncodable = true := by
    intro s hs
    have hmem := (inOrder_perm o w sources).mem_iff.1 hs
    exact isEncodable_toldOf policy (hbodies s hmem) (hfiles s hmem)
  have hnames : ∀ name ∈ policyNames policy, name.isEncodable = true := by
    intro name hname
    have hnamed := (areNames_policyNames policy).mem_iff name
    obtain ⟨kind, -, rfl⟩ := hnamed.1 hname
    exact kind.isEncodable_name
  simp +contextual [account, hnames, htold]

end Encodable

-- =========================================================== the command

theorem isPlain_code (kind : Diagnostic.Kind) :
    Console.isPlain kind.code = true := by
  cases kind <;> decide

/-- The codes in a report. -/
theorem isPlain_of_mem_ofReport {policy : Policy} {r : Report} {l : FileLint}
    (hl : l ∈ ofReport policy r) {f : Finding}
    (hf : f ∈ l.errors ∨ f ∈ l.warnings) :
    Console.isPlain f.code = true := by
  rcases List.mem_append.1 hl with hl | hl
  · obtain ⟨s, -, rfl⟩ := List.mem_map.1 hl
    rw [ofScan_eq] at hf
    rcases hf with hf | hf
    · obtain ⟨d, -, rfl⟩ := List.mem_map.1 hf
      exact isPlain_code d.kind
    · obtain ⟨d, -, rfl⟩ := List.mem_map.1 hf
      exact isPlain_code d.kind
  · obtain ⟨e, -, rfl⟩ := List.mem_map.1 hl
    rcases hf with hf | hf
    · have hcode : Console.isPlain unscannedCode = true := by decide
      rwa [List.mem_singleton.1 hf]
    · cases hf

/-- A check ends with its exit code, whichever way it prints. Only lines hang
on the console. -/
theorem exists_lint {h : CommandLine.Host} {w : Workspace}
    {args : CommandLine.LintArgs} {s : Settings} {policy : Policy}
    {sources : List Source}
    (hsettings : CommandLine.settings h w args.json = .ok s)
    (hpolicy : CommandLine.policy h.errors s args.json args.failOn
      = .ok policy)
    (hinputs : CommandLine.inputs w s args.language args.paths = .ok sources)
    (hconsole : args.json = true ∨ h.output.IsLawful) :
    let files := ofReport policy
      (CommandLine.scan w s args.reportUnrecognized sources)
    ∃ out, CommandLine.lint h w args = .ok ⟨exitCode files, out, []⟩
      ∧ (args.json = true →
        out = CommandLine.printJson (toJson policy files)) := by
  intro files
  have hrun : CommandLine.lint h w args
      = if args.json = true then
          .ok ⟨exitCode files, CommandLine.printJson (toJson policy files), []⟩
        else do
          let lines ← files.mapM (CommandLine.lintLines h.output args.quiet)
          let table : Text := if args.summary then .scalar '\n'
            :: h.output.table (CommandLine.summaryGrid (CommandLine.scan w s
              args.reportUnrecognized sources)) else []
          return ⟨exitCode files, lines.flatten
            ++ h.output.printed (CommandLine.lintSummary files) ++ table,
            []⟩ := by
    unfold CommandLine.lint
    rw [hsettings]
    show (CommandLine.policy h.errors s args.json args.failOn >>= _) = _
    rw [hpolicy]
    show (CommandLine.inputs w s args.language args.paths >>= _) = _
    rw [hinputs]
    rfl
  rw [hrun]
  by_cases hjson : args.json = true
  · rw [if_pos hjson]
    exact ⟨_, rfl, fun _ => rfl⟩
  · obtain ⟨lines, hlines⟩ : ∃ lines,
        files.mapM (CommandLine.lintLines h.output args.quiet) = .ok lines :=
      Traverse.exists_mapM fun l hl => CommandLine.exists_lintLines
        (hconsole.resolve_left hjson)
        (fun f hf => isPlain_of_mem_ofReport hl (.inl hf))
        (fun f hf => isPlain_of_mem_ofReport hl (.inr hf)) args.quiet
    rw [if_neg hjson, hlines]
    exact ⟨_, rfl, fun h => absurd h hjson⟩

/-- A check fails exactly when it should. Whatever inputs are scanned and
whatever the policy is, the exit code is 1 when an input could not be scanned
or a diagnostic is of a kind of the policy, and 0 otherwise; as JSON the check
accounts for every diagnostic and every input once; and a larger policy lets
nothing pass that failed. The command on the inputs that it finds never breaks
off while it says what it found, on a lawful console or as JSON: it ends with
this code, if only what it prints has an encoding. With JSON asked for it
prints that account, which has an encoding as soon as the names of the files
have one. -/
theorem check_gated :
    (∀ (policy : Policy) (o : ScanOptions) (w : Workspace)
        (sources : List Source),
      let r := o.scanAll w sources
      (exitCode (ofReport policy r) = 1 ↔ Fails policy r)
        ∧ (exitCode (ofReport policy r) = 0 ↔ ¬ Fails policy r)
        ∧ (∃ names, AreNames policy names
          ∧ toJson policy (ofReport policy r)
            = account policy o w names sources)
        ∧ ∀ larger, policy ⊆ larger → exitCode (ofReport policy r) = 1 →
          exitCode (ofReport larger r) = 1)
      ∧ ∀ (h : CommandLine.Host) (w : Workspace) (args : CommandLine.LintArgs)
        (s : Settings) (policy : Policy) (sources : List Source),
        CommandLine.settings h w args.json = .ok s →
        CommandLine.policy h.errors s args.json args.failOn = .ok policy →
        CommandLine.inputs w s args.language args.paths = .ok sources →
        args.json = true ∨ h.output.IsLawful →
        let files := ofReport policy
          (CommandLine.scan w s args.reportUnrecognized sources)
        ∃ out, CommandLine.lint h w args = .ok ⟨exitCode files, out, []⟩
          ∧ (args.json = true →
            out = CommandLine.printJson (toJson policy files)
              ∧ ((∀ source ∈ sources, source.file.isEncodable = true) →
                out.isEncodable = true))
          ∧ (out.isEncodable = true →
            CommandLine.finish ((CommandLine.lint h w args).map (·, w)) w
              = .printed ⟨exitCode files, out, []⟩ w) := by
  refine ⟨fun policy o w sources => ?_,
    fun h w args s policy sources hsettings hpolicy hinputs hconsole => ?_⟩
  · refine ⟨exitCode_eq_one_iff .., exitCode_eq_zero_iff ..,
      ⟨_, areNames_policyNames policy, toJson_scanAll ..⟩,
      fun larger hlarger hone => ?_⟩
    rw [exitCode_eq_one_iff] at hone ⊢
    exact hone.mono hlarger
  · obtain ⟨out, hlint, hjson⟩ :=
      exists_lint hsettings hpolicy hinputs hconsole
    refine ⟨out, hlint, fun h => ⟨hjson h, fun hfiles => ?_⟩,
      fun hencodable => ?_⟩
    · have hbodies := CommandLine.isEncodable_body_of_inputs hinputs
      rw [hjson h, CommandLine.isEncodable_printJson]
      exact (congrArg Json.isEncodable (toJson_scanAll ..)).trans
        (isEncodable_account policy hbodies hfiles)
    · rw [hlint, Except.map, CommandLine.finish, hencodable]
      rfl

/-- An unclosed block and an empty tag in a file whose name looks like markup:
the one kind fails the run, and a run that fails for other kinds only passes
and prints its lines. -/
theorem check_gated_unclosed :
    let t := Text.ofString "# @!begin k tags=[,]\n"
    let file := Text.ofString "a[b].py"
    let w : Workspace :=
      ⟨.folder [(file, .file ((Utf8.encode t).getD []))], []⟩
    let failing : CommandLine.LintArgs :=
      ⟨[.ofText file], ["unclosed-block"], none, false, true, false, none,
        none⟩
    let passing : CommandLine.LintArgs :=
      ⟨[.ofText file], ["DanglingAnnotation"], none, false, false, false, none,
        none⟩
    let host : CommandLine.Host :=
      ⟨Display.console 80, Display.console 80, ⟨970, 975⟩, .none⟩
    (∃ out, CommandLine.lint host w failing = .ok ⟨1, out, []⟩)
      ∧ ∃ out, CommandLine.lint host w passing = .ok ⟨0, out, []⟩ := by
  intro t file w failing passing host
  let sources : List Source := [⟨file, some "python", .path (.ofText file)⟩]
  let scan := Scan.ofText (Catalog.styleFor (some "python") []) false t
  obtain ⟨hreport, hrun⟩ := check_gated
  have hfiles : Discovery.files w .default [.ofText file]
      = .ok [.ofText file] := by
    show Except.ok (List.mergeSort [Path.ofText file] Path.le) = _
    rw [List.mergeSort_singleton]
  have hinputs : CommandLine.inputs w .default none [.ofText file]
      = .ok sources := by
    unfold CommandLine.inputs
    rw [hfiles]
    rfl
  have hscan : CommandLine.scan w .default none sources
      = ⟨[⟨file, scan⟩], []⟩ := rfl
  have hkinds : (((CommandLine.scan w .default none sources).diagnostics
      none).map (·.2.kind)).Perm
        [.malformedTagToken, .malformedTagToken, .unclosedBlock] := by
    have hfound := (Scan.diagnostics_ofLines_perm false
      ((Catalog.styleFor (some "python") []).lines t)).map (·.kind)
    rw [hscan]
    simp only [Report.diagnostics, Report.ask, List.flatMap_singleton,
      List.map_map, List.filter_true]
    refine hfound.trans (.of_eq ?_)
    decide +kernel
  obtain ⟨hfails, -⟩ := hreport [.unclosedBlock] ⟨false, [], []⟩ w sources
  obtain ⟨-, hpasses, -⟩ := hreport [.dangling] ⟨false, [], []⟩ w sources
  have hone := hfails.2 <| .inr <| by
    have hmem := hkinds.mem_iff (a := .unclosedBlock)
    obtain ⟨d, hd, hkind⟩ := List.mem_map.1 (hmem.2 (by decide))
    exact ⟨d, hd, List.mem_singleton.2 hkind⟩
  have hzero := hpasses.2 <| by
    rintro (herror | ⟨d, hd, hkind⟩)
    · exact herror rfl
    · have hmem := hkinds.mem_iff.1 (List.mem_map_of_mem hd)
      rw [List.mem_singleton.1 hkind] at hmem
      exact absurd hmem (by decide)
  obtain ⟨out, hout, -⟩ :=
    hrun host w failing .default [.unclosedBlock] sources rfl rfl hinputs
      (.inl rfl)
  obtain ⟨out', hout', -⟩ :=
    hrun host w passing .default [.dangling] sources rfl rfl hinputs
      (.inr (Display.isLawful_console 80))
  refine ⟨⟨out, hout.trans ?_⟩, out', hout'.trans ?_⟩
  · exact congrArg (fun code => Except.ok (CommandLine.Printed.mk code out []))
      hone
  · exact congrArg (fun code => Except.ok (CommandLine.Printed.mk code out' []))
      hzero

end Lint

end Marginalia
