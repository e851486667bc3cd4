/-
What a batch reports, written as JSON. The report is printed, and written to
a file, with all characters as they are, so a single surrogate in it leaves
the whole of it without an encoding. In texts without surrogates only one
thing brings one about: a string of an annotation whose escapes name half of
a surrogate pair alone. Values, properties and tags may be such strings,
since whatever is decoded of a marker is handed on as it is.

So the report of a batch has an encoding exactly when the names of its files
and all strings of the annotations in it have one
(`encode_printJson_iff`), and one annotation is enough to spoil the
report of all files.
-/
import Marginalia.CommandLine.Common
import Marginalia.Proofs.Batch.Schedules
import Marginalia.Proofs.Marker.Halves
import Marginalia.Proofs.Scan.Bytes
import Marginalia.Proofs.Scan.Messages
import Marginalia.Proofs.Scan.Properties

namespace Marginalia

-- ========================================================= annotations

/-- The strings that are decoded of an annotation: those of its value, of its
properties, which are names and texts at every depth, and its tags. -/
def Annotation.texts (a : Annotation) : List Text :=
  Json.texts (.scalar a.marker.payload.value)
    ++ Json.texts (.object a.marker.payload.properties) ++ a.tags

theorem Annotation.all_texts (a : Annotation) :
    a.texts.all Text.isEncodable
      = (a.marker.payload.value.isEncodable
        && (Json.object a.marker.payload.properties).isEncodable
        && a.tags.all Text.isEncodable) := by
  unfold texts
  rw [List.all_append, List.all_append]
  congr 2
  exact Json.isEncodable_scalar _

namespace Scan

/-- An annotation is decoded of the pieces of one line, and these are parts
of the text. -/
theorem exists_pieces_of_mem {s : Comment.Style} {report : Bool} {t : Text}
    (ht : t.isEncodable = true) {a : Annotation}
    (ha : a ∈ (ofText s report t).annotations) :
    ∃ l ∈ s.lines t, ∃ p, l.pieces? = some p ∧ a.marker = markerAt l p
      ∧ (∀ raw ∈ p.value, raw.isEncodable = true)
      ∧ Marker.EncodablePieces p := by
  have ha' := (annotations_ofLines_perm report (s.lines t)).mem_iff.1 ha
  obtain ⟨l, hl, p, hp, -, hm⟩ := marker_of_mem ha'
  refine ⟨l, hl, p, hp, hm, fun raw hraw => ?_,
    encodable_of_mem_lines ht hl hp⟩
  obtain ⟨content, hc, hpieces⟩ := Option.bind_eq_some_iff.1 hp
  obtain ⟨block, hcontent, -⟩ := Comment.Style.exists_readLine_of_mem hl
  rw [hcontent] at hc
  apply Text.isEncodable_of_subset _ (encodable_raw ht l hl)
  exact List.Subset.trans (Marker.value_subset hpieces raw hraw)
    (Comment.Style.content_subset hc)

/-- The scan is that of a text that has an encoding. -/
def IsOfEncodable (scan : Scan) : Prop :=
  ∃ style report t, Text.isEncodable t = true ∧ scan = ofText style report t

end Scan

-- ============================================================= as JSON

section AsJson

open Json (isEncodable_array isEncodable_object isEncodable_str)

@[simp] theorem Json.isEncodable_lineNumber (n : LineNumber) :
    (Json.lineNumber n).isEncodable = true := isEncodable_scalar _

@[simp] theorem Json.isEncodable_bool (b : Bool) :
    (Json.bool b).isEncodable = true := isEncodable_scalar _

@[simp] theorem Json.isEncodable_nat (n : Nat) :
    (Json.nat n).isEncodable = true := isEncodable_scalar _

@[simp] theorem Json.isEncodable_location (file : Text)
    (first last : LineNumber) :
    (Json.location file first last).isEncodable = file.isEncodable := by
  simp [location]

@[simp] theorem Json.isEncodable_comp_str :
    Json.isEncodable ∘ Json.str = Text.isEncodable := funext isEncodable_str

theorem Scope.isEncodable_toJson (s : Scope) :
    s.toJson.isEncodable = s.text.isEncodable := by
  have hkind : s.kindName.isEncodable = true := by
    cases s <;> simp [kindName]
  simp [toJson, hkind]

theorem ScanError.isEncodable_message_unreadable (fault : PathFault) :
    (ScanError.unreadable fault.reason).message.isEncodable = true := by
  cases fault <;> simp [message, PathFault.reason]

@[simp] theorem Diagnostic.Kind.isEncodable_name (kind : Kind) :
    kind.name.isEncodable = true := by
  cases kind <;> simp [name]

variable {scan : Scan} (h : scan.IsOfEncodable)

include h

theorem Annotation.isEncodable_toJson {a : Annotation}
    (ha : a ∈ scan.annotations) (file : Text) :
    (a.toJson file).isEncodable
      = (file.isEncodable && a.texts.all Text.isEncodable) := by
  obtain ⟨style, report, t, ht, rfl⟩ := h
  obtain ⟨hkey, htext⟩ := Scan.isEncodable_key_text ht ha
  have hform : a.formName.isEncodable = true := by
    unfold formName
    split <;> simp
  rw [a.all_texts]
  generalize hprops : Json.object a.marker.payload.properties = properties
  simp [toJson, Scope.isEncodable_toJson, hprops, hkey, htext, hform]
  ac_rfl

theorem Diagnostic.isEncodable_toJson {d : Diagnostic}
    (hd : d ∈ scan.diagnostics) (file : Text) :
    (d.toJson file).isEncodable = file.isEncodable := by
  obtain ⟨style, report, t, ht, rfl⟩ := h
  have hmessage := Scan.isEncodable_message ht hd
  simp [toJson, hmessage]

/-- A scan is written with the name of its file, and the strings of the
annotations that are wanted. -/
theorem FileScan.isEncodable_toJson {file : Text} (f : Filter) :
    (FileScan.toJson f ⟨file, scan⟩).isEncodable = true
      ↔ file.isEncodable = true
        ∧ ∀ a ∈ scan.select f, ∀ u ∈ a.texts, u.isEncodable = true := by
  have hannotations : ∀ a ∈ scan.select f, (a.toJson file).isEncodable
      = (file.isEncodable && a.texts.all Text.isEncodable) := fun a ha =>
    Annotation.isEncodable_toJson h (List.mem_filter.1 ha).1 file
  have hdiagnostics : ∀ d ∈ scan.diagnostics,
      (d.toJson file).isEncodable = file.isEncodable := fun d hd =>
    Diagnostic.isEncodable_toJson h hd file
  simp only [toJson, isEncodable_object, isEncodable_array, isEncodable_str,
    Text.isEncodable_ofString, List.all_cons, List.all_nil, List.all_map,
    Bool.true_and, Bool.and_true, Bool.and_eq_true, List.all_eq_true,
    Function.comp_apply]
  constructor
  · rintro ⟨hfile, hselected, -⟩
    refine ⟨hfile, fun a ha => ?_⟩
    have hwritten := hselected a ha
    rw [hannotations a ha, hfile, Bool.true_and] at hwritten
    exact List.all_eq_true.1 hwritten
  · rintro ⟨hfile, hselected⟩
    refine ⟨hfile, fun a ha => ?_, fun d hd => ?_⟩
    · rw [hannotations a ha, hfile, Bool.true_and]
      exact List.all_eq_true.2 (hselected a ha)
    · rw [hdiagnostics d hd]
      exact hfile

end AsJson

-- ============================================================== batches

namespace Report

theorem mem_scans_ofOutcomes {outcomes : List (Except FileError FileScan)}
    {scan : FileScan} :
    scan ∈ (ofOutcomes outcomes).scans ↔ .ok scan ∈ outcomes := by
  induction outcomes with
  | nil => exact ⟨nofun, nofun⟩
  | cons outcome rest ih => cases outcome <;> simp [ofOutcomes, ih]

theorem mem_errors_ofOutcomes {outcomes : List (Except FileError FileScan)}
    {e : FileError} :
    e ∈ (ofOutcomes outcomes).errors ↔ .error e ∈ outcomes := by
  induction outcomes with
  | nil => exact ⟨nofun, nofun⟩
  | cons outcome rest ih => cases outcome <;> simp [ofOutcomes, ih]

/-- A report is written with its scans and its errors. -/
theorem isEncodable_toJson (f : Filter) (r : Report) :
    (r.toJson f).isEncodable = true
      ↔ (∀ s ∈ r.scans, (s.toJson f).isEncodable = true)
        ∧ ∀ e ∈ r.errors, e.file.isEncodable = true
          ∧ e.error.message.isEncodable = true := by
  simp [toJson, FileError.toJson]

end Report

/-- Has the input an encoding? Bytes are never read as a text that has
none. -/
def Body.isEncodable : Body → Bool
  | .text t => t.isEncodable
  | .bytes _ | .path _ => true

namespace ScanOptions

variable (o : ScanOptions) (w : Workspace)

/-- What an input is scanned to, whatever its name is. -/
def result (s : Source) : Except ScanError Scan :=
  match s.body with
  | .text t => .ok (o.scanText s.language t)
  | .bytes content => o.scanBytes s.language content
  | .path p => o.scanPath w s.language p

theorem outcome_scanSource (s : Source) :
    Batch.outcome (o.scanSource w) s
      = match o.result w s with
        | .ok scan => .ok ⟨s.file, scan⟩
        | .error e => .error ⟨s.file, e⟩ := by
  have hscan : o.scanSource w s
      = match o.result w s with
        | .ok scan => .ok ⟨s.file, scan⟩
        | .error e => .error (.reported ⟨s.file, e⟩) := rfl
  unfold Batch.outcome
  rw [hscan]
  cases o.result w s <;> rfl

variable {o w}

section Members

variable {sources : List Source}

theorem mem_scans_scanAll {scan : FileScan} :
    scan ∈ (o.scanAll w sources).scans
      ↔ ∃ s ∈ sources, ∃ x, o.result w s = .ok x ∧ scan = ⟨s.file, x⟩ := by
  unfold scanAll Batch.serial
  rw [Report.mem_scans_ofOutcomes, List.mem_map]
  refine exists_congr fun s => and_congr_right fun _ => ?_
  rw [outcome_scanSource]
  cases o.result w s <;> simp [eq_comm]

theorem mem_errors_scanAll {e : FileError} :
    e ∈ (o.scanAll w sources).errors
      ↔ ∃ s ∈ sources, ∃ x, o.result w s = .error x ∧ e = ⟨s.file, x⟩ := by
  unfold scanAll Batch.serial
  rw [Report.mem_errors_ofOutcomes, List.mem_map]
  refine exists_congr fun s => and_congr_right fun _ => ?_
  rw [outcome_scanSource]
  cases o.result w s <;> simp [eq_comm]

end Members

/-- The scan is that of a text that has an encoding, or it failed for a
reason that has one in words. -/
def IsClean : Except ScanError Scan → Prop
  | .ok scan => scan.IsOfEncodable
  | .error e => e.message.isEncodable = true

theorem isClean_scanText {t : Text} (ht : t.isEncodable = true)
    (language : Option Text) : IsClean (.ok (o.scanText language t)) :=
  ⟨_, _, t, ht, rfl⟩

/-- Bytes are refused unless they are a text, which has an encoding then. -/
theorem isClean_scanBytes (language : Option Text) (content : Utf8.Bytes) :
    IsClean (o.scanBytes language content) := by
  unfold scanBytes
  cases hdecode : Scan.decode content with
  | ok t =>
      obtain ⟨-, hencode⟩ := Scan.decode_eq_ok_iff.1 hdecode
      exact isClean_scanText (Utf8.isEncodable_of_encode hencode) language
  | error e =>
      have hrefused := Scan.refused_of_decode (d := content) fun t ht => by
        rw [hdecode] at ht
        cases ht
      rw [hdecode] at hrefused
      show e.message.isEncodable = true
      rcases hrefused with h | ⟨⟨flaw, offset⟩, h⟩
      · cases h
        simp [ScanError.message]
      · cases h
        cases flaw <;> simp [ScanError.message, Utf8.Flaw.reason]

theorem isClean_scanPath (language : Option Text) (p : Path) :
    IsClean (o.scanPath w language p) := by
  unfold scanPath
  split
  · exact ScanError.isEncodable_message_unreadable _
  · exact isClean_scanBytes ..

theorem isClean_result {s : Source} (hs : s.body.isEncodable = true) :
    IsClean (o.result w s) := by
  unfold result
  cases hbody : s.body with
  | text t =>
      rw [hbody] at hs
      exact isClean_scanText hs s.language
  | bytes content => exact isClean_scanBytes ..
  | path p => exact isClean_scanPath ..

/-- The report of a batch has an encoding exactly when the names of its files
and the strings of the annotations in it have one. -/
theorem isEncodable_toJson_scanAll {sources : List Source}
    (hsources : ∀ s ∈ sources, s.body.isEncodable = true) (f : Filter) :
    ((o.scanAll w sources).toJson f).isEncodable = true
      ↔ (∀ s ∈ sources, s.file.isEncodable = true)
        ∧ ∀ x ∈ (o.scanAll w sources).ask (·.select f), ∀ u ∈ x.2.texts,
          u.isEncodable = true := by
  have hok : ∀ s ∈ sources, ∀ scan, o.result w s = .ok scan →
      scan.IsOfEncodable := by
    intro s hs scan hscan
    have hclean := isClean_result (o := o) (w := w) (hsources s hs)
    rwa [hscan] at hclean
  rw [Report.isEncodable_toJson]
  constructor
  · rintro ⟨hscans, herrors⟩
    refine ⟨fun s hs => ?_, fun x hx => ?_⟩
    · cases hresult : o.result w s with
      | ok scan =>
          have hmem := mem_scans_scanAll.2 ⟨s, hs, scan, hresult, rfl⟩
          have hclean := hok s hs scan hresult
          exact ((FileScan.isEncodable_toJson hclean f).1 (hscans _ hmem)).1
      | error e =>
          exact (herrors _ (mem_errors_scanAll.2 ⟨s, hs, e, hresult, rfl⟩)).1
    · obtain ⟨scan, hscan, hx⟩ := List.mem_flatMap.1 hx
      obtain ⟨a, ha, rfl⟩ := List.mem_map.1 hx
      obtain ⟨s, hs, scan, hresult, rfl⟩ := mem_scans_scanAll.1 hscan
      have hclean := hok s hs scan hresult
      exact ((FileScan.isEncodable_toJson hclean f).1 (hscans _ hscan)).2 a ha
  · rintro ⟨hfiles, hstrings⟩
    refine ⟨fun scan hscan => ?_, fun e he => ?_⟩
    · obtain ⟨s, hs, scan, hresult, rfl⟩ := mem_scans_scanAll.1 hscan
      have hclean := hok s hs scan hresult
      refine (FileScan.isEncodable_toJson hclean f).2
        ⟨hfiles s hs, fun a ha => ?_⟩
      exact hstrings ⟨s.file, a⟩
        (List.mem_flatMap.2 ⟨_, hscan, List.mem_map_of_mem ha⟩)
    · obtain ⟨s, hs, e, hresult, rfl⟩ := mem_errors_scanAll.1 he
      have hclean := isClean_result (o := o) (w := w) (hsources s hs)
      rw [hresult] at hclean
      exact ⟨hfiles s hs, hclean⟩

end ScanOptions

namespace CommandLine

/-- The inputs of a command are files. -/
theorem isEncodable_body_of_inputs {w : Workspace} {settings : Settings}
    {language : Option Text} {paths : List Path} {sources : List Source}
    (h : inputs w settings language paths = .ok sources) :
    ∀ s ∈ sources, s.body.isEncodable = true := by
  unfold inputs at h
  split at h
  · cases h
  · cases h
    intro s hs
    obtain ⟨p, -, rfl⟩ := List.mem_map.1 hs
    rfl

theorem isEncodable_printJson (v : Json) :
    (printJson v).isEncodable = v.isEncodable := by
  simp [printJson, Json.isEncodable_write, Json.pretty]

/-- The report of a batch is printed exactly when the names of its files and
the strings of the annotations in it have an encoding. -/
theorem encode_printJson_iff (o : ScanOptions) (w : Workspace)
    {sources : List Source}
    (hsources : ∀ s ∈ sources, s.body.isEncodable = true) (f : Filter) :
    (∃ d, Utf8.encode (printJson ((o.scanAll w sources).toJson f)) = some d)
      ↔ (∀ s ∈ sources, s.file.isEncodable = true)
        ∧ ∀ x ∈ (o.scanAll w sources).ask (·.select f), ∀ u ∈ x.2.texts,
          u.isEncodable = true := by
  rw [Utf8.exists_encode_iff, isEncodable_printJson]
  exact ScanOptions.isEncodable_toJson_scanAll hsources f

/-- What keeps a report from being printed. An annotation of a text without
surrogates is decoded of the pieces of one line. Its value has a surrogate
exactly when the text of the value is accepted and its escapes name half of
a surrogate pair alone. One of its tags has one when this is so with a piece
of its tag lists; and when it is so neither with such a piece nor with the
block, there is none in its properties, at any depth, and none in its tags.
A report is printed, whatever files it is of, unless the name of a file, or
a string of an annotation that is asked for, has a surrogate in it. -/
theorem report_printed (s : Comment.Style) (report : Bool) {t : Text}
    (ht : t.isEncodable = true) :
    (∀ a ∈ (Scan.ofText s report t).annotations, ∃ l ∈ s.lines t, ∃ p,
        l.pieces? = some p ∧ a.marker = Scan.markerAt l p
          ∧ (a.marker.payload.value.isEncodable = false ↔ p.HalfInValue)
          ∧ (p.HalfInTags → ∃ tag ∈ a.tags, tag.isEncodable = false)
          ∧ (¬ p.HalfInBlock → ¬ p.HalfInTags →
            (∀ u ∈ Json.texts (.object a.marker.payload.properties),
                u.isEncodable = true)
              ∧ ∀ tag ∈ a.tags, tag.isEncodable = true))
      ∧ ∀ (o : ScanOptions) (w : Workspace) (sources : List Source),
        (∀ source ∈ sources, source.body.isEncodable = true) → ∀ f : Filter,
          (∃ d, Utf8.encode (printJson ((o.scanAll w sources).toJson f))
              = some d)
            ↔ (∀ source ∈ sources, source.file.isEncodable = true)
              ∧ ∀ x ∈ (o.scanAll w sources).ask (·.select f),
                ∀ u ∈ x.2.texts, u.isEncodable = true := by
  refine ⟨fun a ha => ?_, fun o w sources hsources f =>
    encode_printJson_iff o w hsources f⟩
  obtain ⟨l, hl, p, hp, hmarker, hvalue, hpieces⟩ :=
    Scan.exists_pieces_of_mem ht ha
  refine ⟨l, hl, p, hp, hmarker, ?_⟩
  unfold Annotation.tags
  rw [hmarker]
  refine ⟨p.isEncodable_value hvalue, p.exists_tag_of_halfInTags hpieces.2,
    fun hblock htags => ?_⟩
  obtain ⟨hproperties, htags⟩ := p.encodable_joined hpieces hblock htags
  exact ⟨List.all_eq_true.1 hproperties, htags⟩

/-- An escaped pair for a value, an escaped backslash in front of what looks
like half of a pair, in a name, and a tag with an escape. -/
theorem report_printed_pair :
    let t : Text := Text.ofString "# @!k \"\\ud83d\\ude00\" tags=[\"\\u00e9\"] "
      ++ Text.ofString "\x7b\"\\\\ud800\": 1\x7d"
    let sources : List Source := [⟨"a.py", some "python", .text t⟩]
    (∀ s ∈ sources, s.body.isEncodable = true)
      ∧ ∃ d, Utf8.encode (printJson
          ((ScanOptions.scanAll {} ⟨.folder [], []⟩ sources).toJson .all))
        = some d := by
  intro t sources
  have ht : t.isEncodable = true := by decide +kernel
  have hsources : ∀ s ∈ sources, s.body.isEncodable = true :=
    List.forall_mem_singleton.2 ht
  have hlines : (Catalog.styleFor (some "python") []).lines t
      = [⟨1, some (t.drop 2), t, false⟩] := by decide +kernel
  have hhalves : ∃ p : Marker.Pieces,
      (⟨1, some (t.drop 2), t, false⟩ : Comment.Line).pieces? = some p
        ∧ (∀ raw ∈ p.value, raw.spellsHalf = false)
        ∧ (∀ raw ∈ p.properties, raw.spellsHalf = false)
        ∧ ∀ piece ∈ p.tagPieces, piece.spellsHalf = false := by
    refine ⟨⟨.inline, "k", some "\"\\ud83d\\ude00\"",
      some (Text.ofString "\x7b\"\\\\ud800\": 1\x7d"), some "\"\\u00e9\""⟩,
      ?_, ?_, ?_, ?_⟩
    all_goals decide +kernel
  obtain ⟨hdecoded, hprinted⟩ :=
    report_printed (Catalog.styleFor (some "python") []) false ht
  refine ⟨hsources, (hprinted {} ⟨.folder [], []⟩ sources hsources .all).2
    ⟨List.forall_mem_singleton.2 rfl, fun x hx => ?_⟩⟩
  obtain ⟨scan, hscan, hx⟩ := List.mem_flatMap.1 hx
  obtain ⟨a, ha, rfl⟩ := List.mem_map.1 hx
  rw [show scan = ⟨Text.ofString "a.py", Scan.ofText
    (Catalog.styleFor (some "python") []) false t⟩ from
      List.mem_singleton.1 hscan] at ha
  obtain ⟨l, hl, p, hp, -, hvalue, -, hothers⟩ :=
    hdecoded a (List.mem_filter.1 ha).1
  obtain ⟨p', hp', hnovalue, hnoblock, hnotags⟩ := hhalves
  rw [hlines, List.mem_singleton] at hl
  rw [hl, hp'] at hp
  cases hp
  have hencodable : a.marker.payload.value.isEncodable = true := by
    apply Bool.of_not_eq_false
    intro h
    obtain ⟨-, raw, hraw, hhalf⟩ := hvalue.1 h
    rw [hnovalue raw hraw] at hhalf
    cases hhalf
  have hblock : ¬ p.HalfInBlock := by
    rintro ⟨-, raw, hraw, hhalf⟩
    rw [hnoblock raw hraw] at hhalf
    cases hhalf
  have htags : ¬ p.HalfInTags := by
    rintro ⟨piece, hpiece, -, hhalf⟩
    unfold Marker.quotesHalf at hhalf
    rw [hnotags piece hpiece, Bool.and_false] at hhalf
    cases hhalf
  obtain ⟨hproperties, htags⟩ := hothers hblock htags
  apply List.all_eq_true.1
  rw [a.all_texts, hencodable, Json.isEncodable,
    List.all_eq_true.2 hproperties, List.all_eq_true.2 htags]
  rfl

/-- An escape that names half of a pair alone, on a line of ASCII
characters, is decoded to a surrogate; then the report of this file and of
any other one beside it is not printed. -/
theorem report_spoiled :
    let t : Text := Text.ofString "# @!k \"\\ud800\"\n"
    let sources : List Source :=
      [ ⟨"a.py", some "python", .text (Text.ofString "# @!k 1\n")⟩,
        ⟨"b.py", some "python", .text t⟩ ]
    (∀ s ∈ sources, s.body.isEncodable = true)
      ∧ (∃ a ∈ (Scan.ofText (Catalog.styleFor (some "python") []) false
          t).annotations, a.marker.payload.value = .str [.surrogate 0])
      ∧ Utf8.encode (printJson
          ((ScanOptions.scanAll {} ⟨.folder [], []⟩ sources).toJson .all))
        = none := by
  intro t sources
  have hsources : ∀ s ∈ sources, s.body.isEncodable = true := by
    decide +kernel
  have hbind : (Binding.bind
      (((Catalog.styleFor (some "python") []).lines t).map Scan.eventOf)
      ((Catalog.styleFor (some "python") []).lines t).length).annotations.map
        (·.marker.payload.value) = [.str [.surrogate 0]] := by
    decide +kernel
  obtain ⟨a, rest, hcons, hvalue, -⟩ := List.map_eq_cons_iff.1 hbind
  have ha : a ∈ (Scan.ofText (Catalog.styleFor (some "python") []) false
      t).annotations := by
    refine (Scan.annotations_ofLines_perm false _).mem_iff.2 ?_
    rw [hcons]
    exact List.mem_cons_self ..
  refine ⟨hsources, ⟨a, ha, hvalue⟩, ?_⟩
  cases hencode : Utf8.encode (printJson
      ((ScanOptions.scanAll {} ⟨.folder [], []⟩ sources).toJson .all)) with
  | none => rfl
  | some d =>
      have hstrings := ((encode_printJson_iff {} ⟨.folder [], []⟩ hsources
        .all).1 ⟨d, hencode⟩).2
      have hscan : ⟨Text.ofString "b.py", Scan.ofText
            (Catalog.styleFor (some "python") []) false t⟩
          ∈ (ScanOptions.scanAll {} ⟨.folder [], []⟩ sources).scans :=
        ScanOptions.mem_scans_scanAll.2 ⟨⟨"b.py", some "python", .text t⟩,
          List.mem_cons_of_mem _ (List.mem_singleton_self _), _, rfl, rfl⟩
      have hmem : (Text.ofString "b.py", a) ∈ (ScanOptions.scanAll {}
          ⟨.folder [], []⟩ sources).ask (·.select .all) :=
        List.mem_flatMap.2 ⟨_, hscan,
          List.mem_map_of_mem (List.mem_filter.2 ⟨ha, rfl⟩)⟩
      have htexts : [.surrogate 0] ∈ a.texts := by
        unfold Annotation.texts
        rw [hvalue]
        simp [Scalar.texts]
      exact absurd (hstrings _ hmem _ htexts) (by decide)

end CommandLine

end Marginalia
