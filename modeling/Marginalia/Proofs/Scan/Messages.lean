/-
The texts that a scan of an encodable text yields besides what is decoded:
messages, keys, and the lines that annotations apply to. They all have an
encoding. A message repeats parts of a line only quoted, as JSON in ASCII, or
as a key (`isEncodable_message`); keys are ASCII, and lines are parts of the
text (`encodable_bind`).
-/
import Marginalia.Proofs.Binding.Texts
import Marginalia.Proofs.Json.Encodable
import Marginalia.Proofs.Marker.Problems
import Marginalia.Proofs.Scan.DataModel

namespace Marginalia

-- ============================================================= problems

namespace Marker

@[simp] theorem ValueProblem.isEncodable_message (problem : ValueProblem) :
    problem.message.isEncodable = true := by
  cases problem <;> simp [message, Json.ReadError.message]

@[simp] theorem TagProblem.isEncodable_message (problem : TagProblem) :
    problem.message.isEncodable = true := by
  cases problem <;> simp [message, Json.isEncodable_write, Json.compact]

theorem isEncodable_kindName (v : Json) : v.kindName.isEncodable = true := by
  cases v with
  | scalar s => cases s <;> simp [Json.kindName]
  | array _ | object _ => simp [Json.kindName]

theorem isEncodable_of_readProperties {raw : Text}
    {problem : PropertiesProblem} (h : readProperties raw = .error problem) :
    problem.message.isEncodable = true := by
  unfold readProperties at h
  split at h
  · cases h
  · cases h
    simp [PropertiesProblem.message, isEncodable_kindName]
  · next cause hread =>
    cases h
    simp [PropertiesProblem.message, Json.isEncodable_message_of_read hread]

/-- What is wrong with the pieces of a marker has an encoding in words. -/
theorem Pieces.isEncodable_message {p : Pieces} {problem : Problem}
    (h : problem ∈ p.decode.2) :
    (Diagnostic.Cause.payload problem).message.isEncodable = true := by
  cases problem with
  | value problem => exact problem.isEncodable_message
  | tag problem => exact problem.isEncodable_message
  | properties problem =>
      have hproblem : p.propertiesProblem? = some problem := by
        rw [problems_decode] at h
        simpa using h
      obtain ⟨raw, -, hraw⟩ := Option.bind_eq_some_iff.1 hproblem
      unfold problem? at hraw
      split at hraw
      · cases hraw
      · next hread =>
        cases hraw
        exact isEncodable_of_readProperties hread

/-- A key has an encoding. -/
theorem isEncodable_key {key : Text} (h : isKey key = true) :
    key.isEncodable = true := by
  refine List.all_eq_true.2 fun c hc => ?_
  have hrange := toNat_of_continuesKey (continuesKey_of_mem h c hc)
  rw [CodePoint.isSurrogate_of_lt (by omega)]
  rfl

end Marker

-- =============================================================== causes

/-- A message has an encoding when the texts that it is put together of have
one. -/
theorem Diagnostic.Cause.isEncodable_message {cause : Diagnostic.Cause}
    (h : ∀ u ∈ cause.texts, u.isEncodable = true) :
    cause.message.isEncodable = true := by
  cases cause with
  | payload problem => exact h _ (List.mem_singleton_self _)
  | noKey content => exact h _ (List.mem_singleton_self _)
  | unclosedBlock key =>
      simp [message, h key (List.mem_singleton_self _)]
  | dangling key =>
      simp [message, h key (List.mem_singleton_self _)]
  | unmatchedEnd key openKeys =>
      obtain ⟨hkey, hopen⟩ := List.forall_mem_cons.1 h
      have hkeys : (Text.joinWith ", " openKeys).isEncodable = true := by
        rw [Text.isEncodable_joinWith (Text.isEncodable_ofString ", "),
          List.all_eq_true]
        exact hopen
      cases openKeys with
      | nil => simp [message, hkey]
      | cons _ _ => simp [message, hkey, hkeys]

namespace Scan

open Comment (Line)

-- ================================================================ lines

section Lines

variable {lines : List Line} {report : Bool}

/-- What a line is fed with has an encoding when the line has one. -/
theorem encodable_eventOf {l : Line} (h : l.raw.isEncodable = true) :
    ∀ u ∈ (eventOf l).texts, u.isEncodable = true := by
  have hkey : ∀ p, l.pieces? = some p → p.key.isEncodable = true := by
    intro p hp
    obtain ⟨content, -, hpieces⟩ := Option.bind_eq_some_iff.1 hp
    exact Marker.isEncodable_key (Marker.isKey_of_pieces? hpieces)
  rw [eventOf_eq]
  cases hp : l.pieces? with
  | some p =>
      dsimp only
      have hp := hkey p hp
      cases p.kind <;> exact List.forall_mem_singleton.2 hp
  | none =>
      cases l.isMarked with
      | true => exact List.forall_mem_nil _
      | false => exact List.forall_mem_singleton.2 h

/-- The texts that encodable lines are bound with have an encoding. -/
theorem encodable_bind (h : ∀ l ∈ lines, l.raw.isEncodable = true)
    (lastLine : LineNumber) :
    ∀ u ∈ (Binding.bind (lines.map eventOf) lastLine).texts,
      u.isEncodable = true := by
  intro u hu
  obtain ⟨e, he, hu⟩ := List.mem_flatMap.1 (Binding.texts_bind _ _ hu)
  obtain ⟨l, hl, rfl⟩ := List.mem_map.1 he
  exact encodable_eventOf (h l hl) u hu

/-- What is reported of a line by itself has an encoding in words. -/
theorem isEncodable_message_of_mem_readLine {l : Line} {d : Diagnostic}
    (h : d ∈ (readLine report l).2) : d.message.isEncodable = true := by
  unfold readLine at h
  cases hc : l.content with
  | none =>
      rw [hc] at h
      cases h
  | some content =>
      rw [hc] at h
      cases hp : Marker.pieces? content with
      | some p =>
          simp only [hp] at h
          obtain ⟨problem, hproblem, rfl⟩ := List.mem_map.1 h
          exact p.isEncodable_message hproblem
      | none =>
          simp only [hp] at h
          split at h
          · cases report with
            | false => cases h
            | true =>
                rw [List.mem_singleton.1 h]
                simp [Diagnostic.message, Diagnostic.Cause.message]
          · cases h

end Lines

-- ================================================================ texts

section Text

variable {s : Comment.Style} {report : Bool} {t : Text}

theorem encodable_raw (ht : t.isEncodable = true) :
    ∀ l ∈ s.lines t, l.raw.isEncodable = true := by
  intro l hl
  obtain ⟨-, -, hraw⟩ := Comment.Style.exists_readLine_of_mem hl
  exact Text.isEncodable_of_subset (Text.subset_of_mem_lines hraw) ht

/-- The messages of a scan of an encodable text have an encoding. -/
theorem isEncodable_message (ht : t.isEncodable = true) {d : Diagnostic}
    (hd : d ∈ (ofText s report t).diagnostics) :
    d.message.isEncodable = true := by
  rcases List.mem_append.1
    ((diagnostics_ofLines_perm report (s.lines t)).mem_iff.1 hd) with hd | hd
  · obtain ⟨l, -, hd⟩ := List.mem_flatMap.1 hd
    exact isEncodable_message_of_mem_readLine hd
  · apply Diagnostic.Cause.isEncodable_message
    intro u hu
    apply encodable_bind (encodable_raw ht) _ u
    exact List.mem_append_right _ (List.mem_flatMap.2 ⟨d, hd, hu⟩)

/-- The key of an annotation and the line that it applies to have an
encoding. -/
theorem isEncodable_key_text (ht : t.isEncodable = true) {a : Annotation}
    (ha : a ∈ (ofText s report t).annotations) :
    a.key.isEncodable = true ∧ a.scope.text.isEncodable = true := by
  constructor
  · exact Marker.isEncodable_key (conforms_of_mem s report t ha).key
  · have ha' := (annotations_ofLines_perm report (s.lines t)).mem_iff.1 ha
    have hbind := encodable_bind (encodable_raw (s := s) ht)
      (s.lines t).length
    cases hscope : a.scope with
    | declaration line text =>
        apply hbind
        refine List.mem_append_left _ (List.mem_flatMap.2 ⟨a, ha', ?_⟩)
        rw [hscope]
        exact List.mem_singleton_self _
    | file _ | region _ _ | trailing _ => rfl

end Text

end Scan

end Marginalia
