/-
The properties that a scan emits are read back from their JSON form.
Whatever stands on the marker lines of a text, well formed or not, the
properties of an annotation are decoded members with distinct keys, and
their member for tags agrees with the tags of the annotation; so, unless a
float is among them, writing them as JSON, reading the text and joining the
tags again gives the same members in the same order and the same tags, with
nothing to report.
-/
import Marginalia.Report
import Marginalia.Proofs.Marker.Decoded
import Marginalia.Proofs.Scan.DataModel

namespace Marginalia.Scan

open Marker (EncodablePieces IsTag normalizeTags tagsMember)

/-- The pieces on a line of an encodable text have an encoding. -/
theorem encodable_of_mem_lines {s : Comment.Style} {t : Text}
    (ht : t.isEncodable = true) {l : Comment.Line} (hl : l ∈ s.lines t)
    {p : Marker.Pieces} (hp : l.pieces? = some p) : EncodablePieces p := by
  obtain ⟨content, hc, hpieces⟩ := Option.bind_eq_some_iff.1 hp
  obtain ⟨block, hcontent, hraw⟩ := Comment.Style.exists_readLine_of_mem hl
  rw [hcontent] at hc
  have hsub : content ⊆ t :=
    List.Subset.trans (Comment.Style.content_subset hc)
      (Text.subset_of_mem_lines hraw)
  exact Marker.encodable_pieces? hpieces (Text.isEncodable_of_subset hsub ht)

/-- The properties of an annotation hold its tags and are members that a
property block can hold. -/
theorem payload_of_mem {s : Comment.Style} {report : Bool} {t : Text}
    (ht : t.isEncodable = true) {a : Annotation}
    (ha : a ∈ (ofText s report t).annotations) :
    ∃ members listed,
      Json.Made Scalar.isDecoded Json.maxDepth (.object members)
        ∧ (∀ tag ∈ listed, IsTag tag)
        ∧ a.marker.payload.properties
          = (normalizeTags members listed).properties
        ∧ a.tags = (normalizeTags members listed).tags := by
  have ha' := (annotations_ofLines_perm report (s.lines t)).mem_iff.1 ha
  obtain ⟨l, hl, p, hp, -, hm⟩ := marker_of_mem ha'
  unfold Annotation.tags
  rw [hm]
  exact Marker.decode_spec (encodable_of_mem_lines ht hl hp)

/-- The properties of an annotation of an encodable text are read back from
their JSON form, if no float is among them, and joining their tags once more
gives the same properties and the tags of the annotation. These tags are not
blank and in order, each once, and the member for tags holds just them, or is
missing when there are none. -/
theorem properties_read_back (s : Comment.Style) (report : Bool) {t : Text}
    (ht : t.isEncodable = true) {a : Annotation}
    (ha : a ∈ (ofText s report t).annotations) {file : Text}
    {fields props : Assoc Json} (hjson : a.toJson file = .object fields)
    (hprops : fields.get? "properties" = some (.object props))
    (hfloat : Json.hasFloat (.object props) = false) :
    Marker.decodePiece [] Marker.readProperties
        (some (Json.write Json.compact (.object props))) = (props, [])
      ∧ normalizeTags props [] = ⟨props, a.tags, []⟩
      ∧ (∀ tag ∈ a.tags, tag.isBlank = false)
      ∧ a.tags.Pairwise Marker.Before
      ∧ props.get? tagsMember
        = if a.tags = [] then none else some (.array (a.tags.map .str)) := by
  cases hjson
  cases hprops
  obtain ⟨members, listed, hmade, hlisted, hproperties, htags⟩ :=
    payload_of_mem ht ha
  have hmade' : Json.Made Scalar.isDecoded (62 + 2) (.object members) := hmade
  have hnormal := Marker.made_normalizeTags hmade' hlisted
  have hblank : ∀ tag ∈ (normalizeTags members listed).tags,
      tag.isBlank = false := fun tag h =>
    (Marker.isTag_of_mem_normalizeTags hmade' hlisted h).1
  rw [hproperties] at hfloat
  -- the mapping is decoded and holds no float, so it is settled
  have hread := Json.read_write (f := Json.compact) rfl
    (show Json.Made Scalar.isSettled Json.maxDepth _ from
      hnormal.settled hfloat)
  rw [hproperties, htags]
  refine ⟨?_, Marker.normalizeTags_again hblank, hblank,
    Marker.pairwise_tagSet _, Marker.get?_normalizeTags ..⟩
  unfold Marker.decodePiece Marker.readProperties
  dsimp only
  rw [hread]

/-- A block with a blank tag, a number among the tags, an escaped half of a
surrogate pair and a repeated key, and a list of tags before it. -/
theorem properties_read_back_mixed :
    let s := Catalog.styleFor (some "python") []
    let t : Text := Text.ofString "# @!k tags=[c, \"b d\"] "
      ++ Text.ofString "\x7b\"h\": 1, \"tags\": [\"a\", \"\", 2], "
      ++ Text.ofString "\"h\": \"\\ud800\"\x7d"
    t.isEncodable = true
      ∧ ∃ a ∈ (ofText s false t).annotations,
          a.tags = [Text.ofString "a", Text.ofString "b d", Text.ofString "c"]
            ∧ Json.hasFloat (.object a.marker.payload.properties) = false
            ∧ normalizeTags a.marker.payload.properties []
              = ⟨a.marker.payload.properties, a.tags, []⟩ := by
  intro s t
  have ht : t.isEncodable = true := by decide +kernel
  have hlines : s.lines t = [⟨1, some (t.drop 2), t, false⟩] := by
    decide +kernel
  have hbind : (Binding.bind ((s.lines t).map eventOf)
      (s.lines t).length).annotations.map (fun a =>
        (a.tags, Json.hasFloat (.object a.marker.payload.properties)))
      = [([Text.ofString "a", Text.ofString "b d", Text.ofString "c"],
          false)] := by
    rw [hlines]
    decide +kernel
  obtain ⟨a, rest, hcons, ha, -⟩ := List.map_eq_cons_iff.1 hbind
  injection ha with htags hfloat
  have hmem : a ∈ (ofText s false t).annotations := by
    refine (annotations_ofLines_perm false (s.lines t)).mem_iff.2 ?_
    rw [hcons]
    exact List.mem_cons_self ..
  exact ⟨ht, a, hmem, htags, hfloat,
    (properties_read_back s false ht hmem
      (show a.toJson [] = .object _ from rfl) rfl hfloat).2.1⟩

end Marginalia.Scan
