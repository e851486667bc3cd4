/-
Annotations that are written are read back. A text with one marker line, or
with the two of a block, is put together from a key and a payload; scanning
it gives one annotation with that key and that payload, and nothing to
report.

The steps are the ones of a scan: the lines of the text, the comment on
each, the pieces of the marker, their values, and what the marker is bound
to.
-/
import Marginalia.Proofs.Comment.Lines
import Marginalia.Proofs.Marker.Payload
import Marginalia.Proofs.Scan.Events

namespace Marginalia.Scan

open Comment (Line Style)
open Marker (writeInline writeBegin writeEnd normalizeTags)

-- ============================================================== texts

/-- A line that is a comment. -/
def comment (content : Text) : Text := "# " ++ content

/-- An inline marker in front of a line of code. -/
def inlineText (key : Text) (value : Scalar) (tags : List Text)
    (members : Assoc Json) : Text :=
  comment (writeInline key value tags members) ++ "\nx\n"

/-- The begin and the end marker of an empty block. -/
def blockText (key : Text) (value : Scalar) (tags : List Text)
    (members : Assoc Json) : Text :=
  comment (writeBegin key value tags members)
    ++ ("\n" ++ (comment (writeEnd key) ++ "\n"))

-- ============================================================== lines

/-- The comment style that the hint `python` finds. -/
def python : Style := Catalog.styleFor (some "python") []

/-- A comment by itself, as it is read. -/
def commentLine (number : LineNumber) (content : Text) : Line :=
  ⟨number, some content, comment content, false⟩

/-- A comment is read as such when its content is trimmed already. -/
theorem readLine_comment {content : Text} (h : content.trim = content) :
    python.readLine none (comment content) = ⟨some content, false, none⟩ := by
  have hsplit : python.split? (comment content)
      = some ([], ⟨"#", none⟩, .scalar ' ' :: content) := rfl
  have hmark : Text.isBlank [] = true := rfl
  have hblank : CodePoint.isBlank (.scalar ' ') = true := rfl
  simp only [Style.readLine, hsplit, Text.trim_cons_blank hblank, h, hmark,
    Bool.not_true]

theorem printed_comment {content : Text} (h : content.Printed) :
    (comment content).Printed := .append (by decide) h

/-- The lines of a text that starts with a comment. -/
theorem lines_comment {content b : Text} (htrim : content.trim = content)
    (hcontent : content.Printed) (hb : b.Printed) :
    python.lines (comment content ++ .scalar '\n' :: (b ++ [.scalar '\n']))
      = [commentLine 1 content, python.lineAt 2 none b] := by
  unfold Style.lines
  rw [(printed_comment hcontent).lines, hb.lines, Style.readLines_cons,
    readLine_comment htrim, show Text.lines [] = [] from rfl,
    Style.readLines_cons]
  unfold Style.lineAt
  rw [readLine_comment htrim]
  rfl

-- ============================================================== scans

/-- The event of a comment line with a marker that is decoded without a
problem. -/
theorem readLine_marker (report : Bool) (number : LineNumber)
    {content : Text} {p : Marker.Pieces} {payload : Marker.Payload}
    (hp : Marker.pieces? content = some p) (hd : p.decode = (payload, [])) :
    readLine report (commentLine number content)
      = (match p.kind with
          | .inline => .inline ⟨number, p.key, payload⟩
          | .blockBegin => .blockBegin ⟨number, p.key, payload⟩
          | .blockEnd => .blockEnd number p.key, []) := by
  simp only [readLine, commentLine, hp, hd]
  rfl

/-- A scan of two lines of which nothing is reported and that are bound to
one annotation. -/
theorem ofLines_pair {report : Bool} {first second : Line}
    {e e' : Binding.Event} {a : Annotation}
    (hfirst : readLine report first = (e, []))
    (hsecond : readLine report second = (e', []))
    (hbind : Binding.bind [e, e'] 2 = ⟨[a], []⟩) :
    ofLines report [first, second] = ⟨[a], []⟩ := by
  have hlength : ([first, second].length : LineNumber) = 2 := rfl
  unfold ofLines
  simp only [List.map_cons, List.map_nil, List.flatMap_cons, List.flatMap_nil,
    hfirst, hsecond, hlength, hbind, List.append_nil,
    List.mergeSort_singleton, List.mergeSort_nil]

-- =========================================================== round trip

/-- A block that is closed on the next line. -/
theorem bind_block (key : Text) (payload : Marker.Payload) :
    Binding.bind [.blockBegin ⟨1, key, payload⟩, .blockEnd 2 key] 2
      = ⟨[⟨⟨1, key, payload⟩, .region 1 2, false⟩], []⟩ := by
  have htake : Binding.takeNearest? key [⟨1, key, payload⟩]
      = some (⟨1, key, payload⟩, []) := if_pos rfl
  have hclose : Binding.closeBlock
      ⟨[⟨1, key, payload⟩], [], true, false, false⟩ 2 key
      = (⟨[], [], true, false, false⟩,
        ⟨[⟨⟨1, key, payload⟩, .region 1 2, false⟩], []⟩) := by
    unfold Binding.closeBlock
    rw [htake]
  simp only [Binding.bind, Binding.steps, Binding.step, Binding.State.start,
    hclose]
  rfl

/-- What a written payload is decoded to. -/
def written (v : Scalar) (tags : List Text) (members : Assoc Json) :
    Marker.Payload :=
  ⟨v, (normalizeTags members tags).properties,
    (normalizeTags members tags).tags⟩

section

variable {key : Text} {v : Scalar} {tags : List Text} {members : Assoc Json}
  (hk : Marker.isKey key = true) (hv : v.isExact = true)
  (ht : ∀ t ∈ tags, t.isEncodable = true ∧ t.isBlank = false)
  (hm : Json.Exact Json.maxDepth (.object members))
  (htexts : Marker.HasTagTexts members) (report : Bool)

include hk hv ht hm htexts

/-- Scanning an inline marker in front of a line gives it back. -/
theorem ofText_inlineText (hbegin : key ≠ "begin") (hend : key ≠ "end") :
    ofText python report (inlineText key v tags members)
      = ⟨[⟨⟨1, key, written v tags members⟩, .declaration 2 "x", false⟩],
        []⟩ := by
  have hlines : python.lines (inlineText key v tags members)
      = [commentLine 1 (writeInline key v tags members),
        ⟨2, none, "x", true⟩] :=
    lines_comment (b := "x") (Marker.trim_writeInline hm)
      (Marker.printed_writeInline hk hv hm) (by decide)
  have hmarker := readLine_marker report 1
    (Marker.pieces?_writeInline hk hv hm hbegin hend)
    (Marker.decode_written .inline key hv ht hm htexts)
  unfold ofText
  rw [hlines]
  exact ofLines_pair hmarker rfl rfl

/-- Scanning the two markers of a block gives it back. -/
theorem ofText_blockText :
    ofText python report (blockText key v tags members)
      = ⟨[⟨⟨1, key, written v tags members⟩, .region 1 2, false⟩], []⟩ := by
  have hend : (writeEnd key).trim = writeEnd key := Marker.trim_writeEnd hk
  have hsecond : python.lineAt 2 none (comment (writeEnd key))
      = commentLine 2 (writeEnd key) := by
    unfold Style.lineAt
    rw [readLine_comment hend]
    rfl
  have hlines : python.lines (blockText key v tags members)
      = [commentLine 1 (writeBegin key v tags members),
        commentLine 2 (writeEnd key)] := by
    rw [← hsecond]
    exact lines_comment (Marker.trim_writeBegin hm)
      (Marker.printed_writeBegin hk hv hm)
      (printed_comment (.append (by decide) (Marker.printed_key hk)))
  have hbegin := readLine_marker report 1
    (Marker.pieces?_writeBegin hk hv hm)
    (Marker.decode_written .blockBegin key hv ht hm htexts)
  have hclose := readLine_marker report 2 (Marker.pieces?_writeEnd hk) rfl
  unfold ofText
  rw [hlines]
  exact ofLines_pair hbegin hclose (bind_block key _)

end

/-- A payload that is written behind a key is read back exactly, whatever
quotes, brackets, commas and braces its texts hold: in front of a line as an
inline annotation of that line, and on a begin marker as a block that its
end marker closes. Nothing is reported. The tags are those of the list and
those of the member, and the properties are the members with these tags. -/
theorem payload_round_trip {key : Text} {v : Scalar} {tags : List Text}
    {members : Assoc Json} (hk : Marker.isKey key = true)
    (hv : v.isExact = true)
    (ht : ∀ t ∈ tags, t.isEncodable = true ∧ t.isBlank = false)
    (hm : Json.Exact 64 (.object members))
    (htexts : Marker.HasTagTexts members) (report : Bool) :
    let n := normalizeTags members tags
    let style := Catalog.styleFor (some "python") []
    (key ≠ "begin" → key ≠ "end" →
      ofText style report (inlineText key v tags members)
        = ⟨[⟨⟨1, key, ⟨v, n.properties, n.tags⟩⟩, .declaration 2 "x", false⟩],
          []⟩)
      ∧ ofText style report (blockText key v tags members)
        = ⟨[⟨⟨1, key, ⟨v, n.properties, n.tags⟩⟩, .region 1 2, false⟩], []⟩
      ∧ ∀ x, x ∈ n.tags ↔ x ∈ tags ∨ ∃ items,
        members.get? "tags" = some (.array items) ∧ Json.str x ∈ items := by
  intro n style
  refine ⟨fun hbegin hend => ?_, ?_, ?_⟩
  · exact ofText_inlineText hk hv ht hm htexts report hbegin hend
  · exact ofText_blockText hk hv ht hm htexts report
  · exact Marker.mem_tags_normalizeTags htexts

/-- A value, a tag and a member that look like the marks around them. -/
theorem payload_round_trip_marks :
    let members : Assoc Json :=
      [("tags", .array [.str "]"]), ("\x7d", .scalar (.int 3))]
    let style := Catalog.styleFor (some "python") []
    inlineText "owner" (.str "tags=[\"") ["a,b"] members
        = "# @!owner \"tags=[\\\"\" tags=[\"a,b\"] \x7b\"tags\": [\"]\"], "
          ++ Text.ofString "\"\x7d\": 3\x7d\nx\n"
      ∧ ofText style false
          (inlineText "owner" (.str "tags=[\"") ["a,b"] members)
        = ⟨[⟨⟨1, "owner", ⟨.str "tags=[\"",
            [("tags", .array [.str "]", .str "a,b"]),
              ("\x7d", .scalar (.int 3))],
            ["]", "a,b"]⟩⟩, .declaration 2 "x", false⟩], []⟩ := by
  intro members style
  have hm : Json.Exact 64 (.object members) := by
    refine .object (by decide) (by decide) fun m hm => ?_
    rcases List.mem_cons.1 hm with rfl | hm
    · refine .array fun v hv => ?_
      rw [List.mem_singleton.1 hv]
      exact .scalar rfl
    · rw [List.mem_singleton.1 hm]
      exact .scalar (by decide +kernel)
  have htexts : Marker.HasTagTexts members := by
    intro value hvalue
    injection hvalue with hvalue
    exact ⟨["]"], hvalue.symm, by decide⟩
  refine ⟨by decide, ?_⟩
  exact (@payload_round_trip "owner" (.str "tags=[\"") ["a,b"] members
    (by decide) (by decide) (by decide) hm htexts false).1 (by decide)
    (by decide)

end Marginalia.Scan
