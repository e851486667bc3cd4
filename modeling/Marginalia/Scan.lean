/-
Scanning a text: its lines are read in the comment style of its language,
markers are decoded and bound, and what was bound comes in the order of the
lines it applies to, then of the markers. Diagnostics come in the order of
their lines; of one line, those of decoding come before those of binding.

A text comes as it is, or as bytes, which must be UTF-8 without NUL; a byte
order mark at the start is not part of the text.
-/
import Marginalia.Text.Utf8
import Marginalia.Binding
import Marginalia.Comment.Catalog

namespace Marginalia

-- =============================================================== texts

/-- What a scan of one text yields. -/
structure Scan where
  annotations : List Annotation
  diagnostics : List Diagnostic

namespace Scan

/-- One line for the binding, and the diagnostics of its own. A line whose
comment starts like a marker but has no valid key is reported only on
request, since it may well be prose. -/
def readLine (reportUnrecognized : Bool) (l : Comment.Line) :
    Binding.Event × List Diagnostic :=
  match l.content with
  | none => (.line l, [])
  | some content =>
    match Marker.pieces? content with
    | some pieces =>
      let (payload, problems) := pieces.decode
      let marker : Marker := ⟨l.number, pieces.key, payload⟩
      let event : Binding.Event :=
        match pieces.kind with
        | .inline => .inline marker
        | .blockBegin => .blockBegin marker
        | .blockEnd => .blockEnd l.number pieces.key
      (event, problems.map fun p => ⟨l.number, .payload p⟩)
    | none =>
      if Marker.isAnnotation content then
        (.unrecognized,
          if reportUnrecognized then [⟨l.number, .noKey content⟩] else [])
      else (.line l, [])

/-- Annotations in order of anchor, then of marker line. -/
def before (a b : Annotation) : Bool :=
  a.anchor < b.anchor || (a.anchor == b.anchor && a.firstLine ≤ b.firstLine)

/-- Scans lines that were read already. -/
def ofLines (reportUnrecognized : Bool) (lines : List Comment.Line) : Scan :=
  let read := lines.map (readLine reportUnrecognized)
  let bound := Binding.bind (read.map (·.1)) lines.length
  ⟨bound.annotations.mergeSort before,
    (read.flatMap (·.2) ++ bound.diagnostics).mergeSort
      fun a b => a.line ≤ b.line⟩

/-- Scans a text in a given comment style. -/
def ofText (style : Comment.Style) (reportUnrecognized : Bool) (t : Text) :
    Scan :=
  ofLines reportUnrecognized (style.lines t)

end Scan

-- =============================================================== bytes

/-- Why a file could not be scanned: it is not text, it could not be read
for a reason that the file system gives, or the scan ran out of stack. -/
inductive ScanError where
  | binary
  | notUtf8 (flaw : Utf8.Malformed)
  | unreadable (reason : Text)
  | outOfStack
  deriving DecidableEq, Repr

/-- The error in words. -/
def ScanError.message : ScanError → Text
  | .binary => "binary content (NUL byte found)"
  | .notUtf8 flaw =>
    "not valid UTF-8 text (" ++ flaw.flaw.reason ++ " at byte "
      ++ Text.ofNat flaw.offset ++ ")"
  | .unreadable reason => "cannot read file: " ++ reason
  | .outOfStack => "input nests too deeply to scan"

/-- The text of a file. -/
def Scan.decode (bytes : Utf8.Bytes) : Except ScanError Text :=
  if bytes.contains 0 then .error .binary
  else (Utf8.decode (Utf8.dropMark bytes)).mapError .notUtf8

end Marginalia
