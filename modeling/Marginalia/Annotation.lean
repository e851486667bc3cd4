/-
Annotations: markers with what they apply to. An inline marker applies to
the next declaration after it, to the whole file when nothing comes before
or after it, or to nothing at the end of the file. A block marker applies
to the region from its begin line to its end line.
-/
import Marginalia.Text.Lines
import Marginalia.Marker.Payload

namespace Marginalia

-- ============================================================= markers

/-- A marker at its line, decoded. For a block this is its begin marker. -/
structure Marker where
  line : LineNumber
  key : Text
  payload : Marker.Payload

-- ============================================================== scopes

/-- What an annotation applies to: a whole file of so many lines, one line
with its text, the lines of a block, or the empty place after the last
line. -/
inductive Scope where
  | file (lines : LineNumber)
  | declaration (line : LineNumber) (text : Text)
  | region (first last : LineNumber)
  | trailing (line : LineNumber)
  deriving DecidableEq, Repr

namespace Scope

/-- The first line of a scope. -/
def first : Scope → LineNumber
  | .file _ => 1
  | .declaration line _ => line
  | .region first _ => first
  | .trailing line => line

/-- The last line of a scope. -/
def last : Scope → LineNumber
  | .file lines => lines
  | .declaration line _ => line
  | .region _ last => last
  | .trailing line => line

/-- The text of the line that a declaration stands on. -/
def text : Scope → Text
  | .declaration _ text => text
  | _ => []

/-- The name of the kind of scope. -/
def kindName : Scope → Text
  | .file _ => "FileLevel"
  | .declaration .. => "Declaration"
  | .region .. => "Region"
  | .trailing _ => "Trailing"

end Scope

-- ========================================================= annotations

/-- A marker with its scope. A salvaged one is a block that was never
closed; its region runs to the end of the file. -/
structure Annotation where
  marker : Marker
  scope : Scope
  salvaged : Bool

namespace Annotation

/-- The key of the annotation. -/
def key (a : Annotation) : Text := a.marker.key

/-- The tags of the annotation, in increasing order. -/
def tags (a : Annotation) : List Text := a.marker.payload.tags

/-- Was this a block? -/
def isBlock (a : Annotation) : Bool :=
  match a.scope with
  | .region .. => true
  | _ => false

/-- The name of the form of the annotation. -/
def formName (a : Annotation) : Text := if a.isBlock then "Block" else "Inline"

/-- The line of the marker, or of the begin marker of a block. -/
def firstLine (a : Annotation) : LineNumber := a.marker.line

/-- The last line of the annotation itself: that of the end marker of a
block, and of the marker otherwise. -/
def lastLine (a : Annotation) : LineNumber :=
  match a.scope with
  | .region _ last => last
  | _ => a.marker.line

/-- The line that annotations are ordered by: the declaration for an inline
annotation that has one, and the line of the marker otherwise. -/
def anchor (a : Annotation) : LineNumber :=
  match a.scope with
  | .declaration line _ => line
  | _ => a.marker.line

/-- Is the annotation addressed to this agent? It is when its key is
`agent` and its value the name, or when its property `agent` is the name or
an array that holds it. -/
def isForAgent (a : Annotation) (agent : Text) : Bool :=
  (a.key == Text.ofString "agent" && a.marker.payload.value == .str agent)
    || match Assoc.get? a.marker.payload.properties "agent" with
      | some (.array items) => items.any fun v => v.str? == some agent
      | some v => v.str? == some agent
      | none => false

end Annotation

end Marginalia
