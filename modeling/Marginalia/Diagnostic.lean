/-
Diagnostics: what was wrong on a line, without stopping anything. Every
diagnostic has a cause, from which its kind and its message follow. Kinds
can be named in any case, with or without dashes and underscores.
-/
import Marginalia.Text.Lines
import Marginalia.Text.Lowercase
import Marginalia.Marker.Payload

namespace Marginalia

namespace Diagnostic

-- =============================================================== kinds

/-- The kinds of diagnostics. -/
inductive Kind where
  | malformedProperties
  | malformedValue
  | malformedTagToken
  | unmatchedEnd
  | unclosedBlock
  | dangling
  | unrecognizedKeyCharset
  deriving DecidableEq, Repr

namespace Kind

/-- All kinds. -/
def all : List Kind :=
  [ .malformedProperties, .malformedValue, .malformedTagToken,
    .unmatchedEnd, .unclosedBlock, .dangling,
    .unrecognizedKeyCharset ]

/-- The name of a kind. -/
def name : Kind → Text
  | .malformedProperties => "MalformedProperties"
  | .malformedValue => "MalformedValue"
  | .malformedTagToken => "MalformedTagToken"
  | .unmatchedEnd => "UnmatchedEnd"
  | .unclosedBlock => "UnclosedBlock"
  | .dangling => "DanglingAnnotation"
  | .unrecognizedKeyCharset => "UnrecognizedKeyCharset"

/-- The short code that stands before the messages of a kind. -/
def code : Kind → Text
  | .unclosedBlock => "BT001"
  | .unmatchedEnd => "BT002"
  | .malformedProperties => "BT003"
  | .malformedValue => "BT004"
  | .malformedTagToken => "BT005"
  | .dangling => "BT006"
  | .unrecognizedKeyCharset => "BT007"

/-- The kind that a name means. -/
def ofName? (name : Text) : Option Kind :=
  let wanted := Text.lower
    (name.filter fun c => c != .scalar '_' && c != .scalar '-')
  all.find? fun kind => kind.name.lower == wanted

/-- What is said of a name that means no kind. -/
def unknownMessage (name : Text) : Text :=
  "Unknown diagnostic kind: " ++ name.quoted

end Kind

-- ============================================================== causes

/-- What was wrong on a line. -/
inductive Cause where
  | payload (problem : Marker.Problem)
  | unmatchedEnd (key : Text) (openKeys : List Text)
  | unclosedBlock (key : Text)
  | dangling (key : Text)
  | noKey (content : Text)

/-- The kind of a cause. -/
def Cause.kind : Cause → Kind
  | .payload (.value _) => .malformedValue
  | .payload (.properties _) => .malformedProperties
  | .payload (.tag _) => .malformedTagToken
  | .unmatchedEnd .. => .unmatchedEnd
  | .unclosedBlock _ => .unclosedBlock
  | .dangling _ => .dangling
  | .noKey _ => .unrecognizedKeyCharset

/-- The cause in words. -/
def Cause.message : Cause → Text
  | .payload (.value p) => p.message
  | .payload (.properties p) => p.message
  | .payload (.tag p) => p.message
  | .unmatchedEnd key [] =>
    "@!end " ++ key ++ " without a matching @!begin " ++ key
  | .unmatchedEnd key openKeys =>
    "@!end " ++ key ++ " does not match any open block (open: "
      ++ Text.joinWith ", " openKeys ++ ")"
  | .unclosedBlock key =>
    "@!begin " ++ key ++ " is never closed; region runs to end of file"
  | .dangling key =>
    "@!" ++ key ++ " has no following line to annotate"
  | .noKey content =>
    "Ignoring " ++ content.trim.quoted ++ ": no valid key after @!"

end Diagnostic

/-- A cause at a line. -/
structure Diagnostic where
  line : LineNumber
  cause : Diagnostic.Cause

/-- The kind of a diagnostic. -/
def Diagnostic.kind (d : Diagnostic) : Kind := d.cause.kind

/-- The message of a diagnostic. -/
def Diagnostic.message (d : Diagnostic) : Text := d.cause.message

end Marginalia
