/-
What a marker carries, decoded: a scalar value, the members of its property
block, and its tags. Nothing here fails: a piece that cannot be decoded
leaves its part empty and is reported as a problem, so one bad marker never
stops the rest of a file from being read.
-/
import Marginalia.Marker.Pieces
import Marginalia.Marker.Tags

namespace Marginalia.Marker

-- ============================================================== values

/-- What can be wrong with a value. -/
inductive ValueProblem where
  | tooDeep
  | unreadable (raw : Text)
  | notScalar (raw : Text)
  deriving DecidableEq, Repr

/-- The problem in words. -/
def ValueProblem.message : ValueProblem → Text
  | .tooDeep =>
    "Value is not a scalar: " ++ Json.ReadError.nestedTooDeeply.message
  | .unreadable raw =>
    "Value " ++ raw.quoted
      ++ " is not a quoted string, finite number, boolean or null"
  | .notScalar raw =>
    "Value " ++ raw.quoted
      ++ " must be a scalar; use the property block for structures"

/-- The scalar that a written value stands for. -/
def readScalar (raw : Text) : Except ValueProblem Scalar :=
  match Json.read raw with
  | .ok (.scalar s) => .ok s
  | .ok _ => .error (.notScalar raw)
  | .error .nestedTooDeeply => .error .tooDeep
  | .error _ => .error (.unreadable raw)

-- ========================================================== properties

/-- What can be wrong with a property block. -/
inductive PropertiesProblem where
  | unreadable (cause : Json.ReadError)
  | notObject (value : Json)

/-- The problem in words. -/
def PropertiesProblem.message : PropertiesProblem → Text
  | .unreadable cause =>
    "Property block is not valid JSON: " ++ cause.message
  | .notObject value =>
    "Property block must be a JSON object, got " ++ value.kindName

/-- The members of a written property block. -/
def readProperties (raw : Text) : Except PropertiesProblem (Assoc Json) :=
  match Json.read raw with
  | .ok (.object members) => .ok members
  | .ok value => .error (.notObject value)
  | .error cause => .error (.unreadable cause)

-- ============================================================ payloads

/-- The decoded pieces of a marker. -/
structure Payload where
  value : Scalar
  properties : Assoc Json
  tags : List Text

/-- A marker without value, properties and tags. -/
def Payload.empty : Payload := ⟨.null, [], []⟩

/-- A problem met while a marker was decoded. -/
inductive Problem where
  | value (cause : ValueProblem)
  | properties (cause : PropertiesProblem)
  | tag (cause : TagProblem)

/-- The result of an optional piece, or the default and the problem. -/
def decodePiece {ε α : Type} (default : α) (read : Text → Except ε α) :
    Option Text → α × List ε
  | none => (default, [])
  | some raw =>
    match read raw with
    | .ok a => (a, [])
    | .error e => (default, [e])

/-- The inside of the tag lists, decoded; no list has no tags. -/
def decodeTags : Option Text → List Text × List TagProblem
  | none => ([], [])
  | some inside => readTagList inside

/-- Decodes the pieces of a marker. Problems come in the order value,
properties, listed tags, tags of the member. -/
def Pieces.decode (p : Pieces) : Payload × List Problem :=
  let (value, valueProblems) := decodePiece .null readScalar p.value
  let (properties, blockProblems) := decodePiece [] readProperties p.properties
  let (listed, listProblems) := decodeTags p.tags
  let n := normalizeTags properties listed
  (⟨value, n.properties, n.tags⟩,
    valueProblems.map .value ++ blockProblems.map .properties
      ++ listProblems.map .tag ++ n.problems.map .tag)

end Marginalia.Marker
