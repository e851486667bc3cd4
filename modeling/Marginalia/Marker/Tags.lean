/-
Tags. They come from the lists after a marker's key and from the `tags`
member of its property block, and are kept as one set, written in
increasing order without repetition. A list is cut at the commas outside
quotes; a quoted piece is a JSON string, and any other piece stands for
itself unless it holds a character that calls for quotes. What is not a tag
is a problem of its own and leaves the other tags alone.
-/
import Marginalia.Text.Blank
import Marginalia.Text.Quoted
import Marginalia.Json.Reader
import Marginalia.Json.Writer

namespace Marginalia.Marker

-- ============================================================ problems

/-- What can be wrong with a tag, in a list or in the member `tags`. -/
inductive TagProblem where
  | emptyPiece
  | badString (piece : Text)
  | needsQuotes (piece : Text)
  | memberNotArray (value : Json)
  | itemNotText (item : Json)
  | emptyItem

/-- The problem in words. -/
def TagProblem.message : TagProblem → Text
  | .emptyPiece => "Empty tag token in tags=[...] shorthand"
  | .badString piece =>
    "Tag token " ++ piece.quoted ++ " is not a valid quoted string"
  | .needsQuotes piece => "Tag token " ++ piece.quoted ++ " must be quoted"
  | .memberNotArray value =>
    "'tags' property must be an array of strings, got "
      ++ value.write Json.compact
  | .itemNotText item =>
    "Tag " ++ item.write Json.compact ++ " in 'tags' property is not a string"
  | .emptyItem => "Empty string in 'tags' property"

/-- Sorts outcomes into the good ones and the problems, each in order. -/
def partitionOutcomes {ε α : Type} : List (Except ε α) → List α × List ε
  | [] => ([], [])
  | .ok a :: rest =>
    let (good, bad) := partitionOutcomes rest
    (a :: good, bad)
  | .error e :: rest =>
    let (good, bad) := partitionOutcomes rest
    (good, e :: bad)

-- =============================================================== lists

/-- Must a piece with this in it be quoted? -/
def callsForQuotes (c : CodePoint) : Bool :=
  (Text.ofString "\"[]\x7b\x7d, \t").contains c

/-- The tag that one piece of a list stands for. -/
def tagOfPiece (piece : Text) : Except TagProblem Text :=
  let t := piece.trim
  if t.isEmpty then .error .emptyPiece
  else if t.startsWith "\"" then
    match Json.read t with
    | .ok (.scalar (.str tag)) =>
      if tag.isBlank then .error .emptyPiece else .ok tag
    | _ => .error (.badString t)
  else if t.any callsForQuotes then .error (.needsQuotes t)
  else .ok t

/-- The tags of the inside of a tag list, and its problems. -/
def readTagList (inside : Text) : List Text × List TagProblem :=
  if inside.isBlank then ([], [])
  else partitionOutcomes (inside.commaPieces.map tagOfPiece)

-- ================================================================ sets

/-- Adds a tag to a set, unless it is there already. -/
def insertTag (tag : Text) : List Text → List Text
  | [] => [tag]
  | t :: rest =>
    if tag = t then t :: rest
    else if Text.le tag t then tag :: t :: rest
    else t :: insertTag tag rest

/-- The set of some tags: in increasing order, each once. -/
def tagSet (tags : List Text) : List Text := tags.foldr insertTag []

-- ============================================================== member

/-- The name of the member that holds tags. -/
def tagsMember : Text := "tags"

/-- The tag that one item of the member stands for. -/
def tagOfItem (item : Json) : Except TagProblem Text :=
  match item.str? with
  | none => .error (.itemNotText item)
  | some tag => if tag.isBlank then .error .emptyItem else .ok tag

/-- The tags of the member, and its problems. -/
def readTagsMember : Json → List Text × List TagProblem
  | .array items => partitionOutcomes (items.map tagOfItem)
  | value => ([], [.memberNotArray value])

/-- Properties with their tags made one with those of the lists. -/
structure Normalized where
  properties : Assoc Json
  tags : List Text
  problems : List TagProblem

/-- Joins the tags of the member with those of the lists. The member holds
the whole set afterwards, in its place or else at the end, and is gone when
the set is empty. -/
def normalizeTags (properties : Assoc Json) (listed : List Text) :
    Normalized :=
  let (members, problems) :=
    match properties.get? tagsMember with
    | some value => readTagsMember value
    | none => ([], [])
  let tags := tagSet (listed ++ members)
  let properties :=
    if tags.isEmpty then properties.erase tagsMember
    else properties.put tagsMember (.array (tags.map .str))
  ⟨properties, tags, problems⟩

-- ======================================================= small lemmas

/-- Every outcome is a good one or a problem. -/
theorem partitionOutcomes_length {ε α : Type} (outcomes : List (Except ε α)) :
    (partitionOutcomes outcomes).1.length
      + (partitionOutcomes outcomes).2.length = outcomes.length := by
  induction outcomes with
  | nil => rfl
  | cons outcome rest ih =>
    cases outcome <;> simp only [partitionOutcomes, List.length_cons] <;> omega

/-- Adding a tag adds that tag and nothing else. -/
theorem mem_insertTag {x tag : Text} {set : List Text} :
    x ∈ insertTag tag set ↔ x = tag ∨ x ∈ set := by
  induction set with
  | nil => simp [insertTag]
  | cons t rest ih =>
    simp only [insertTag]
    split
    · next h => subst h; simp
    · split
      · simp
      · simp only [List.mem_cons, ih]
        exact or_left_comm

/-- A set has the tags it was made of. -/
theorem mem_tagSet {x : Text} {tags : List Text} :
    x ∈ tagSet tags ↔ x ∈ tags := by
  induction tags with
  | nil => simp [tagSet]
  | cons tag rest ih =>
    rw [List.mem_cons, ← ih]
    exact mem_insertTag

end Marginalia.Marker
