/-
What is reported of the pieces of a marker. The value and the property block
are read whole, so each has at most one problem. Tags are read one by one:
the pieces of the lists, and the items of the member for tags, have their
problems in the order in which they stand. A member that is no array is one
problem.
-/
import Marginalia.Proofs.Marker.Payload

namespace Marginalia.Marker

/-- The problem of an outcome, if it is not a good one. -/
def problem? {ε α : Type} : Except ε α → Option ε
  | .ok _ => none
  | .error e => some e

/-- The problems among some outcomes, in order. -/
theorem problems_partitionOutcomes {ε α : Type}
    (outcomes : List (Except ε α)) :
    (partitionOutcomes outcomes).2 = outcomes.filterMap problem? := by
  induction outcomes with
  | nil => rfl
  | cons outcome rest ih =>
      cases outcome with
      | ok a => exact ih
      | error e => exact congrArg (e :: ·) ih

/-- An optional piece has a problem when it is there and cannot be read. -/
theorem problems_decodePiece {ε α : Type} (default : α)
    (read : Text → Except ε α) (piece : Option Text) :
    (decodePiece default read piece).2
      = (piece.bind fun raw => problem? (read raw)).toList := by
  cases piece with
  | none => rfl
  | some raw =>
      simp only [decodePiece, Option.bind_some]
      cases read raw <;> rfl

namespace Pieces

/-- What is wrong with the value. -/
def valueProblem? (p : Pieces) : Option ValueProblem :=
  p.value.bind fun raw => problem? (readScalar raw)

/-- What is wrong with the property block. -/
def propertiesProblem? (p : Pieces) : Option PropertiesProblem :=
  p.properties.bind fun raw => problem? (readProperties raw)

/-- The members of the property block; one that cannot be read has none. -/
def members (p : Pieces) : Assoc Json :=
  (decodePiece [] readProperties p.properties).1

/-- The pieces of the tag lists, between the commas. -/
def tagPieces (p : Pieces) : List Text :=
  match p.tags with
  | none => []
  | some inside => if inside.isBlank then [] else inside.commaPieces

/-- What is wrong with the pieces of the tag lists, in order. -/
def listProblems (p : Pieces) : List TagProblem :=
  p.tagPieces.filterMap fun piece => problem? (tagOfPiece piece)

/-- What is wrong with the member for tags: its items that are no tags, in
order, or that it is no array. -/
def memberProblems (p : Pieces) : List TagProblem :=
  match p.members.get? tagsMember with
  | none => []
  | some (.array items) => items.filterMap fun item => problem? (tagOfItem item)
  | some value => [.memberNotArray value]

theorem problems_decodeTags (p : Pieces) :
    (decodeTags p.tags).2 = p.listProblems := by
  unfold decodeTags listProblems tagPieces
  cases p.tags with
  | none => rfl
  | some inside =>
      show (readTagList inside).2 = _
      unfold readTagList
      dsimp only
      split
      · rfl
      · rw [problems_partitionOutcomes, List.filterMap_map]
        rfl

theorem problems_memberTags (p : Pieces) :
    (memberTags p.members).2 = p.memberProblems := by
  unfold memberTags memberProblems
  cases p.members.get? tagsMember with
  | none => rfl
  | some value =>
      cases value with
      | array items =>
          show (partitionOutcomes (items.map tagOfItem)).2 = _
          rw [problems_partitionOutcomes, List.filterMap_map]
          rfl
      | scalar _ | object _ => rfl

/-- The problems of a marker: at most one of its value, at most one of its
property block, those of the listed tags, and those of the member for
tags. -/
theorem problems_decode (p : Pieces) :
    p.decode.2
      = p.valueProblem?.toList.map .value
        ++ p.propertiesProblem?.toList.map .properties
        ++ p.listProblems.map .tag
        ++ p.memberProblems.map .tag := by
  rw [← problems_decodeTags, ← problems_memberTags, ← problems_normalizeTags
    p.members (decodeTags p.tags).1]
  unfold valueProblem? propertiesProblem?
  rw [← problems_decodePiece .null, ← problems_decodePiece []]
  rfl

end Pieces

end Marginalia.Marker
