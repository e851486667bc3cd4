/-
Tables with text keys that keep the order in which their keys first came.
Setting a key that is present replaces its value where it stands; a new key
goes to the end. So a table built from a list of pairs has each key at its
first position and with its last value.
-/
import Marginalia.Text.CodePoint

namespace Marginalia

/-- A table from texts to values, in order. -/
abbrev Assoc (α : Type) := List (Text × α)

namespace Assoc

variable {α : Type}

/-- The value of a key. -/
def get? (table : Assoc α) (key : Text) : Option α :=
  match table with
  | [] => none
  | (k, v) :: rest => if k = key then some v else get? rest key

/-- Sets the value of a key. -/
def put (table : Assoc α) (key : Text) (value : α) : Assoc α :=
  match table with
  | [] => [(key, value)]
  | (k, v) :: rest =>
    if k = key then (key, value) :: rest else (k, v) :: put rest key value

/-- Removes a key. -/
def erase (table : Assoc α) (key : Text) : Assoc α :=
  table.filter fun entry => entry.1 != key

/-- The table of a list of pairs. -/
def ofPairs (pairs : List (Text × α)) : Assoc α :=
  pairs.foldl (fun table entry => put table entry.1 entry.2) []

-- ======================================================= small lemmas

theorem get?_put (table : Assoc α) (key other : Text) (value : α) :
    get? (put table key value) other
      = if key = other then some value else get? table other := by
  induction table with
  | nil => rfl
  | cons entry rest ih =>
    obtain ⟨k, v⟩ := entry
    by_cases h : k = key
    · subst h
      by_cases h' : k = other <;> simp [put, get?, h']
    · by_cases h' : k = other
      · subst h'
        simp [put, get?, h, Ne.symm h]
      · simp [put, get?, h, h', ih]

end Assoc

end Marginalia
