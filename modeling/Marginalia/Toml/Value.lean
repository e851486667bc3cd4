/-
The values of a TOML document: scalars, moments, arrays, and tables with
their entries in order. Values of other formats are values here too.

Inside a message, where it need not be read back, a value is shown with
words with a capital letter, quoted texts, and lists and tables on one
line. A whole number of too many digits cannot be shown, and neither can
values that nest too deeply.
-/
import Marginalia.Decimal.DigitLimit
import Marginalia.Decimal.Shortest
import Marginalia.Json.Value
import Marginalia.Text.Quoted
import Marginalia.Toml.Moment

namespace Marginalia.Toml

-- =============================================================== limits

/-- How deep values may nest before the stack runs out: in steps while a
document is read, and in arrays and tables while a value is shown. -/
structure Limits where
  room : Nat
  shownDepth : Nat
  deriving DecidableEq, Repr

-- =============================================================== values

/-- A value: a scalar, a moment, an array, or a table with its entries in
order. -/
inductive Value where
  | scalar (s : Scalar)
  | moment (m : Moment)
  | array (items : List Value)
  | table (entries : List (Text × Value))

namespace Value

instance : Inhabited Value := ⟨.scalar .null⟩

/-- The text that a value is, if it is one. -/
def str? : Value → Option Text
  | .scalar (.str s) => some s
  | _ => none

/-- The elements of an array that are all texts; nothing for any other
value. -/
def texts? : Value → Option (List Text)
  | .array items => items.mapM str?
  | _ => none

mutual

/-- A value of JSON as a value. -/
def ofJson : Json → Value
  | .scalar s => .scalar s
  | .array items => .array (itemsOfJson items)
  | .object members => .table (entriesOfJson members)

/-- The elements of an array. -/
def itemsOfJson : List Json → List Value
  | [] => []
  | v :: rest => ofJson v :: itemsOfJson rest

/-- The members of an object as entries. -/
def entriesOfJson : List (Text × Json) → List (Text × Value)
  | [] => []
  | (k, v) :: rest => (k, ofJson v) :: entriesOfJson rest

end

-- ============================================================== showing

/-- A scalar as it is shown. -/
def showScalar : Scalar → Text
  | .null => "None"
  | .bool true => "True"
  | .bool false => "False"
  | .int n => Text.ofInt n
  | .float x => x.toText
  | .str s => s.quoted

mutual

/-- A value as it is shown. -/
def shown : Value → Text
  | .scalar s => showScalar s
  | .moment m => m.shown
  | .array items =>
    [.scalar '['] ++ Text.joinWith ", " (shownItems items) ++ [.scalar ']']
  | .table entries =>
    [.scalar '\x7b'] ++ Text.joinWith ", " (shownEntries entries)
      ++ [.scalar '\x7d']

/-- The elements of an array as they are shown. -/
def shownItems : List Value → List Text
  | [] => []
  | v :: rest => shown v :: shownItems rest

/-- The entries of a table as they are shown. -/
def shownEntries : List (Text × Value) → List Text
  | [] => []
  | (k, v) :: rest => (k.quoted ++ ": " ++ shown v) :: shownEntries rest

end

/-- Why a value cannot be shown. -/
inductive Unshown where
  | tooManyDigits
  | noRoom
  deriving DecidableEq, Repr

mutual

/-- What keeps a value from being shown, if anything does; `room` says how
much deeper it may nest. -/
def unshown? (room : Nat) : Value → Option Unshown
  | .scalar (.int n) =>
    if DigitLimit.canWrite n then none else some .tooManyDigits
  | .scalar _ | .moment _ => none
  | .array items =>
    match room with
    | 0 => some .noRoom
    | room + 1 => unshownElement? room items
  | .table entries =>
    match room with
    | 0 => some .noRoom
    | room + 1 => unshownMember? room entries

/-- What keeps the first such element of an array from being shown. -/
def unshownElement? (room : Nat) : List Value → Option Unshown
  | [] => none
  | v :: rest => (unshown? room v).or (unshownElement? room rest)

/-- What keeps the first such entry of a table from being shown. -/
def unshownMember? (room : Nat) : List (Text × Value) → Option Unshown
  | [] => none
  | (_, v) :: rest => (unshown? room v).or (unshownMember? room rest)

end

end Value

end Marginalia.Toml
