/-
Values written as JSON text. There are two ways of writing and two of
spacing: non-ASCII characters stand as they are or as escapes of their
UTF-16 units; a value stands on one line, with a space after every comma
and colon, or every element stands on a line of its own, indented by its
depth. Strings escape the quote, the backslash and the controls in both.
-/
import Marginalia.Json.Value
import Marginalia.Decimal.Shortest

namespace Marginalia.Json

-- ============================================================= format

/-- How values are written: with ASCII characters only or not, and on one
line or with every element on its own line, indented by so many spaces per
level. -/
structure Format where
  asciiOnly : Bool
  indent : Option Nat

/-- One line of ASCII characters. -/
def compact : Format := ⟨true, none⟩

/-- One line, with all characters as they are. -/
def oneLine : Format := ⟨false, none⟩

/-- Two spaces of indentation, with all characters as they are. -/
def pretty : Format := ⟨false, some 2⟩

/-- Two spaces of indentation, ASCII characters only. -/
def prettyAscii : Format := ⟨true, some 2⟩

namespace Format

/-- The break before an element at a given depth. -/
def lineBreak (f : Format) (depth : Nat) : Text :=
  match f.indent with
  | none => []
  | some n => .scalar '\n' :: List.replicate (n * depth) (.scalar ' ')

/-- What stands between two elements at a given depth. -/
def separator (f : Format) (depth : Nat) : Text :=
  match f.indent with
  | none => ", "
  | some _ => .scalar ',' :: f.lineBreak depth

end Format

-- ============================================================ strings

/-- A `\u` escape of one UTF-16 unit. -/
def unitEscape (unit : Nat) : Text := "\\u" ++ Text.ofHex 4 unit

/-- The escapes of a code point: one unit, or a surrogate pair. -/
def escapes (n : Nat) : Text :=
  if n < 0x10000 then unitEscape n
  else
    unitEscape (0xD800 + (n - 0x10000) / 0x400)
      ++ unitEscape (0xDC00 + (n - 0x10000) % 0x400)

/-- A code point inside a string. -/
def writePoint (f : Format) (c : CodePoint) : Text :=
  if c = .scalar '"' then "\\\""
  else if c = .scalar '\\' then "\\\\"
  else if c = .scalar '\n' then "\\n"
  else if c = .scalar '\r' then "\\r"
  else if c = .scalar '\t' then "\\t"
  else if c.toNat = 0x08 then "\\b"
  else if c.toNat = 0x0C then "\\f"
  else if c.toNat < 0x20 || (f.asciiOnly && 0x7E < c.toNat) then
    escapes c.toNat
  else [c]

/-- A string between its quotes. -/
def writeString (f : Format) (s : Text) : Text :=
  [.scalar '"'] ++ s.flatMap (writePoint f) ++ [.scalar '"']

-- ============================================================= values

/-- A number with a fraction or an exponent. What is not finite has a name,
which reading refuses. -/
def writeFloat : Binary64 → Text
  | .infinite negative => if negative then "-Infinity" else "Infinity"
  | .nan => "NaN"
  | x => x.toText

/-- A scalar. -/
def writeScalar (f : Format) : Scalar → Text
  | .null => "null"
  | .bool true => "true"
  | .bool false => "false"
  | .int n => Text.ofInt n
  | .float x => writeFloat x
  | .str s => writeString f s

/-- The written elements of a container between its brackets. -/
def enclose (f : Format) (depth : Nat) (left right : CodePoint)
    (elements : List Text) : Text :=
  if elements.isEmpty then [left, right]
  else
    [left] ++ f.lineBreak (depth + 1)
      ++ Text.joinWith (f.separator (depth + 1)) elements
      ++ f.lineBreak depth ++ [right]

mutual

/-- A value at a given depth. -/
def writeAt (f : Format) (depth : Nat) : Json → Text
  | .scalar s => writeScalar f s
  | .array items =>
    enclose f depth (.scalar '[') (.scalar ']') (writeItems f (depth + 1) items)
  | .object members =>
    enclose f depth (.scalar '\x7b') (.scalar '\x7d')
      (writeMembers f (depth + 1) members)

/-- The elements of an array. -/
def writeItems (f : Format) (depth : Nat) : List Json → List Text
  | [] => []
  | v :: rest => writeAt f depth v :: writeItems f depth rest

/-- The members of an object. -/
def writeMembers (f : Format) (depth : Nat) :
    List (Text × Json) → List Text
  | [] => []
  | (k, v) :: rest =>
    (writeString f k ++ ": " ++ writeAt f depth v)
      :: writeMembers f depth rest

end

/-- A value as JSON text. -/
def write (f : Format) (v : Json) : Text := writeAt f 0 v

end Marginalia.Json
