/-
The console that lines and tables are printed on. It takes a line as markup, in
which names between brackets style the text and are not shown themselves, works
out what the markup shows, and prints that within its width. A text that is to
be shown as it stands has to be escaped before it goes into a markup.

How a console does this is its own affair. What is written here is what a
command hands to it and what it gets back; styles are left out of that, so that
the text on a console is the whole of what it prints.
-/
import Marginalia.Text.CodePoint

namespace Marginalia

-- =============================================================== tables

/-- The side of its column that a cell stands on. -/
inductive Side where
  | left
  | right
  deriving DecidableEq, Repr

/-- What becomes of a word that is longer than a line: it is continued on the
next one, or loses its end to an ellipsis. -/
inductive Overflow where
  | fold
  | ellipsis
  deriving DecidableEq, Repr

/-- A column: its heading, where its cells stand, and what becomes of long
words in them. -/
structure Column where
  heading : Text
  side : Side := .left
  overflow : Overflow := .ellipsis

/-- A table: a title if it has one, its columns, and the cells of its
rows. -/
structure Grid where
  title : Option Text
  columns : List Column
  rows : List (List Text)

-- ============================================================ consoles

/-- Why a console prints nothing: what it was given is no markup, or has a
style with a part that is no value. -/
inductive Console.Fault where
  | markup (reason : Text)
  | value (reason : Text)
  deriving DecidableEq, Repr

/-- A console: how many cells its lines have, a text as markup, what a markup
shows, and what comes out for a text and for a table, each with its line
ends. -/
structure Console where
  width : Nat
  escape : Text → Text
  markup : Text → Except Console.Fault Text
  printed : Text → Text
  table : Grid → Text

namespace Console

/-- May a tag begin with this? -/
def opensTag : CodePoint → Bool
  | .scalar c => ('a' ≤ c && c ≤ 'z') || c == '#' || c == '/' || c == '@'
  | .surrogate _ => false

/-- The controls that a terminal acts on: the bell, the backspace, the two
vertical feeds and the carriage return. -/
def isControl (c : CodePoint) : Bool :=
  [0x07, 0x08, 0x0B, 0x0C, 0x0D].contains c.toNat

end Console

end Marginalia
