/-
Actions of tags. A tag whose name begins with an at-sign ties the text it
holds to an action. Its parameters are the name of what is to be called
with its arguments in parentheses, either of which may be missing, or the
arguments by themselves. Arguments have to be literal values.
-/
import Marginalia.Display.Literal
import Marginalia.Text.WordTable

namespace Marginalia.Action

/-- May this stand in the name of what is called? -/
def isNameLetter (c : CodePoint) : Bool := c.isWord || c == .scalar '.'

/-- The arguments among parameters: what stands in parentheses behind a
name, on one line, and nothing if there is a name only. Parameters of
another form are arguments as a whole. -/
def arguments (parameters : Text) : Text :=
  let t := parameters.trim
  let behind := t.dropWhile isNameLetter
  if behind.isEmpty then "()"
  else if Text.startsWith behind "(" && Text.endsWith behind ")"
      && !behind.contains (.scalar '\n') then behind
  else t

/-- Can the parameters of an action be understood? -/
def isProper : Option Text → Bool
  | none | some [] => true
  | some parameters => Literal.isLiteral (arguments parameters)

end Marginalia.Action
