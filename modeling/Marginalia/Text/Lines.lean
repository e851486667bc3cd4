/-
Physical lines. Only LF, CR and CR LF end a line; form feeds and the
Unicode separators stay inside it, so that line numbers agree with those
of editors and compilers. A terminator at the very end opens no further
line.
-/
import Marginalia.Text.CodePoint

namespace Marginalia

/-- The number of a line. The lines of a text count from 1; who hands on
lines one by one may number them in any way. -/
abbrev LineNumber := Int

namespace Text

/-- The lines of a text, without their terminators. -/
def lines : Text → List Text
  | [] => []
  | .scalar '\r' :: .scalar '\n' :: t => [] :: lines t
  | .scalar '\r' :: t => [] :: lines t
  | .scalar '\n' :: t => [] :: lines t
  | c :: t =>
    match lines t with
    | [] => [[c]]
    | l :: ls => (c :: l) :: ls

end Text

end Marginalia
