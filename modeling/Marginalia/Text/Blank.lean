/-
White space as Unicode has it: the characters that trimming removes, that
separate the pieces of a marker, and that make a line blank. The zero-width
space, the byte order mark and the Mongolian vowel separator are not among
them.
-/
import Marginalia.Text.CodePoint

namespace Marginalia

-- ============================================================= blanks

/-- The numbers of the white-space characters. -/
def CodePoint.isBlankNat (n : Nat) : Bool :=
  (0x09 ≤ n && n ≤ 0x0D) || (0x1C ≤ n && n ≤ 0x20) || n == 0x85 || n == 0xA0
    || n == 0x1680 || (0x2000 ≤ n && n ≤ 0x200A) || n == 0x2028 || n == 0x2029
    || n == 0x202F || n == 0x205F || n == 0x3000

/-- Is this code point white space? -/
def CodePoint.isBlank (c : CodePoint) : Bool := isBlankNat c.toNat

namespace Text

/-- Does the text hold white space only? -/
def isBlank (t : Text) : Bool := t.all (·.isBlank)

/-- The text without its leading white space. -/
def trimLeft (t : Text) : Text := t.dropWhile (·.isBlank)

/-- The text without its trailing white space. -/
def trimRight (t : Text) : Text := (trimLeft t.reverse).reverse

/-- The text without white space at either end. -/
def trim (t : Text) : Text := trimRight (trimLeft t)

end Text

end Marginalia
