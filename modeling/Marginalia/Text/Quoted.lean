/-
The quoted form of a text inside a message: between single quotes, or
between double quotes when it holds a single quote and no double one, with
the chosen quote and the backslash escaped and everything that cannot be
shown written as a numeric escape.
-/
import Marginalia.Text.Printable

namespace Marginalia.Text

/-- The quote that a text is put between. -/
def quoteFor (t : Text) : CodePoint :=
  if t.contains (.scalar '\'') && !t.contains (.scalar '"') then .scalar '"'
  else .scalar '\''

/-- One code point as it stands inside quotes. -/
def quotedPoint (quote c : CodePoint) : Text :=
  if c = quote || c = .scalar '\\' then [.scalar '\\', c]
  else if c = .scalar '\n' then "\\n"
  else if c = .scalar '\r' then "\\r"
  else if c = .scalar '\t' then "\\t"
  else if c.isPrintable then [c]
  else if c.toNat < 0x100 then "\\x" ++ ofHex 2 c.toNat
  else if c.toNat < 0x10000 then "\\u" ++ ofHex 4 c.toNat
  else "\\U" ++ ofHex 8 c.toNat

/-- The text between quotes, every code point shown or escaped. -/
def quoted (t : Text) : Text :=
  let quote := quoteFor t
  [quote] ++ t.flatMap (quotedPoint quote) ++ [quote]

end Marginalia.Text
