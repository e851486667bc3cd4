/-
Whole numbers as arguments. The plain form is decimal digits without zeros
in front, with a minus sign if need be. Beside it a number may have a plus
sign, zeros in front, a fraction of zeros, and single underscores between
its digits; white space around it does not count. A number may not have
more digits than the limit allows, of which the zeros in front are not
counted.
-/
import Marginalia.Decimal.DigitLimit
import Marginalia.Text.Blank

namespace Marginalia.Options

-- ========================================================== plain form

/-- White space around a number: the four information separators are not
among it. -/
def isPadding (c : CodePoint) : Bool :=
  c.isBlank && !(0x1C ≤ c.toNat && c.toNat ≤ 0x1F)

/-- The text without white space at either end. -/
def unpadded (t : Text) : Text :=
  ((t.dropWhile isPadding).reverse.dropWhile isPadding).reverse

/-- Are these the digits of a number, without zeros in front? -/
def isPlain (digits : Text) : Bool :=
  !digits.isEmpty && digits.all (·.isDigit)
    && (digits.length == 1 || digits.head? != some (.scalar '0'))

/-- The number that a text in the plain form spells; the sign counts
against the limit. -/
def readPlain? (t : Text) : Option Int :=
  if DigitLimit.digits < t.length then none
  else
    match t with
    | .scalar '-' :: digits =>
      if isPlain digits then some (-(Text.digitsValue digits : Int)) else none
    | digits =>
      if isPlain digits then some (Text.digitsValue digits) else none

-- ========================================================= looser form

/-- The text after zeros and underscores of which `last` came last. A point
takes that one with it, and so does the end. -/
def afterZeros? (last : CodePoint) : Text → Option Text
  | [] => some [last]
  | c :: t =>
    if c = .scalar '0' || c = .scalar '_' then afterZeros? c t
    else if c.isDigit then some (c :: t)
    else if c = .scalar '.' then some (last :: c :: t)
    else none

/-- The text without zeros in front; what starts with a minus sign keeps
them. -/
def dropZeros? : Text → Option Text
  | [] => none
  | c :: t =>
    if c = .scalar '0' then afterZeros? c t
    else if c.isDigit || c = .scalar '-' then some (c :: t)
    else none

/-- The text without a fraction of zeros. -/
def dropFraction (t : Text) : Text :=
  match Text.cut? "." t with
  | some (whole, fraction) =>
    if fraction.all (· == .scalar '0') then whole else t
  | none => t

/-- The text without underscores, when each of them stands alone between
two other code points. -/
def dropUnderscores (t : Text) : Text :=
  if Text.startsWith t "_" || Text.endsWith t "_"
      || (Text.cut? "__" t).isSome then t
  else t.filter (· != .scalar '_')

/-- The text without a plus sign in front; no other sign may follow it. -/
def dropPlus? : Text → Option Text
  | .scalar '+' :: .scalar '-' :: _ => none
  | .scalar '+' :: t => some t
  | t => some t

/-- The number that an argument spells. -/
def readInt? (t : Text) : Option Int :=
  let t := unpadded t
  match readPlain? t with
  | some n => some n
  | none =>
    ((dropPlus? t).bind dropZeros?).bind fun t =>
      readPlain? (dropUnderscores (dropFraction t))

end Marginalia.Options
