/-
The shortest decimal text of a double-precision number: the fewest digits
that read back as the same number, and of those the nearest to it.

For one digit, two digits and so on up to seventeen, the two neighbours of
the number on that decimal grid are tried; the first grid on which one of
them reads back gives the digits. Seventeen digits always suffice.
-/
import Marginalia.Text.CodePoint
import Marginalia.Decimal.Binary64

namespace Marginalia.Binary64

-- ============================================================= digits

/-- A decimal number `digits * 10 ^ exponent`. -/
structure Decimal where
  digits : Nat
  exponent : Int
  deriving DecidableEq, Repr

/-- The exponent `e` with `10 ^ e ≤ num / den < 10 ^ (e + 1)`, for a
positive quotient; the estimate from the binary logarithms is at most two
too small. -/
def decimalExponent (num den : Nat) : Int :=
  let bits : Int := (num.log2 : Int) - den.log2 - 1
  let guess := bits * 30103 / 100000
  let reaches (e : Int) : Bool :=
    let (n, d) := scaleDown 10 num den e
    d ≤ n
  if reaches (guess + 2) then guess + 2
  else if reaches (guess + 1) then guess + 1
  else guess

/-- Of the two neighbours of `num / den` among the numbers with `count`
digits, those that read back as `x`, the nearer one first; on a tie the
even one comes first. -/
def candidates (x : Binary64) (negative : Bool) (num den count : Nat) :
    List Decimal :=
  let k := decimalExponent num den - count + 1
  let (n, d) := scaleDown 10 num den k
  let low := n / d
  let nearer := roundHalfEven n d
  [nearer, if nearer = low then low + 1 else low].filterMap fun digits =>
    if ofDecimal negative digits k = x then some ⟨digits, k⟩ else none

/-- Drops the zeros at the end of the digits, at most `fuel` of them. -/
def Decimal.trimmed : Nat → Decimal → Decimal
  | 0, d => d
  | fuel + 1, d =>
    if d.digits ≠ 0 ∧ d.digits % 10 = 0 then
      trimmed fuel ⟨d.digits / 10, d.exponent + 1⟩
    else d

/-- The shortest decimal that reads back as the finite number. -/
def shortest (negative : Bool) (significand : Nat) (exponent : Int) :
    Decimal :=
  if significand = 0 then ⟨0, 0⟩
  else
    let (num, den) := scaleDown 2 significand 1 (-exponent)
    let x := finite negative significand exponent
    let found := (List.range 17).findSome? fun i =>
      (candidates x negative num den (i + 1)).head?
    (found.getD ⟨significand, exponent⟩).trimmed 17

-- =============================================================== text

/-- How a number is written: with its digits around a point while the
exponent of its first digit lies between the bounds, and otherwise with an
exponent of at least `width` digits after its sign. -/
structure Layout where
  leastFixed : Int
  greatestFixed : Int
  width : Nat

/-- The digits of an exponent, padded with zeros to the least width. -/
def Layout.exponentDigits (layout : Layout) (n : Nat) : Text :=
  let digits := Text.ofNat n
  List.replicate (layout.width - digits.length) (.scalar '0') ++ digits

/-- A decimal written out. A number without fraction keeps one zero after
the point. -/
def Layout.write (layout : Layout) (d : Decimal) : Text :=
  let digits := Text.ofNat d.digits
  let zeros (n : Nat) : Text := List.replicate n (.scalar '0')
  let point := digits.length + d.exponent
  let first := point - 1
  if d.digits = 0 then "0.0"
  else if layout.leastFixed ≤ first && first ≤ layout.greatestFixed then
    if point ≤ 0 then "0." ++ zeros (-point).toNat ++ digits
    else if digits.length ≤ point then
      digits ++ zeros (point - digits.length).toNat ++ ".0"
    else digits.take point.toNat ++ "." ++ digits.drop point.toNat
  else
    let fraction : Text := digits.drop 1
    let tail : Text := if fraction.isEmpty then [] else "." ++ fraction
    let sign : Text := if first < 0 then "-" else "+"
    digits.take 1 ++ tail ++ "e" ++ sign
      ++ layout.exponentDigits first.natAbs

/-- Numbers have their digits around the point from `0.0001` up to below
`10 ^ 16`, and exponents of at least two digits. -/
def layout : Layout := ⟨-4, 15, 2⟩

/-- The text of a number. -/
def toText : Binary64 → Text
  | .finite negative m e =>
    let sign : Text := if negative then "-" else []
    sign ++ layout.write (shortest negative m e)
  | .infinite negative => if negative then "-inf" else "inf"
  | .nan => "nan"

end Marginalia.Binary64
