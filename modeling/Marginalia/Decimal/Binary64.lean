/-
Double-precision numbers, exactly. A finite one is a significand times a
power of two, with the significand below `2 ^ 53` and the exponent between
`-1074` and `971`, kept in the form with the largest significand; there
are two zeros, told apart by their sign.

Rounding works on an exact quotient of natural numbers: the exponent is the
one that leaves 53 bits before the point (or the least one, where fewer
bits remain), and a half goes to the even neighbour. A quotient that rounds
past the largest finite number is infinite.
-/

namespace Marginalia

/-- A double-precision number: `± significand * 2 ^ exponent`, an infinity,
or no number at all. -/
inductive Binary64 where
  | finite (negative : Bool) (significand : Nat) (exponent : Int)
  | infinite (negative : Bool)
  | nan
  deriving DecidableEq, Repr

namespace Binary64

/-- The exponent of the subnormal numbers and of zero. -/
def leastExponent : Int := -1074

/-- The exponent of the largest finite numbers. -/
def greatestExponent : Int := 971

/-- Zero with a sign. -/
def zero (negative : Bool) : Binary64 := .finite negative 0 leastExponent

/-- Is this a finite number? -/
def isFinite : Binary64 → Bool
  | .finite .. => true
  | _ => false

-- =========================================================== rounding

/-- The quotient rounded to a whole number, a half to the even one. -/
def roundHalfEven (num den : Nat) : Nat :=
  let q := num / den
  let r := num % den
  if 2 * r < den then q else if den < 2 * r then q + 1 else q + q % 2

/-- The quotient divided by `base ^ exponent`, again as a quotient. -/
def scaleDown (base num den : Nat) : Int → Nat × Nat
  | .ofNat k => (num, den * base.pow k)
  | .negSucc k => (num * base.pow (k + 1), den)

/-- The exponent of the number that a positive quotient rounds to: 53 bits
before the point, or fewer at the least exponent. -/
def exponentFor (num den : Nat) : Int :=
  let guess : Int := (num.log2 : Int) - den.log2 - 53
  let (n, d) := scaleDown 2 num den guess
  max (if n / d < Nat.pow 2 53 then guess else guess + 1) leastExponent

/-- The number nearest to a quotient. -/
def ofQuotient (negative : Bool) (num den : Nat) : Binary64 :=
  if num = 0 then zero negative
  else
    let e := exponentFor num den
    let (n, d) := scaleDown 2 num den e
    let m := roundHalfEven n d
    let (m, e) := if m = Nat.pow 2 53 then (Nat.pow 2 52, e + 1) else (m, e)
    if greatestExponent < e then .infinite negative
    else .finite negative m e

/-- The number nearest to `digits * 10 ^ exponent`. What is far outside the
range of finite numbers is settled by its order of magnitude, so that no
huge power is ever built. A power of two has between 30102 and 30103 decimal
places for every 100000 binary ones, so the order is estimated from above
where a number may be too small, and from below where it may be too
large. -/
def ofDecimal (negative : Bool) (digits : Nat) (exponent : Int) : Binary64 :=
  let order (rate : Nat) : Int :=
    (digits.log2 * rate / 100000 : Nat) + exponent
  if digits = 0 || order 30103 < -400 then zero negative
  else if 400 < order 30102 then .infinite negative
  else
    let (n, d) := scaleDown 10 digits 1 (-exponent)
    ofQuotient negative n d

end Binary64

end Marginalia
