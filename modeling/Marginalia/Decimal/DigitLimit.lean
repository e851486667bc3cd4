/-
The limit on the digits of whole numbers. A decimal text of more digits is
not turned into a number, and a number of more digits is not turned into a
text, since both take time that grows with the square of the length. The
limit concerns decimal digits only: other bases are read without it.
-/
import Marginalia.Text.CodePoint

namespace Marginalia.DigitLimit

/-- How many decimal digits a whole number may have. -/
def digits : Nat := 4300

/-- The words that both refusals begin with. -/
def exceeded : Text :=
  "Exceeds the limit (" ++ Text.ofNat digits
    ++ " digits) for integer string conversion"

/-- The advice that both refusals end with. -/
def advice : Text :=
  "; use sys.set_int_max_str_digits() to increase the limit"

/-- What is said of a text of too many digits. -/
def readMessage (count : Nat) : Text :=
  exceeded ++ ": value has " ++ Text.ofNat count ++ " digits" ++ advice

/-- What is said of a number that takes too many digits. -/
def writeMessage : Text := exceeded ++ advice

/-- Can the number be written within the limit? -/
def canWrite (n : Int) : Bool := n.natAbs < Nat.pow 10 digits

end Marginalia.DigitLimit
