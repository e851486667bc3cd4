/-
Decoded data: the values that annotations carry and that settings files
hold. A scalar is what an annotation may have as its value; arrays and
objects occur only inside property blocks and settings. Objects keep the
order of their members.
-/
import Marginalia.Assoc
import Marginalia.Decimal.Binary64

namespace Marginalia

/-- A value without structure. -/
inductive Scalar where
  | null
  | bool (b : Bool)
  | int (n : Int)
  | float (x : Binary64)
  | str (s : Text)
  deriving DecidableEq, Repr

/-- A value: a scalar, an array, or an object with its members in
order. -/
inductive Json where
  | scalar (s : Scalar)
  | array (items : List Json)
  | object (members : List (Text × Json))

namespace Json

instance : Inhabited Json := ⟨.scalar .null⟩

/-- A text as a value. -/
def str (s : Text) : Json := .scalar (.str s)

/-- The text that a value is, if it is one. -/
def str? : Json → Option Text
  | .scalar (.str s) => some s
  | _ => none

/-- What kind of value a message calls this one. -/
def kindName : Json → Text
  | .scalar .null => "NoneType"
  | .scalar (.bool _) => "bool"
  | .scalar (.int _) => "int"
  | .scalar (.float _) => "float"
  | .scalar (.str _) => "str"
  | .array _ => "list"
  | .object _ => "dict"

end Json

end Marginalia
