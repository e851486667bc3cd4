/-
Options on a command line: those that a command takes, and what was given of
them. How a command line is read is not of this library. What is written here
is what a run hands to the reader and what it gets back (`Reader`).
-/
import Marginalia.Text.CodePoint

namespace Marginalia.Options

-- ============================================================= options

/-- An option: the names it may be given by, and whether it takes a
value. The first name stands for it. -/
structure Spec where
  names : List Text
  takesValue : Bool

/-- What was given: options with their values, in order, and the other
arguments. -/
structure Given where
  options : List (Text × Text)
  arguments : List Text

/-- Is this argument an option? A dash alone is not. -/
def isOption (argument : Text) : Bool :=
  Text.startsWith argument "-" && 1 < argument.length

namespace Given

/-- All values of an option, in order. -/
def values (g : Given) (name : Text) : List Text :=
  (g.options.filter fun o => o.1 == name).map (·.2)

/-- The value of an option that counts: the last one. -/
def value? (g : Given) (name : Text) : Option Text :=
  (g.values name).getLast?

/-- Was the option given? -/
def has (g : Given) (name : Text) : Bool := !(g.values name).isEmpty

/-- The choice between an option and its opposite: the one given last. -/
def choice? (g : Given) (yes no : Text) : Option Bool :=
  ((g.options.filter fun o => o.1 == yes || o.1 == no).getLast?).map
    fun o => o.1 == yes

end Given

/-- A reader of command lines: what was given, by the options that may be, or
nothing when they break the rules, and the whole number that an argument
spells. -/
structure Reader where
  given? : List Spec → List Text → Option Given
  number? : Text → Option Int

end Marginalia.Options
