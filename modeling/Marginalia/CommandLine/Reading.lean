/-
The reader of command lines of the program. A long option is written whole, its
value after an equals sign or as the next argument; short options may be run
together, the last of them with its value right behind it or as the next
argument. Options and other arguments may come in any order; after two dashes
alone nothing is an option any more. A value may look like an option.
-/
import Marginalia.CommandLine.Number
import Marginalia.CommandLine.Options

namespace Marginalia.Options

-- ========================================================= one argument

/-- The option with a name. -/
def find? (specs : List Spec) (name : Text) : Option Spec :=
  specs.find? fun s => s.names.contains name

/-- The name that stands for an option. -/
def Spec.main (s : Spec) : Text := s.names.headD []

/-- What one argument gives: options with values, and an option that waits
for the next argument. -/
structure Piece where
  options : List (Text × Text)
  waiting : Option Text

/-- Reads short options that are run together. -/
def readShort (specs : List Spec) : Text → Option Piece
  | [] => some ⟨[], none⟩
  | c :: rest =>
    match find? specs [.scalar '-', c] with
    | none => none
    | some s =>
      if s.takesValue then
        if rest.isEmpty then some ⟨[], some s.main⟩
        else some ⟨[(s.main, rest)], none⟩
      else
        (readShort specs rest).map fun p =>
          ⟨(s.main, []) :: p.options, p.waiting⟩

/-- The name of a long option and the value after its equals sign. -/
def splitValue (argument : Text) : Text × Option Text :=
  match Text.cut? "=" argument with
  | some (name, value) => (name, some value)
  | none => (argument, none)

/-- Does the text start with two dashes? -/
def isLong (t : Text) : Bool := Text.startsWith t "--"

/-- Reads one argument that starts with a dash. -/
def readOption (specs : List Spec) (argument : Text) : Option Piece :=
  let (name, value) := splitValue argument
  match if isLong name then find? specs name else none with
  | some s =>
    match s.takesValue, value with
    | true, some v => some ⟨[(s.main, v)], none⟩
    | true, none => some ⟨[], some s.main⟩
    | false, none => some ⟨[(s.main, [])], none⟩
    | false, some _ => none
  | none => if isLong argument then none else readShort specs (argument.drop 1)

-- ======================================================== all arguments

/-- Options before what is given already. -/
def Given.before (options : List (Text × Text)) (g : Given) : Given :=
  ⟨options ++ g.options, g.arguments⟩

/-- Reads all arguments of a command; nothing when they break its rules. -/
def read (specs : List Spec) : List Text → Option Given
  | [] => some ⟨[], []⟩
  | argument :: rest =>
    if argument = "--" then some ⟨[], rest⟩
    else if isOption argument then
      match readOption specs argument with
      | none => none
      | some ⟨options, none⟩ => (read specs rest).map (.before options)
      | some ⟨options, some name⟩ =>
        match rest with
        | [] => none
        | value :: rest =>
          (read specs rest).map (.before (options ++ [(name, value)]))
    else
      (read specs rest).map fun g => ⟨g.options, argument :: g.arguments⟩

/-- The reader of the program. -/
def reader : Reader := ⟨read, readInt?⟩

end Marginalia.Options
