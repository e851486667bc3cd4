/-
Literal values: numbers with a sign, complex numbers, texts, words for
nothing and for truth, three dots, rows in parentheses, and sets and tables
in braces. Texts in a row are one text. The elements of a set and the keys
of a table may not hold sets or tables.

Only the question whether a text spells a literal value is answered here;
the value itself is of no use to anyone.
-/
import Marginalia.Display.Literal.Token

namespace Marginalia.Literal

-- ============================================================== readings

/-- What a run of tokens spells: a number, with or without a sign, a value
that never changes, one that may, or the word for the empty set before its
parentheses. -/
inductive Reading where
  | number (n : Number) (signed : Bool)
  | constant
  | changing
  | setWord
  deriving DecidableEq, Repr

/-- Is it a value at all? -/
def Reading.isValue (r : Reading) : Bool := r != .setWord

/-- A row of values is one that never changes if all of them are. -/
def Reading.ofRow (values : List Reading) : Reading :=
  if values.contains .changing then .changing else .constant

/-- What was read and the tokens after it. -/
abbrev Parse (α : Type) := Option (α × List Token)

/-- The tokens after a mark, if it comes next. -/
def after? (c : Char) : List Token → Option (List Token)
  | .mark m :: rest => if m = .scalar c then some rest else none
  | _ => none

/-- The first whole number that is too large to be added to an imaginary
one: it would be rounded to two to the power of 1024. -/
def tooLarge : Nat := Nat.pow 2 1024 - Nat.pow 2 970

/-- Can an imaginary number be added to it? -/
def Reading.isSummand : Reading → Bool
  | .number (.whole n) _ => n < tooLarge
  | .number .real _ => true
  | _ => false

/-- The texts that follow a text are part of it; all have to be of one
kind. -/
def afterTexts (isBytes : Bool) : List Token → Option (List Token)
  | .text other :: rest =>
    if other = isBytes then afterTexts isBytes rest else none
  | rest => some rest

/-- A word as a value. -/
def ofWord? (name : Text) : Option Reading :=
  if name = "None" || name = "True" || name = "False" then some .constant
  else if name = "set" then some .setWord
  else none

-- ============================================================== reading

mutual

/-- Reads a sum: a value, or a number and an imaginary one. `fuel` bounds
the steps here and below. -/
def readSum (fuel : Nat) (ts : List Token) : Parse Reading :=
  match fuel with
  | 0 => none
  | fuel + 1 =>
    match readSigned fuel ts with
    | none => none
    | some (left, rest) =>
      match (after? '+' rest).or (after? '-' rest) with
      | none => some (left, rest)
      | some more =>
        match readCalled fuel more with
        | some (.number .imaginary false, rest) =>
          if left.isSummand && (after? '+' rest).isNone
              && (after? '-' rest).isNone then
            some (.constant, rest)
          else none
        | _ => none

/-- Reads a value that may have a sign; only numbers have one. -/
def readSigned (fuel : Nat) (ts : List Token) : Parse Reading :=
  match fuel with
  | 0 => none
  | fuel + 1 =>
    match (after? '+' ts).or (after? '-' ts) with
    | none => readCalled fuel ts
    | some rest =>
      match readCalled fuel rest with
      | some (.number n false, rest) => some (.number n true, rest)
      | _ => none

/-- Reads a value without a sign; the word for the empty set has
parentheses behind it, and nothing else has. -/
def readCalled (fuel : Nat) (ts : List Token) : Parse Reading :=
  match fuel with
  | 0 => none
  | fuel + 1 =>
    match readAtom fuel ts with
    | none => none
    | some (r, rest) =>
      match after? '(' rest with
      | none => some (r, rest)
      | some inside =>
        match r, after? ')' inside with
        | .setWord, some rest =>
          if (after? '(' rest).isSome then none else some (.changing, rest)
        | _, _ => none

/-- Reads one token that is a value, or a row, a set or a table in its
brackets. A value alone in parentheses is that value. -/
def readAtom (fuel : Nat) (ts : List Token) : Parse Reading :=
  match fuel with
  | 0 => none
  | fuel + 1 =>
    match ts with
    | .number n :: rest => some (.number n false, rest)
    | .text isBytes :: rest =>
      (afterTexts isBytes rest).map fun rest => (.constant, rest)
    | .word name :: rest => (ofWord? name).map fun r => (r, rest)
    | .dots :: rest => some (.constant, rest)
    | .mark c :: rest =>
      if c = .scalar '(' then
        match after? ')' rest with
        | some rest => some (.constant, rest)
        | none =>
          match readSum fuel rest with
          | none => none
          | some (r, rest) =>
            match after? ')' rest with
            | some rest => some (r, rest)
            | none =>
              match readMore fuel ')' rest with
              | some (more, rest) =>
                if r.isValue then some (.ofRow (r :: more), rest) else none
              | none => none
      else if c = .scalar '\x7b' then
        match after? '\x7d' rest with
        | some rest => some (.changing, rest)
        | none => readBraces fuel rest
      else none
    | _ => none

/-- Reads the further values of a row, each after a comma, up to its
closing mark; one comma more may come before that. -/
def readMore (fuel : Nat) (closing : Char) (ts : List Token) :
    Parse (List Reading) :=
  match fuel with
  | 0 => none
  | fuel + 1 =>
    match after? closing ts with
    | some rest => some ([], rest)
    | none =>
      match after? ',' ts with
      | none => none
      | some rest =>
        match after? closing rest with
        | some rest => some ([], rest)
        | none =>
          match readSum fuel rest with
          | some (r, rest) =>
            if r.isValue then
              (readMore fuel closing rest).map fun m => (r :: m.1, m.2)
            else none
          | none => none

/-- Reads a set or a table behind its opening brace. -/
def readBraces (fuel : Nat) (ts : List Token) : Parse Reading :=
  match fuel with
  | 0 => none
  | fuel + 1 =>
    match readSum fuel ts with
    | none => none
    | some (r, rest) =>
      if !r.isValue || r == .changing then none
      else
        match after? ':' rest with
        | some rest => readValues fuel rest
        | none =>
          match readMore fuel '\x7d' rest with
          | some (more, rest) =>
            if more.contains .changing then none else some (.changing, rest)
          | none => none

/-- Reads the rest of a table from the value of a key on. -/
def readValues (fuel : Nat) (ts : List Token) : Parse Reading :=
  match fuel with
  | 0 => none
  | fuel + 1 =>
    match readSum fuel ts with
    | none => none
    | some (value, rest) =>
      if !value.isValue then none
      else
        match after? '\x7d' rest with
        | some rest => some (.changing, rest)
        | none =>
          match after? ',' rest with
          | none => none
          | some rest =>
            match after? '\x7d' rest with
            | some rest => some (.changing, rest)
            | none =>
              match readSum fuel rest with
              | none => none
              | some (key, rest) =>
                if !key.isValue || key == .changing then none
                else
                  match after? ':' rest with
                  | some rest => readValues fuel rest
                  | none => none

end

/-- Reads values with commas between them, as many as there are. -/
def readRow : Nat → List Token → Option (List Token)
  | 0, _ => none
  | fuel + 1, ts =>
    match readSum (4 * ts.length + 4) ts with
    | some (r, rest) =>
      if r.isValue then
        match after? ',' rest with
        | none => some rest
        | some rest =>
          match rest with
          | [] | .lineEnd :: _ => some rest
          | _ => readRow fuel rest
      else none
    | none => none

/-- Does the text spell a literal value, or a row of them? -/
def isLiteral (t : Text) : Bool :=
  match tokens t with
  | none => false
  | some ts =>
    match readRow (ts.length + 1) ts with
    | some rest => rest.all (· == .lineEnd)
    | none => false

end Marginalia.Literal
