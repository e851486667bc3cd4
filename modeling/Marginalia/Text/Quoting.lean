/-
Double-quoted strings inside a larger text, without decoding them. A text
is walked one code point at a time, and at every point it is outside any
string, inside one, or just after a backslash inside one; a quote that is
not escaped opens or closes a string. All questions about brackets, commas
and nesting depth are asked outside strings, so they all walk this way, and
a string that is never closed hides everything after it.
-/
import Marginalia.Text.CodePoint

namespace Marginalia

-- =========================================================== the walk

/-- Where a walk stands with respect to quoted strings. -/
inductive Quoting where
  | outside
  | inside
  | escaped
  deriving DecidableEq, Repr

/-- Where the walk stands after one more code point. -/
def Quoting.step : Quoting → CodePoint → Quoting
  | .outside, c => if c = .scalar '"' then .inside else .outside
  | .inside, c =>
    if c = .scalar '\\' then .escaped
    else if c = .scalar '"' then .outside
    else .inside
  | .escaped, _ => .inside

namespace Text

-- ============================================================== spans

/-- How many code points there are up to the quote that closes the string,
that quote included, when the walk stands as `q` says, which is not
outside. -/
def closingQuote (q : Quoting) : Text → Option Nat
  | [] => none
  | c :: t =>
    match q.step c with
    | .outside => some 1
    | q' => (closingQuote q' t).map (· + 1)

/-- The length of the quoted string that the text starts with. The first
code point is taken for its opening quote. -/
def stringSpan : Text → Option Nat
  | [] => none
  | _ :: t => (closingQuote .inside t).map (· + 1)

/-- How far it is past the brace that brings the depth, counted outside
strings, back to zero. -/
def braceSpanFrom (q : Quoting) (depth : Int) : Text → Option Nat
  | [] => none
  | c :: t =>
    if q = .outside ∧ c = .scalar '\x7d' ∧ depth = 1 then some 1
    else
      let depth :=
        if q ≠ .outside then depth
        else if c = .scalar '\x7b' then depth + 1
        else if c = .scalar '\x7d' then depth - 1
        else depth
      (braceSpanFrom (q.step c) depth t).map (· + 1)

/-- The length of the block that the text starts with, from its opening
brace to the brace that matches it. -/
def braceSpan (t : Text) : Option Nat := braceSpanFrom .outside 0 t

/-- How far it is past the first closing bracket outside strings. -/
def bracketSpanFrom (q : Quoting) : Text → Option Nat
  | [] => none
  | c :: t =>
    if q = .outside ∧ c = .scalar ']' then some 1
    else (bracketSpanFrom (q.step c) t).map (· + 1)

/-- The length of the bracketed list that the text starts with. The first
code point is taken for its opening bracket. -/
def bracketSpan : Text → Option Nat
  | [] => none
  | _ :: t => (bracketSpanFrom .outside t).map (· + 1)

-- ============================================================== depth

/-- Does some point of the text lie, outside strings, inside more than
`limit` brackets and braces? The depth is that at the start; a closing
bracket lowers it even where nothing is open. -/
def nestsDeeperFrom (limit : Int) (q : Quoting) (depth : Int) : Text → Bool
  | [] => false
  | c :: t =>
    if q = .outside ∧ (c = .scalar '[' ∨ c = .scalar '\x7b') then
      limit < depth + 1 || nestsDeeperFrom limit (q.step c) (depth + 1) t
    else if q = .outside ∧ (c = .scalar ']' ∨ c = .scalar '\x7d') then
      nestsDeeperFrom limit (q.step c) (depth - 1) t
    else nestsDeeperFrom limit (q.step c) depth t

/-- Does the text nest brackets and braces deeper than `limit`? -/
def nestsDeeper (limit : Nat) (t : Text) : Bool :=
  nestsDeeperFrom limit .outside 0 t

-- ============================================================= pieces

/-- The pieces between the commas that stand outside strings. -/
def commaPiecesFrom (q : Quoting) : Text → List Text
  | [] => [[]]
  | c :: t =>
    if q = .outside ∧ c = .scalar ',' then [] :: commaPiecesFrom .outside t
    else
      match commaPiecesFrom (q.step c) t with
      | [] => [[c]]
      | piece :: pieces => (c :: piece) :: pieces

/-- The pieces of a list, cut at the commas outside strings. -/
def commaPieces (t : Text) : List Text := commaPiecesFrom .outside t

end Text

end Marginalia
