/-
The tokens of literal values. White space separates them and a backslash
joins a line with the next one; inside parentheses and braces line ends
separate too, outside of them they are tokens of their own. A comment runs
from a hash to the end of its line. No line outside of brackets may begin
with white space.
-/
import Marginalia.Decimal.DigitLimit
import Marginalia.Text.Blank

namespace Marginalia.Literal

-- =============================================================== tokens

/-- A number: whole, with a fraction or an exponent, or imaginary. -/
inductive Number where
  | whole (n : Nat)
  | real
  | imaginary
  deriving DecidableEq, Repr

/-- A token; a text is a row of characters or a row of bytes, and a mark is
a bracket, a comma, a colon or a sign. -/
inductive Token where
  | number (n : Number)
  | text (isBytes : Bool)
  | word (name : Text)
  | dots
  | mark (c : CodePoint)
  | lineEnd
  deriving DecidableEq, Repr

/-- What was read and the text after it. -/
abbrev Read (α : Type) := Option (α × Text)

-- ============================================================== numbers

/-- Digits with single underscores between or before them, and the rest. -/
def digitRun (isDigit : CodePoint → Bool) : Text → Read Text
  | [] => some ([], [])
  | c :: t =>
    if isDigit c then (digitRun isDigit t).map fun r => (c :: r.1, r.2)
    else if c = .scalar '_' then
      if (t.head?).any isDigit then digitRun isDigit t else none
    else some ([], c :: t)

/-- The bases that a letter after a zero marks. -/
def base? (c : CodePoint) : Option Nat :=
  if c = .scalar 'x' || c = .scalar 'X' then some 16
  else if c = .scalar 'o' || c = .scalar 'O' then some 8
  else if c = .scalar 'b' || c = .scalar 'B' then some 2
  else none

/-- Is this a digit of a base? -/
def isDigitOf (base : Nat) (c : CodePoint) : Bool :=
  match c.hexDigit? with
  | some d => d < base
  | none => false

/-- The fraction of a number, if one comes, and the rest. -/
def readFraction (t : Text) : Read Bool :=
  match t with
  | .scalar '.' :: rest =>
    if (rest.head?).any (·.isDigit) then
      (digitRun (·.isDigit) rest).map fun r => (true, r.2)
    else some (true, rest)
  | _ => some (false, t)

/-- The exponent of a number, if one comes, and the rest. -/
def readExponent (t : Text) : Read Bool :=
  match t with
  | [] => some (false, t)
  | e :: rest =>
    if e = .scalar 'e' || e = .scalar 'E' then
      let body := match rest with
        | .scalar '+' :: body | .scalar '-' :: body => body
        | body => body
      if (body.head?).any (·.isDigit) then
        (digitRun (·.isDigit) body).map fun r => (true, r.2)
      else none
    else some (false, t)

/-- What digits of a whole number spell: zeros may stand in front of zeros
only, and there is a limit to their number. -/
def wholeOf? (digits : Text) : Option Number :=
  if DigitLimit.digits < digits.length then none
  else if digits.head? = some (.scalar '0')
      && digits.any (· != .scalar '0') then none
  else some (.whole (Text.digitsValue digits))

/-- Reads a decimal number. -/
def readDecimal (t : Text) : Option (Number × Text) := do
  let (digits, t) ← digitRun (·.isDigit) t
  let (hasFraction, t) ← readFraction t
  let (hasExponent, t) ← readExponent t
  match t with
  | .scalar 'j' :: t | .scalar 'J' :: t => some (.imaginary, t)
  | t =>
    if hasFraction || hasExponent then some (.real, t)
    else (wholeOf? digits).map fun n => (n, t)

/-- Reads a number; no letter may stand right behind it. -/
def readNumber (t : Text) : Option (Number × Text) := do
  let (n, rest) ←
    match t with
    | .scalar '0' :: c :: rest =>
      match base? c with
      | some base =>
        match digitRun (isDigitOf base) rest with
        | some (d :: digits, rest) =>
          some (Number.whole ((d :: digits).foldl
            (fun n c => base * n + c.hexDigit?.getD 0) 0), rest)
        | _ => none
      | none => readDecimal t
    | _ => readDecimal t
  match rest with
  | [] => some (n, rest)
  | c :: _ =>
    if c.isLetter || c.isDigit || c = .scalar '_' || 0x80 ≤ c.toNat then none
    else some (n, rest)

-- ================================================================ texts

/-- What the letters before a quote say of a text. -/
structure TextForm where
  isRaw : Bool
  isBytes : Bool

/-- The form that the letters before a quote mean, in any case. -/
def form? (letters : Text) : Option TextForm :=
  let small := letters.map fun c =>
    if 0x41 ≤ c.toNat && c.toNat ≤ 0x5A then .ofNat (c.toNat + 32) else c
  ([ ("", ⟨false, false⟩), ("u", ⟨false, false⟩), ("r", ⟨true, false⟩),
     ("b", ⟨false, true⟩), ("br", ⟨true, true⟩), ("rb", ⟨true, true⟩) ] :
    List (Text × TextForm)).lookup small

/-- The inside of a text up to its closing quotes, `wanted` of them, and
the rest. A backslash takes the next code point with it, and only three
quotes hold a text of several lines. `fuel` is at least the length. -/
def readInside (quote : CodePoint) (isLong : Bool) : Nat → Text → Read Text
  | 0, _ => none
  | _ + 1, [] => none
  | fuel + 1, c :: t =>
    let closing : Text :=
      List.replicate (if isLong then 3 else 1) quote
    let go (piece rest : Text) : Read Text :=
      (readInside quote isLong fuel rest).map fun r => (piece ++ r.1, r.2)
    if Text.startsWith (c :: t) closing then
      some ([], (c :: t).drop closing.length)
    else if c = .scalar '\n' && !isLong then none
    else if c = .scalar '\\' then
      match t with
      | [] => none
      | d :: rest => go [c, d] rest
    else go [c] t

/-- Are there so many hexadecimal digits at the head of a text, spelling a
code point? -/
def hasCode (width : Nat) (t : Text) : Bool :=
  let digits := t.take width
  digits.length == width && digits.all (fun c => c.hexDigit?.isSome)
    && digits.foldl (fun n c => 16 * n + c.hexDigit?.getD 0) 0 < 0x110000

/-- May this stand in the name of a character? -/
def isNameLetter (c : CodePoint) : Bool :=
  c.isLetter || c.isDigit || c = .scalar ' ' || c = .scalar '-'

/-- The text after a name in braces. -/
def afterName? : Text → Option Text
  | .scalar '\x7b' :: t =>
    let name := t.takeWhile isNameLetter
    match t.drop name.length with
    | .scalar '\x7d' :: rest => if name.isEmpty then none else some rest
    | _ => none
  | _ => none

/-- Checks the escapes of a text that is not raw, and that bytes are in
ASCII. `fuel` is at least the length. -/
def isProper (form : TextForm) : Nat → Text → Bool
  | 0, _ => true
  | _ + 1, [] => true
  | fuel + 1, c :: t =>
    if c = .scalar '\\' && !form.isRaw then
      match t with
      | [] => true
      | d :: rest =>
        if d = .scalar 'x' then hasCode 2 rest && isProper form fuel rest
        else if form.isBytes then isProper form fuel rest
        else if d = .scalar 'u' then
          hasCode 4 rest && isProper form fuel rest
        else if d = .scalar 'U' then
          hasCode 8 rest && isProper form fuel rest
        else if d = .scalar 'N' then
          match afterName? rest with
          | some rest => isProper form fuel rest
          | none => false
        else isProper form fuel rest
    else (!form.isBytes || c.toNat < 0x80) && isProper form fuel t

/-- Reads a text from its quotes on. -/
def readText (form : TextForm) (quote : CodePoint) (t : Text) : Read Token :=
  let isLong := Text.startsWith t [quote, quote, quote]
  let body := t.drop (if isLong then 3 else 1)
  match readInside quote isLong body.length body with
  | some (inside, rest) =>
    if isProper form inside.length inside then
      some (.text form.isBytes, rest)
    else none
  | none => none

-- ============================================================== reading

/-- Reads a word, or a text with letters before its quotes. -/
def readWord (t : Text) : Read Token :=
  let name := t.takeWhile fun c => c.isLetter || c.isDigit || c = .scalar '_'
  match t.drop name.length with
  | [] => some (.word name, [])
  | c :: rest =>
    if 0x80 ≤ c.toNat then none
    else if c = .scalar '"' || c = .scalar '\'' then
      (form? name).bind fun form => readText form c (c :: rest)
    else some (.word name, c :: rest)

/-- Reads the token at the head of a text, which is no space. -/
def readToken (t : Text) : Read Token :=
  match t with
  | [] => none
  | c :: rest =>
    if c.isLetter || c = .scalar '_' then readWord t
    else if c.isDigit then
      (readNumber t).map fun r => (.number r.1, r.2)
    else if c = .scalar '.' then
      if (rest.head?).any (·.isDigit) then
        (readNumber t).map fun r => (.number r.1, r.2)
      else if Text.startsWith rest ".." then some (.dots, rest.drop 2)
      else none
    else if c = .scalar '"' || c = .scalar '\'' then
      readText ⟨false, false⟩ c t
    else if (Text.ofString "()\x7b\x7d,:+-").contains c then
      some (.mark c, rest)
    else none

/-- The spaces that separate tokens on one line. -/
def isSpace (c : CodePoint) : Bool :=
  c = .scalar ' ' || c = .scalar '\t' || c = .ofNat 0x0C

/-- How deep brackets may nest. -/
def maxDepth : Nat := 200

/-- How deep the brackets are after a token, unless that is too deep. -/
def depthAfter? (depth : Nat) : Token → Option Nat
  | .mark c =>
    if c = .scalar '(' || c = .scalar '\x7b' then
      if depth < maxDepth then some (depth + 1) else none
    else if c = .scalar ')' || c = .scalar '\x7d' then some (depth - 1)
    else some depth
  | _ => some depth

/-- The tokens of a text. `depth` is the number of open brackets, `indent`
how far a line has been indented of which no token was read yet, and `fuel`
is at least the length. -/
def tokensFrom (depth : Nat) (indent : Option Nat) :
    Nat → Text → Option (List Token)
  | 0, t => if t.isEmpty then some [] else none
  | _ + 1, [] => some []
  | fuel + 1, c :: t =>
    if isSpace c then
      let further := indent.map fun n =>
        if c = .ofNat 0x0C then 0 else n + 1
      tokensFrom depth further fuel t
    else if c = .scalar '#' then
      tokensFrom depth indent fuel (t.dropWhile (· != .scalar '\n'))
    else if c = .scalar '\\' then
      match t with
      | .scalar '\n' :: d :: rest => tokensFrom depth indent fuel (d :: rest)
      | _ => none
    else if c = .scalar '\n' then
      if 0 < depth then tokensFrom depth indent fuel t
      else
        let rest := tokensFrom depth (some 0) fuel t
        if indent.isSome then rest else rest.map (.lineEnd :: ·)
    else if depth = 0 && 0 < indent.getD 0 then none
    else
      match readToken (c :: t) with
      | none => none
      | some (token, rest) =>
        match depthAfter? depth token with
        | none => none
        | some depth =>
          (tokensFrom depth none fuel rest).map (token :: ·)

/-- A text with LF for every line end, be it CR, LF or both. -/
def joinLineEnds : Text → Text
  | [] => []
  | .scalar '\r' :: .scalar '\n' :: t => .scalar '\n' :: joinLineEnds t
  | .scalar '\r' :: t => .scalar '\n' :: joinLineEnds t
  | c :: t => c :: joinLineEnds t

/-- The tokens of a text, if it can be cut into tokens. -/
def tokens (t : Text) : Option (List Token) :=
  let t := joinLineEnds t
  tokensFrom 0 (some 0) (t.length + 1) t

end Marginalia.Literal
