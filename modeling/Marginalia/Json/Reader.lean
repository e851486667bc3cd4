/-
Reading JSON text. The grammar is the strict one: white space is the space,
the tab, LF and CR; strings hold no bare control characters; numbers have
no leading zeros; nothing follows the value. A repeated member keeps its
first place and its last value. Escapes of a high and a low surrogate that
follow each other are one code point; any other surrogate escape stands for
itself.

Two limits come on top. A number with a fraction or an exponent must have a
finite double nearest to it, and a whole number has at most 4300 digits.
Both, and the names `NaN`, `Infinity` and `-Infinity`, are refused when the
number is reached, so an earlier mistake in the text comes first.

A mistake is reported by what was wrong and by the text that was left when
it was met, from which its column follows.
-/
import Marginalia.Text.Quoting
import Marginalia.Decimal.DigitLimit
import Marginalia.Json.Value

namespace Marginalia.Json

-- ============================================================== errors

/-- What can be wrong with the form of a JSON text. -/
inductive Fault where
  | value
  | memberName
  | colon
  | comma
  | extraData
  | unterminatedString
  | controlCharacter
  | escape
  | unicodeEscape
  | byteOrderMark
  deriving DecidableEq, Repr

/-- The fault in words. -/
def Fault.message : Fault → Text
  | .value => "Expecting value"
  | .memberName => "Expecting property name enclosed in double quotes"
  | .colon => "Expecting ':' delimiter"
  | .comma => "Expecting ',' delimiter"
  | .extraData => "Extra data"
  | .unterminatedString => "Unterminated string starting at"
  | .controlCharacter => "Invalid control character at"
  | .escape => "Invalid \\escape"
  | .unicodeEscape => "Invalid \\uXXXX escape"
  | .byteOrderMark => "Unexpected UTF-8 BOM (decode using utf-8-sig)"

/-- Why a text was refused while it was read; a fault in its form comes
with the text that was left. -/
inductive Failure where
  | malformed (fault : Fault) (left : Text)
  | constant (name : Text)
  | outOfRange (numeral : Text)
  | tooManyDigits (count : Nat)
  | noRoom
  deriving DecidableEq, Repr

/-- Why a text is no value: a fault in its form with its column, or one of
the other refusals. -/
inductive ReadError where
  | malformed (fault : Fault) (column : Nat)
  | constant (name : Text)
  | outOfRange (numeral : Text)
  | tooManyDigits (count : Nat)
  | nestedTooDeeply
  | noRoom
  deriving DecidableEq, Repr

/-- How deep arrays and objects may nest. -/
def maxDepth : Nat := 64

/-- The error in words. -/
def ReadError.message : ReadError → Text
  | .malformed fault column =>
    fault.message ++ " (column " ++ Text.ofNat column ++ ")"
  | .constant name => name ++ " is not valid JSON"
  | .outOfRange numeral => "number " ++ numeral ++ " is out of range"
  | .tooManyDigits count => DigitLimit.readMessage count
  | .nestedTooDeeply =>
    "arrays and objects nest deeper than " ++ Text.ofNat maxDepth ++ " levels"
  | .noRoom => "nested too deeply"

-- ============================================================== spaces

/-- The white space of JSON. -/
def isSpace (c : CodePoint) : Bool :=
  c == .scalar ' ' || c == .scalar '\t' || c == .scalar '\n'
    || c == .scalar '\r'

/-- The text after its leading white space. -/
def skipSpace (t : Text) : Text := t.dropWhile isSpace

-- ============================================================= strings

/-- A piece of a string: a code point as it stands, or the unit that a
numeric escape names. -/
inductive Piece where
  | plain (c : CodePoint)
  | unit (n : Nat)
  deriving DecidableEq, Repr

/-- The character that a backslash and a letter stand for. -/
def shortEscape? (c : CodePoint) : Option CodePoint :=
  if c = .scalar '"' || c = .scalar '\\' || c = .scalar '/' then some c
  else if c = .scalar 'b' then some (.ofNat 0x08)
  else if c = .scalar 'f' then some (.ofNat 0x0C)
  else if c = .scalar 'n' then some (.scalar '\n')
  else if c = .scalar 'r' then some (.scalar '\r')
  else if c = .scalar 't' then some (.scalar '\t')
  else none

/-- The value of four hexadecimal digits. -/
def hexUnit? (a b c d : CodePoint) : Option Nat :=
  match a.hexDigit?, b.hexDigit?, c.hexDigit?, d.hexDigit? with
  | some a, some b, some c, some d => some (((a * 16 + b) * 16 + c) * 16 + d)
  | _, _, _, _ => none

/-- Reads the pieces of a string up to its closing quote. `opening` is the
text from the opening quote on, where a string that never ends is
reported. After the digits of a numeric escape something has to follow. -/
def readPieces (opening : Text) :
    Text → Except Failure (List Piece × Text)
  | [] => .error (.malformed .unterminatedString opening)
  | c :: t =>
    if c = .scalar '"' then .ok ([], t)
    else if c = .scalar '\\' then
      match t with
      | [] => .error (.malformed .unterminatedString opening)
      | e :: rest =>
        if e = .scalar 'u' then
          match rest with
          | h1 :: h2 :: h3 :: h4 :: next :: more =>
            match hexUnit? h1 h2 h3 h4 with
            | some n =>
              (readPieces opening (next :: more)).map fun r =>
                (.unit n :: r.1, r.2)
            | none => .error (.malformed .unicodeEscape (e :: rest))
          | _ => .error (.malformed .unicodeEscape (e :: rest))
        else
          match shortEscape? e with
          | some x =>
            (readPieces opening rest).map fun r => (.plain x :: r.1, r.2)
          | none => .error (.malformed .escape (c :: e :: rest))
    else if c.toNat < 0x20 then
      .error (.malformed .controlCharacter (c :: t))
    else
      (readPieces opening t).map fun r => (.plain c :: r.1, r.2)

/-- The first unit of a surrogate pair. -/
def isHighUnit (n : Nat) : Bool := 0xD800 ≤ n && n < 0xDC00

/-- The second unit of a surrogate pair. -/
def isLowUnit (n : Nat) : Bool := 0xDC00 ≤ n && n < 0xE000

/-- The code point of a surrogate pair. -/
def pairValue (high low : Nat) : Nat :=
  0x10000 + (high - 0xD800) * 0x400 + (low - 0xDC00)

/-- The text of the pieces, escaped pairs joined. -/
def joinPieces : List Piece → Text
  | [] => []
  | .plain c :: rest => c :: joinPieces rest
  | .unit n :: rest =>
    if isHighUnit n then
      match rest with
      | .unit m :: more =>
        if isLowUnit m then .ofNat (pairValue n m) :: joinPieces more
        else .ofNat n :: joinPieces (.unit m :: more)
      | more => .ofNat n :: joinPieces more
    else .ofNat n :: joinPieces rest

/-- Reads a string whose opening quote is the head of the text. -/
def readString : Text → Except Failure (Text × Text)
  | [] => .error (.malformed .value [])
  | quote :: t =>
    (readPieces (quote :: t) t).map fun r => (joinPieces r.1, r.2)

-- ============================================================= numbers

/-- A number as it is written: its sign, the digits before and after the
point, and its exponent. -/
structure Numeral where
  negative : Bool
  whole : Text
  fraction : Option Text
  exponent : Option Int
  deriving DecidableEq, Repr

/-- Is the number written without fraction and exponent? -/
def Numeral.isWhole (n : Numeral) : Bool :=
  n.fraction.isNone && n.exponent.isNone

/-- The whole number. -/
def Numeral.toInt (n : Numeral) : Int :=
  let value : Int := Text.digitsValue n.whole
  if n.negative then -value else value

/-- The nearest double. -/
def Numeral.toBinary64 (n : Numeral) : Binary64 :=
  let fraction := n.fraction.getD []
  .ofDecimal n.negative (Text.digitsValue (n.whole ++ fraction))
    (n.exponent.getD 0 - fraction.length)

/-- The longest run of digits at the start of a text, and the rest. -/
def spanDigits (t : Text) : Text × Text := t.span (·.isDigit)

/-- A minus sign, if the text starts with one. -/
def readMinus : Text → Bool × Text
  | .scalar '-' :: t => (true, t)
  | t => (false, t)

/-- The digits before the point: a zero alone, or digits that do not start
with one. -/
def readWhole? (t : Text) : Option (Text × Text) :=
  match t with
  | [] => none
  | c :: rest =>
    if c = .scalar '0' then some ([c], rest)
    else if c.isDigit then some (spanDigits t)
    else none

/-- A point and at least one digit, or nothing. -/
def readFraction : Text → Option Text × Text
  | .scalar '.' :: t =>
    match spanDigits t with
    | ([], _) => (none, .scalar '.' :: t)
    | (digits, rest) => (some digits, rest)
  | t => (none, t)

/-- A sign of an exponent, if the text starts with one. -/
def readSign : Text → Bool × Text
  | .scalar '-' :: t => (true, t)
  | .scalar '+' :: t => (false, t)
  | t => (false, t)

/-- An exponent with at least one digit, or nothing. -/
def readExponent (t : Text) : Option Int × Text :=
  match t with
  | [] => (none, [])
  | c :: rest =>
    if c = .scalar 'e' || c = .scalar 'E' then
      let (negative, body) := readSign rest
      match spanDigits body with
      | ([], _) => (none, t)
      | (digits, rest) =>
        let value : Int := Text.digitsValue digits
        (some (if negative then -value else value), rest)
    else (none, t)

/-- The longest numeral that the text starts with. -/
def readNumeral? (t : Text) : Option (Numeral × Text) :=
  let (negative, t) := readMinus t
  match readWhole? t with
  | none => none
  | some (whole, t) =>
    let (fraction, t) := readFraction t
    let (exponent, t) := readExponent t
    some (⟨negative, whole, fraction, exponent⟩, t)

/-- The part of a text in front of what is left of it. -/
def consumed (whole left : Text) : Text :=
  whole.take (whole.length - left.length)

/-- The value of a numeral, within the limits. It was read from `whole` and
`left` is left of that. -/
def Numeral.value (n : Numeral) (whole left : Text) :
    Except Failure Scalar :=
  if n.isWhole then
    if DigitLimit.digits < n.whole.length then
      .error (.tooManyDigits n.whole.length)
    else .ok (.int n.toInt)
  else
    let x := n.toBinary64
    if x.isFinite then .ok (.float x)
    else .error (.outOfRange (consumed whole left))

-- ============================================================= scalars

/-- The words that stand for a value, and those that are refused. -/
def words : List (Text × Except Failure Scalar) :=
  [ ("null", .ok .null), ("true", .ok (.bool true)),
    ("false", .ok (.bool false)), ("NaN", .error (.constant "NaN")),
    ("Infinity", .error (.constant "Infinity")),
    ("-Infinity", .error (.constant "-Infinity")) ]

/-- Reads a word or a number. -/
def readWord (t : Text) : Except Failure (Scalar × Text) :=
  match words.find? fun w => t.startsWith w.1 with
  | some (word, outcome) => outcome.map (·, t.drop word.length)
  | none =>
    match readNumeral? t with
    | none => .error (.malformed .value t)
    | some (n, rest) => (n.value t rest).map (·, rest)

-- ============================================================== values

mutual

/-- Reads a value at the head of the text. `room` says how many more arrays
and objects may be opened inside each other, and `fuel` bounds the steps;
twice the length of the text is always enough. -/
def readValue (fuel room : Nat) (t : Text) :
    Except Failure (Json × Text) :=
  match fuel with
  | 0 => .error (.malformed .value t)
  | fuel + 1 =>
    match t with
    | [] => .error (.malformed .value [])
    | c :: rest =>
      if c = .scalar '"' then
        (readString t).map fun r => (.str r.1, r.2)
      else if c = .scalar '[' then
        match room with
        | 0 => .error .noRoom
        | room + 1 =>
          match skipSpace rest with
          | .scalar ']' :: after => .ok (.array [], after)
          | body =>
            (readItems fuel room body).map fun r => (.array r.1, r.2)
      else if c = .scalar '\x7b' then
        match room with
        | 0 => .error .noRoom
        | room + 1 =>
          match skipSpace rest with
          | .scalar '\x7d' :: after => .ok (.object [], after)
          | body =>
            (readMembers fuel room body).map fun r =>
              (.object (Assoc.ofPairs r.1), r.2)
      else (readWord t).map fun r => (.scalar r.1, r.2)

/-- Reads the elements of an array up to its closing bracket. -/
def readItems (fuel room : Nat) (t : Text) :
    Except Failure (List Json × Text) :=
  match fuel with
  | 0 => .error (.malformed .value t)
  | fuel + 1 =>
    match readValue fuel room t with
    | .error e => .error e
    | .ok (v, rest) =>
      match skipSpace rest with
      | .scalar ']' :: after => .ok ([v], after)
      | .scalar ',' :: after =>
        (readItems fuel room (skipSpace after)).map fun r =>
          (v :: r.1, r.2)
      | left => .error (.malformed .comma left)

/-- Reads the members of an object up to its closing brace. -/
def readMembers (fuel room : Nat) (t : Text) :
    Except Failure (List (Text × Json) × Text) :=
  match fuel with
  | 0 => .error (.malformed .value t)
  | fuel + 1 =>
    match t with
    | .scalar '"' :: _ =>
      match readString t with
      | .error e => .error e
      | .ok (name, rest) =>
        match skipSpace rest with
        | .scalar ':' :: body =>
          match readValue fuel room (skipSpace body) with
          | .error e => .error e
          | .ok (v, rest) =>
            match skipSpace rest with
            | .scalar '\x7d' :: after => .ok ([(name, v)], after)
            | .scalar ',' :: after =>
              (readMembers fuel room (skipSpace after)).map fun r =>
                ((name, v) :: r.1, r.2)
            | left => .error (.malformed .comma left)
        | left => .error (.malformed .colon left)
    | left => .error (.malformed .memberName left)

end

/-- The column of the place where `left` remains of the text, counted from
1 after the last LF before it. -/
def columnOf (whole left : Text) : Nat :=
  ((consumed whole left).reverse.takeWhile (· != .scalar '\n')).length + 1

/-- A failure with its column. -/
def Failure.toError (whole : Text) : Failure → ReadError
  | .malformed fault left => .malformed fault (columnOf whole left)
  | .constant name => .constant name
  | .outOfRange numeral => .outOfRange numeral
  | .tooManyDigits count => .tooManyDigits count
  | .noRoom => .noRoom

/-- Reads a whole text as one value, white space around it. -/
def readWhole (t : Text) : Except Failure Json :=
  match t with
  | .scalar '\uFEFF' :: _ => .error (.malformed .byteOrderMark t)
  | _ =>
    match readValue (2 * t.length + 2) maxDepth (skipSpace t) with
    | .error e => .error e
    | .ok (v, rest) =>
      match skipSpace rest with
      | [] => .ok v
      | left => .error (.malformed .extraData left)

/-- The value of a JSON text. Its nesting is looked at before anything
else. -/
def read (t : Text) : Except ReadError Json :=
  if t.nestsDeeper maxDepth then .error .nestedTooDeeply
  else (readWhole t).mapError (·.toError t)

end Marginalia.Json
