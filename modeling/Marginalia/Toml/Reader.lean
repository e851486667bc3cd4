/-
Reading TOML documents: comments, bare, quoted and dotted keys, basic and
literal strings on one line or several, whole numbers in four bases, floats
with the infinities and not-a-number, booleans, dates and times, arrays,
inline tables, tables and arrays of tables. Lines end with LF or CR LF.

A document that breaks the form of the language, sets a key twice or opens
a table that may not be opened again is refused as a whole; and so is one
with a decimal number of too many digits or with values that nest too
deeply, for reasons of their own.
-/
import Marginalia.Json.Reader
import Marginalia.Toml.Document

namespace Marginalia.Toml

-- =============================================================== basics

/-- Why a document is refused: its form, with the text that was left, a key
that may not be set, a whole number of too many digits, or values that nest
too deeply. -/
inductive Refusal where
  | malformed (left : Text)
  | redefined (key : List Text)
  | tooManyDigits (count : Nat)
  | noRoom
  deriving DecidableEq, Repr

/-- A step of reading: what was read and the text after it. -/
abbrev Read (α : Type) := Except Refusal (α × Text)

/-- Spaces and tabs. -/
def isSpace (c : CodePoint) : Bool := c == .scalar ' ' || c == .scalar '\t'

/-- Spaces, tabs and line ends. -/
def isSpaceOrEnd (c : CodePoint) : Bool := isSpace c || c == .scalar '\n'

/-- The text after its spaces and tabs. -/
def skipSpace (t : Text) : Text := t.dropWhile isSpace

/-- The controls that may stand nowhere but in escapes; the tab is not
among them, and LF has to be allowed for. -/
def isForbidden (c : CodePoint) : Bool :=
  (c.toNat < 0x20 && c.toNat != 0x09) || c.toNat == 0x7F

/-- The text after a comment, if one stands at its head: up to the end of
the line. -/
def skipComment (t : Text) : Except Refusal Text :=
  match t with
  | .scalar '#' :: _ =>
    let comment := t.takeWhile (· != .scalar '\n')
    if comment.any isForbidden then .error (.malformed t)
    else .ok (t.drop comment.length)
  | _ => .ok t

/-- The text after spaces, line ends and comments. -/
def skipLines : Nat → Text → Except Refusal Text
  | 0, t => .ok t
  | fuel + 1, t =>
    let t := t.dropWhile isSpaceOrEnd
    match t with
    | .scalar '#' :: _ =>
      match skipComment t with
      | .error e => .error e
      | .ok t => skipLines fuel t
    | _ => .ok t

-- ============================================================= strings

/-- The number that hexadecimal digits spell. -/
def hexValue? (digits : Text) : Option Nat :=
  digits.foldl
    (fun n c => match n, c.hexDigit? with
      | some n, some d => some (16 * n + d)
      | _, _ => none)
    (some 0)

/-- The code point of a numeric escape with `width` digits. -/
def readEscape (width : Nat) (t : Text) : Read CodePoint :=
  let digits := t.take width
  match hexValue? digits with
  | some n =>
    if digits.length = width && n < 0x110000
        && !(0xD800 ≤ n && n < 0xE000) then
      .ok (.ofNat n, t.drop width)
    else .error (.malformed t)
  | none => .error (.malformed t)

/-- The character that a backslash and a letter stand for. -/
def shortEscape? (c : CodePoint) : Option CodePoint :=
  if c = .scalar '/' then none else Json.shortEscape? c

/-- What a backslash in a string of several lines leaves out: the rest of
the line, which holds spaces only, and all spaces and line ends after
it. -/
def skipLineEnd (t : Text) : Except Refusal Text :=
  match skipSpace t with
  | [] => .ok []
  | .scalar '\n' :: rest => .ok (rest.dropWhile isSpaceOrEnd)
  | _ => .error (.malformed t)

/-- Reads a basic string up to its closing quotes, three of them when it
has several lines. -/
def readBasic (multiline : Bool) : Nat → Text → Read Text
  | 0, t => .error (.malformed t)
  | _ + 1, [] => .error (.malformed [])
  | fuel + 1, c :: t =>
    let go (piece : Text) (rest : Text) : Read Text :=
      (readBasic multiline fuel rest).map fun r => (piece ++ r.1, r.2)
    if c = .scalar '"' then
      if !multiline then .ok ([], t)
      else if Text.startsWith t "\"\"" then .ok ([], t.drop 2)
      else go [c] t
    else if c = .scalar '\\' then
      match t with
      | [] => .error (.malformed t)
      | e :: rest =>
        if e = .scalar 'u' || e = .scalar 'U' then
          match readEscape (if e = .scalar 'u' then 4 else 8) rest with
          | .ok (x, rest) => go [x] rest
          | .error e => .error e
        else if multiline && isSpaceOrEnd e then
          match skipLineEnd t with
          | .ok rest => go [] rest
          | .error e => .error e
        else
          match shortEscape? e with
          | some x => go [x] rest
          | none => .error (.malformed t)
    else if isForbidden c && !(multiline && c = .scalar '\n') then
      .error (.malformed (c :: t))
    else go [c] t

/-- One or two quotes more before the closing ones belong to the text. -/
def extraQuotes (quote : CodePoint) (r : Text × Text) : Text × Text :=
  let extra := (r.2.take 2).takeWhile (· == quote)
  (r.1 ++ extra, r.2.drop extra.length)

/-- A line end right after the opening quotes is not part of the text. -/
def dropLineEnd : Text → Text
  | .scalar '\n' :: t => t
  | t => t

/-- Reads a literal string up to its closing quotes. -/
def readLiteral (quotes : Text) (multiline : Bool) (t : Text) : Read Text :=
  match Text.cut? quotes t with
  | none => .error (.malformed t)
  | some (inside, after) =>
    if inside.any fun c => isForbidden c && !(multiline && c == .scalar '\n')
    then .error (.malformed t)
    else .ok (inside, after)

/-- Reads a string of either kind on one line. -/
def readLineString (t : Text) : Read Text :=
  match t with
  | .scalar '"' :: rest => readBasic false (rest.length + 1) rest
  | .scalar '\'' :: rest => readLiteral "'" false rest
  | _ => .error (.malformed t)

/-- Reads a string of either kind, on one line or several. -/
def readString (t : Text) : Read Text :=
  if t.startsWith "\"\"\"" then
    let body := dropLineEnd (t.drop 3)
    (readBasic true (body.length + 1) body).map (extraQuotes (.scalar '"'))
  else if t.startsWith "'''" then
    (readLiteral "'''" true (dropLineEnd (t.drop 3))).map
      (extraQuotes (.scalar '\''))
  else readLineString t

-- ================================================================ keys

/-- The characters of bare keys. -/
def isBare (c : CodePoint) : Bool :=
  c.isLetter || c.isDigit || c == .scalar '_' || c == .scalar '-'

/-- Reads one part of a key. -/
def readKeyPart (t : Text) : Read Text :=
  match t with
  | [] => .error (.malformed t)
  | c :: _ =>
    if isBare c then .ok (t.takeWhile isBare, t.dropWhile isBare)
    else readLineString t

/-- Reads the parts of a dotted key, and the spaces after it. -/
def readKey : Nat → Text → Read (List Text)
  | 0, t => .error (.malformed t)
  | fuel + 1, t =>
    match readKeyPart t with
    | .error e => .error e
    | .ok (part, rest) =>
      match skipSpace rest with
      | .scalar '.' :: more =>
        (readKey fuel (skipSpace more)).map fun r => (part :: r.1, r.2)
      | rest => .ok ([part], rest)

-- ============================================================= numbers

/-- The digits that go on after a digit, single underscores between digits
left out, and the rest. -/
def moreDigits (isDigit : CodePoint → Bool) : Text → Text × Text
  | [] => ([], [])
  | .scalar '_' :: d :: t =>
    if isDigit d then
      let r := moreDigits isDigit t
      (d :: r.1, r.2)
    else ([], .scalar '_' :: d :: t)
  | c :: t =>
    if isDigit c then
      let r := moreDigits isDigit t
      (c :: r.1, r.2)
    else ([], c :: t)

/-- The longest run of digits at the head of a text, and the rest. -/
def spanDigits (isDigit : CodePoint → Bool) : Text → Text × Text
  | [] => ([], [])
  | c :: t =>
    if isDigit c then
      let r := moreDigits isDigit t
      (c :: r.1, r.2)
    else ([], c :: t)

/-- The number that digits spell in a base. -/
def baseValue (base : Nat) (digits : Text) : Nat :=
  digits.foldl (fun n c => base * n + (c.hexDigit?).getD 0) 0

/-- The bases that are marked by a letter after a zero. -/
def bases : List (Text × Nat) := [("0x", 16), ("0b", 2), ("0o", 8)]

/-- Reads a whole number in a marked base. -/
def readBased? (t : Text) : Option (Scalar × Text) :=
  match bases.find? fun b => t.startsWith b.1 with
  | none => none
  | some (_, base) =>
    let inBase (c : CodePoint) : Bool :=
      match c.hexDigit? with
      | some d => d < base
      | none => false
    match spanDigits inBase (t.drop 2) with
    | ([], _) => none
    | (digits, rest) => some (.int (baseValue base digits), rest)

/-- Reads a decimal number, whole or not. -/
def readDecimal? (t : Text) : Option (Json.Numeral × Text) :=
  let (negative, t) := Json.readSign t
  let whole : Option (Text × Text) :=
    match t with
    | .scalar '0' :: rest => some ([.scalar '0'], rest)
    | _ =>
      match spanDigits (·.isDigit) t with
      | ([], _) => none
      | found => some found
  match whole with
  | none => none
  | some (whole, t) =>
    let (fraction, t) : Option Text × Text :=
      match t with
      | .scalar '.' :: rest =>
        match spanDigits (·.isDigit) rest with
        | ([], _) => (none, t)
        | (digits, rest) => (some digits, rest)
      | _ => (none, t)
    let (exponent, t) : Option Int × Text :=
      match t with
      | [] => (none, t)
      | c :: rest =>
        if c = .scalar 'e' || c = .scalar 'E' then
          let (down, body) := Json.readSign rest
          match spanDigits (·.isDigit) body with
          | ([], _) => (none, t)
          | (digits, rest) =>
            let value : Int := Text.digitsValue digits
            (some (if down then -value else value), rest)
        else (none, t)
    some (⟨negative, whole, fraction, exponent⟩, t)

/-- The words that stand for values. -/
def words : List (Text × Scalar) :=
  [ ("true", .bool true), ("false", .bool false),
    ("inf", .float (.infinite false)), ("+inf", .float (.infinite false)),
    ("-inf", .float (.infinite true)), ("nan", .float .nan),
    ("+nan", .float .nan), ("-nan", .float .nan) ]

/-- Reads a scalar other than a string. -/
def readScalar (t : Text) : Read Scalar :=
  match words.find? fun w => t.startsWith w.1 with
  | some (word, s) => .ok (s, t.drop word.length)
  | none =>
    match readBased? t with
    | some r => .ok r
    | none =>
      match readDecimal? t with
      | none => .error (.malformed t)
      | some (n, rest) =>
        if !n.isWhole then .ok (.float n.toBinary64, rest)
        else if DigitLimit.digits < n.whole.length then
          .error (.tooManyDigits n.whole.length)
        else .ok (.int n.toInt, rest)

/-- Reads a scalar other than a string, or a moment, whose date has to be
one of the calendar. -/
def readPlain (t : Text) : Read Value :=
  match readMoment? t with
  | some (m, rest) =>
    if m.isValid then .ok (.moment m, rest) else .error (.malformed t)
  | none => (readScalar t).map fun r => (.scalar r.1, r.2)

-- ============================================================== values

/-- How many steps an array takes. -/
def arrayRoom : Nat := 2

/-- How many steps an inline table takes. -/
def tableRoom : Nat := 3

mutual

/-- Reads a value. `room` says how many steps deeper it may nest, and `fuel`
bounds the recursion. -/
def readValue (fuel room : Nat) (t : Text) : Read Value :=
  match fuel with
  | 0 => .error (.malformed t)
  | fuel + 1 =>
    match t with
    | [] => .error (.malformed t)
    | c :: rest =>
      if c = .scalar '"' || c = .scalar '\'' then
        (readString t).map fun r => (.scalar (.str r.1), r.2)
      else if c = .scalar '[' then
        if room < arrayRoom then .error .noRoom
        else
          (readItems fuel (room - arrayRoom) rest).map fun r =>
            (.array r.1, r.2)
      else if c = .scalar '\x7b' then
        if room < tableRoom then .error .noRoom
        else
          match skipSpace rest with
          | .scalar '\x7d' :: after => .ok (.table [], after)
          | body =>
            (readPairs fuel (room - tableRoom) [] body).map fun r =>
              (.table (entriesToValues r.1), r.2)
      else readPlain t

/-- Reads the elements of an array up to its closing bracket. -/
def readItems (fuel room : Nat) (t : Text) : Read (List Value) :=
  match fuel with
  | 0 => .error (.malformed t)
  | fuel + 1 =>
    match skipLines t.length t with
    | .error e => .error e
    | .ok (.scalar ']' :: after) => .ok ([], after)
    | .ok t =>
      match readValue fuel room t with
      | .error e => .error e
      | .ok (v, rest) =>
        match skipLines rest.length rest with
        | .error e => .error e
        | .ok (.scalar ']' :: after) => .ok ([v], after)
        | .ok (.scalar ',' :: after) =>
          (readItems fuel room after).map fun r => (v :: r.1, r.2)
        | .ok left => .error (.malformed left)

/-- Reads a key, an equals sign and a value. -/
def readPair (fuel room : Nat) (t : Text) : Read (List Text × Value) :=
  match fuel with
  | 0 => .error (.malformed t)
  | fuel + 1 =>
    match readKey (t.length + 1) t with
    | .error e => .error e
    | .ok (key, .scalar '=' :: rest) =>
      (readValue fuel room (skipSpace rest)).map fun r => ((key, r.1), r.2)
    | .ok (_, left) => .error (.malformed left)

/-- Reads the pairs of an inline table up to its closing brace, into the
entries there are. -/
def readPairs (fuel room : Nat) (entries : Entries) (t : Text) :
    Read Entries :=
  match fuel with
  | 0 => .error (.malformed t)
  | fuel + 1 =>
    match readPair fuel room t with
    | .error e => .error e
    | .ok ((key, v), rest) =>
      match setDotted 0 v key entries with
      | none => .error (.redefined key)
      | some entries =>
        match skipSpace rest with
        | .scalar '\x7d' :: after => .ok (entries, after)
        | .scalar ',' :: after => readPairs fuel room entries (skipSpace after)
        | left => .error (.malformed left)

end

-- ============================================================ documents

/-- A document in progress: its entries, the way of the last header, and
how many headers there were. -/
structure Progress where
  entries : Entries
  header : List Text
  sections : Nat

/-- The entries with a header's table declared, or one more table in a
header's array. -/
def openHeader (isArray : Bool) (key : List Text) (entries : Entries) :
    Option Entries :=
  match key.getLast? with
  | none => none
  | some last =>
    alongHeader (if isArray then addTable last else declare last)
      key.dropLast entries

/-- Reads a header behind its opening brackets. -/
def readHeader (isArray : Bool) (p : Progress) (t : Text) : Read Progress :=
  match readKey (t.length + 1) (skipSpace t) with
  | .error e => .error e
  | .ok (key, rest) =>
    match openHeader isArray key p.entries with
    | none => .error (.redefined key)
    | some entries =>
      let closing : Text := if isArray then "]]" else "]"
      if rest.startsWith closing then
        .ok (⟨entries, key, p.sections + 1⟩, rest.drop closing.length)
      else .error (.malformed rest)

/-- Reads a pair under the last header. -/
def readEntry (room : Nat) (p : Progress) (t : Text) : Read Progress :=
  match readPair (2 * t.length + 2) room t with
  | .error e => .error e
  | .ok ((key, v), rest) =>
    match alongHeader (setDotted p.sections v key) p.header p.entries with
    | none => .error (.redefined (p.header ++ key))
    | some entries => .ok ({ p with entries := entries }, rest)

/-- Reads the statement at the head of a text, if there is one. -/
def readStatement (room : Nat) (p : Progress) (t : Text) : Read Progress :=
  match t with
  | [] => .ok (p, t)
  | c :: rest =>
    if isBare c || c = .scalar '"' || c = .scalar '\'' then
      readEntry room p t
    else if c = .scalar '[' then
      match rest with
      | .scalar '[' :: rest => readHeader true p rest
      | _ => readHeader false p rest
    else if c = .scalar '#' || c = .scalar '\n' then .ok (p, t)
    else .error (.malformed t)

/-- Reads statement after statement, each on a line of its own. -/
def readStatements (room : Nat) :
    Nat → Progress → Text → Except Refusal Entries
  | 0, p, _ => .ok p.entries
  | fuel + 1, p, t =>
    match readStatement room p (skipSpace t) with
    | .error e => .error e
    | .ok (p, rest) =>
      match skipComment (skipSpace rest) with
      | .error e => .error e
      | .ok [] => .ok p.entries
      | .ok (.scalar '\n' :: rest) => readStatements room fuel p rest
      | .ok left => .error (.malformed left)

/-- A text with LF in the place of every CR LF. -/
def joinLineEnds : Text → Text
  | [] => []
  | .scalar '\r' :: .scalar '\n' :: t => .scalar '\n' :: joinLineEnds t
  | c :: t => c :: joinLineEnds t

/-- The table of a TOML document. -/
def read (limits : Limits) (t : Text) : Except Refusal (Assoc Value) :=
  let t := joinLineEnds t
  (readStatements limits.room (t.length + 1) ⟨[], [], 0⟩ t).map
    entriesToValues

end Marginalia.Toml
