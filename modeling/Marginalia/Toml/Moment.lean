/-
Dates and times of day. A date is one of the calendar, from the year 1 on,
with the leap years where they belong. A time of day is exact to the
microsecond. The two together may have an offset from universal time.
-/
import Marginalia.Text.CodePoint

namespace Marginalia.Toml

-- ============================================================= calendar

/-- Does the year have a 29th of February? -/
def isLeapYear (year : Nat) : Bool :=
  year % 4 == 0 && (year % 100 != 0 || year % 400 == 0)

/-- How many days a month has. -/
def daysIn (year month : Nat) : Nat :=
  if month = 2 then if isLeapYear year then 29 else 28
  else if [4, 6, 9, 11].contains month then 30
  else 31

/-- A date: year, month from 1, and day from 1. -/
structure Date where
  year : Nat
  month : Nat
  day : Nat
  deriving DecidableEq, Repr

/-- Is the date one of the calendar? -/
def Date.isValid (d : Date) : Bool :=
  1 ≤ d.year && d.year ≤ 9999 && 1 ≤ d.month && d.month ≤ 12
    && 1 ≤ d.day && d.day ≤ daysIn d.year d.month

/-- A time of day. -/
structure Clock where
  hour : Nat
  minute : Nat
  second : Nat
  microsecond : Nat
  deriving DecidableEq, Repr

/-- A date, a time of day, or both, then with an offset from universal time
in minutes if it has one. -/
inductive Moment where
  | date (d : Date)
  | clock (c : Clock)
  | both (d : Date) (c : Clock) (offset : Option Int)
  deriving DecidableEq, Repr

-- ============================================================== reading

/-- So many digits at the head of a text, as a number, and the rest. -/
def readDigits? (count : Nat) (t : Text) : Option (Nat × Text) :=
  let digits := t.take count
  if digits.length = count && digits.all (·.isDigit) then
    some (Text.digitsValue digits, t.drop count)
  else none

/-- A character at the head of a text, and the rest. -/
def readMark? (c : Char) : Text → Option Text
  | [] => none
  | d :: t => if d = .scalar c then some t else none

/-- Reads a year, a month and a day, which need not be in the calendar
yet. -/
def readDate? (t : Text) : Option (Date × Text) := do
  let (year, t) ← readDigits? 4 t
  let t ← readMark? '-' t
  let (month, t) ← readDigits? 2 t
  let t ← readMark? '-' t
  let (day, t) ← readDigits? 2 t
  if 1 ≤ month && month ≤ 12 && 1 ≤ day && day ≤ 31 then
    some (⟨year, month, day⟩, t)
  else none

/-- The microseconds of a fraction, of which six digits count, and the
rest. -/
def readFraction (t : Text) : Nat × Text :=
  match t with
  | .scalar '.' :: rest =>
    let digits := rest.takeWhile (·.isDigit)
    if digits.isEmpty then (0, t)
    else
      let counted := digits.take 6
      (Text.digitsValue counted * Nat.pow 10 (6 - counted.length),
        rest.drop digits.length)
  | _ => (0, t)

/-- Reads a time of day. -/
def readClock? (t : Text) : Option (Clock × Text) := do
  let (hour, t) ← readDigits? 2 t
  let t ← readMark? ':' t
  let (minute, t) ← readDigits? 2 t
  let t ← readMark? ':' t
  let (second, t) ← readDigits? 2 t
  if hour < 24 && minute < 60 && second < 60 then
    let (microsecond, t) := readFraction t
    some (⟨hour, minute, second, microsecond⟩, t)
  else none

/-- Reads an offset behind its sign, in minutes. -/
def readOffsetSize? (t : Text) : Option (Nat × Text) := do
  let (hours, t) ← readDigits? 2 t
  let t ← readMark? ':' t
  let (minutes, t) ← readDigits? 2 t
  if hours < 24 && minutes < 60 then some (60 * hours + minutes, t) else none

/-- Reads an offset, if one stands at the head of a text. -/
def readOffset (t : Text) : Option Int × Text :=
  match t with
  | .scalar 'Z' :: rest | .scalar 'z' :: rest => (some 0, rest)
  | .scalar '+' :: rest =>
    match readOffsetSize? rest with
    | some (n, rest) => (some n, rest)
    | none => (none, t)
  | .scalar '-' :: rest =>
    match readOffsetSize? rest with
    | some (n, rest) => (some (-(n : Int)), rest)
    | none => (none, t)
  | _ => (none, t)

/-- Reads a date, and the time of day behind it if there is one. -/
def readDated? (t : Text) : Option (Moment × Text) :=
  match readDate? t with
  | none => none
  | some (d, rest) =>
    let clock := match rest with
      | .scalar 'T' :: more | .scalar 't' :: more | .scalar ' ' :: more =>
        readClock? more
      | _ => none
    match clock with
    | none => some (.date d, rest)
    | some (c, rest) =>
      let (offset, rest) := readOffset rest
      some (.both d c offset, rest)

/-- Reads a date, a time of day, or both. -/
def readMoment? (t : Text) : Option (Moment × Text) :=
  match readDated? t with
  | some found => some found
  | none => (readClock? t).map fun r => (.clock r.1, r.2)

/-- Is the date of a moment, if it has one, in the calendar? -/
def Moment.isValid : Moment → Bool
  | .date d | .both d _ _ => d.isValid
  | .clock _ => true

-- ============================================================== showing

/-- Numbers with commas between them. -/
def listed (ns : List Nat) : Text := Text.joinWith ", " (ns.map Text.ofNat)

/-- The parts of a date. -/
def Date.parts (d : Date) : List Nat := [d.year, d.month, d.day]

/-- The parts of a time of day, without microseconds and then seconds that
are zero. -/
def Clock.parts (c : Clock) : List Nat :=
  if c.microsecond ≠ 0 then [c.hour, c.minute, c.second, c.microsecond]
  else if c.second ≠ 0 then [c.hour, c.minute, c.second]
  else [c.hour, c.minute]

/-- An offset as it is shown; a negative one is a day back and the seconds
from there. -/
def shownOffset (minutes : Int) : Text :=
  if minutes = 0 then "datetime.timezone.utc"
  else
    let days : Text := if minutes < 0 then "days=-1, " else []
    let seconds := if minutes < 0 then 86400 + 60 * minutes else 60 * minutes
    "datetime.timezone(datetime.timedelta(" ++ days ++ "seconds="
      ++ Text.ofInt seconds ++ "))"

/-- A moment as it is shown inside a message. -/
def Moment.shown : Moment → Text
  | .date d => "datetime.date(" ++ listed d.parts ++ ")"
  | .clock c => "datetime.time(" ++ listed c.parts ++ ")"
  | .both d c offset =>
    let zone : Text := match offset with
      | none => []
      | some minutes => ", tzinfo=" ++ shownOffset minutes
    "datetime.datetime(" ++ listed (d.parts ++ c.parts) ++ zone ++ ")"

end Marginalia.Toml
