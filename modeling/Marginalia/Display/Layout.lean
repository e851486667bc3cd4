/-
Text within a width. A line that is too long is broken between words; the
white space behind a word belongs to it. A word that is longer than a whole
line is folded over several lines, or stands on a line of its own and loses
its end to an ellipsis. Tabs reach to the next multiple of eight cells.
-/
import Marginalia.Display.Cells
import Marginalia.Text.Blank

namespace Marginalia.Layout

-- =============================================================== lines

/-- Where a line stands in its width; a loose one is not filled up. -/
inductive Align where
  | loose
  | left
  | centre
  | right
  deriving DecidableEq, Repr

/-- How wide a tab is at most. -/
def tabSize : Nat := 8

/-- A line with spaces for its tabs, `column` cells after its start. `part`
is what was read since the last tab, backwards. -/
def expandTabs (column : Nat) (part : Text) : Text → Text
  | [] => part.reverse
  | c :: t =>
    if c = .scalar '\t' then
      let read := (.scalar ' ' :: part).reverse
      let column := column + Cells.width read
      let more := (tabSize - column % tabSize) % tabSize
      read ++ Cells.spaces more ++ expandTabs (column + more) [] t
    else expandTabs column (c :: part) t

-- =============================================================== words

/-- The words of a line, each with the white space behind it, and the first
one with that before it too. `fuel` is at least the length. -/
def words : Nat → Text → List Text
  | 0, _ => []
  | fuel + 1, t =>
    let before := t.takeWhile (·.isBlank)
    let t := t.drop before.length
    let word := t.takeWhile fun c => !c.isBlank
    let t := t.drop word.length
    let after := t.takeWhile (·.isBlank)
    if word.isEmpty then []
    else (before ++ word ++ after) :: words fuel (t.drop after.length)

/-- Where a line is broken, counted in code points: `start` is the place of
the next word and `column` the cells that the current line holds. -/
def breaks (width : Nat) (overflow : Overflow) (start column : Nat) :
    List Text → List Nat
  | [] => []
  | word :: rest =>
    let next := start + word.length
    let length := Cells.width word.trimRight
    if column + length ≤ width then
      breaks width overflow next (column + Cells.width word) rest
    else if width < length then
      match overflow with
      | .ellipsis =>
        (if start = 0 then [] else [start])
          ++ breaks width overflow next (Cells.width word) rest
      | .fold =>
        let pieces := Cells.chop width word.length word
        let places := pieces.dropLast.foldl
          (fun places piece =>
            places ++ [places.getLastD start + piece.length]) [start]
        places.filter (0 < ·)
          ++ breaks width overflow next (Cells.width (pieces.getLastD []))
            rest
    else if 0 < column && 0 < start then
      start :: breaks width overflow next (Cells.width word) rest
    else breaks width overflow next column rest

/-- A text cut at increasing places; `start` is where it begins. -/
def cutAt (start : Nat) : List Nat → Text → List Text
  | [], t => [t]
  | place :: rest, t =>
    t.take (place - start) :: cutAt place rest (t.drop (place - start))

-- ============================================================== fitting

/-- A line without the white space at its end that goes over the width,
which is counted in code points here. -/
def dropEnd (width : Nat) (t : Text) : Text :=
  let blank := t.length - t.trimRight.length
  t.take (t.length - min blank (t.length - width))

/-- A line cut down to the width. -/
def truncate (width : Nat) (overflow : Overflow) (t : Text) : Text :=
  if Cells.width t ≤ width then t
  else
    match overflow with
    | .fold => Cells.fit width t
    | .ellipsis => Cells.fit (width - 1) t ++ "…"

/-- A line in its place within the width. -/
def place (width : Nat) (overflow : Overflow) (align : Align) (t : Text) :
    Text :=
  match align with
  | .loose => truncate width overflow t
  | .left =>
    let t := truncate width overflow t
    t ++ Cells.spaces (width - Cells.width t)
  | .centre =>
    let t := truncate width overflow t.trimRight
    let room := width - Cells.width t
    Cells.spaces (room / 2) ++ t ++ Cells.spaces (room - room / 2)
  | .right =>
    let t := truncate width overflow t.trimRight
    Cells.spaces (width - Cells.width t) ++ t

/-- The lines that one line of a text takes within a width. -/
def wrapLine (width : Nat) (overflow : Overflow) (align : Align) (t : Text) :
    List Text :=
  let t := expandTabs 0 [] t
  (cutAt 0 (breaks width overflow 0 0 (words t.length t)) t).map fun line =>
    place width overflow align (dropEnd width line)

/-- The lines that a text takes within a width. -/
def wrap (width : Nat) (overflow : Overflow) (align : Align) (t : Text) :
    List Text :=
  (Text.splitOn (.scalar '\n') t).flatMap (wrapLine width overflow align)

-- ============================================================= printing

/-- Lines with their ends. -/
def withEnds (lines : List Text) : Text :=
  lines.flatMap fun l => l ++ [.scalar '\n']

/-- A text as it is printed: cleaned of controls, broken into lines where it
is wider than the console, and ended with a line end. -/
def printed (width : Nat) (t : Text) : Text :=
  withEnds (wrap width .fold .loose (Cells.clean t))

end Marginalia.Layout
