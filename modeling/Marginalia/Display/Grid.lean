/-
Tables in frames. A column is as wide as the widest line of its cells and
of its heading, with a space on each side where another column stands. When
all columns together are too wide, the widest ones are narrowed until they
fit, evenly, but none below the next widest. A cell may take several lines;
cells of one row begin on one line, and headings end on one.
-/
import Marginalia.Display.Layout

namespace Marginalia

/-- The place of a cell in the width of its column. -/
def Side.align : Side → Layout.Align
  | .left => .left
  | .right => .right

/-- The characters of one kind of frame line: its start, what it is filled
with, what stands between columns, and its end. -/
structure Rule where
  left : CodePoint
  fill : CodePoint
  between : CodePoint
  right : CodePoint

namespace Rule

/-- The line above the headings. -/
def top : Rule := ⟨'┏', '━', '┳', '┓'⟩

/-- The line below the headings. -/
def heading : Rule := ⟨'┡', '━', '╇', '┩'⟩

/-- The line below the rows. -/
def bottom : Rule := ⟨'└', '─', '┴', '┘'⟩

end Rule

namespace Grid

-- =============================================================== widths

/-- Does a code point end a line, for the width of a cell? -/
def endsLine (c : CodePoint) : Bool :=
  [0x0A, 0x1C, 0x1D, 0x1E, 0x85, 0x2028, 0x2029].contains c.toNat

/-- The width of the widest line of a cell. -/
def cellWidth (t : Text) : Nat :=
  let lines := Text.splitOn (.scalar '\n')
    (t.map fun c => if endsLine c then .scalar '\n' else c)
  (lines.map Cells.width).foldl max 0

/-- The cells of the table, cleaned. -/
def cells (g : Grid) : List (List Text) := g.rows.map (·.map Cells.clean)

/-- The spaces before and after the cells of a column: one on each side
that is not an edge of the table. -/
def margins (g : Grid) (index : Nat) : Nat × Nat :=
  (if index = 0 then 0 else 1,
    if index + 1 = g.columns.length then 0 else 1)

/-- What each column asks for, margins counted. -/
def wanted (g : Grid) : List Nat :=
  g.columns.zipIdx.map fun (column, i) =>
    let margins := g.margins i
    (g.cells.map fun row => cellWidth (row.getD i [])).foldl max
      (cellWidth column.heading) + margins.1 + margins.2

/-- A quotient rounded to the nearest number, a tie to the even one. -/
def roundedQuotient (n d : Nat) : Nat :=
  let q := n / d
  let twice := 2 * (n % d)
  if twice < d then q else if d < twice then q + 1 else q + q % 2

/-- Takes `excess` from the columns that are `widest` wide, in even shares
of at most `most`; `count` of these columns are left. -/
def takeShares (widest most : Nat) (excess count : Nat) : List Nat → List Nat
  | [] => []
  | w :: rest =>
    if w = widest then
      let share := min most (roundedQuotient excess count)
      (w - share) :: takeShares widest most (excess - share) (count - 1) rest
    else w :: takeShares widest most excess count rest

/-- Narrows the widest columns step by step until all fit into `room`;
`fuel` is at least what they are too wide. -/
def narrow (room : Nat) : Nat → List Nat → List Nat
  | 0, widths => widths
  | fuel + 1, widths =>
    let excess := widths.foldl (· + ·) 0 - room
    if excess = 0 then widths
    else
      let widest := widths.foldl max 0
      let next := (widths.filter (· != widest)).foldl max 0
      narrow room fuel
        (takeShares widest (min excess (widest - next)) excess
          (widths.count widest) widths)

/-- The widths of the columns within `total` cells, margins counted; each
column has a bar on its left, and the last one has another on its right. -/
def widths (total : Nat) (g : Grid) : List Nat :=
  let room := total - (g.columns.length + 1)
  narrow room (g.wanted.foldl (· + ·) 0 - room) g.wanted

-- ================================================================= rows

/-- The lines of a cell within the width of its column. -/
def cellLines (column : Column) (margins : Nat × Nat) (width : Nat)
    (t : Text) : List Text :=
  let inside := width - margins.1 - margins.2
  (Layout.wrap inside column.overflow column.side.align t).map fun line =>
    Cells.spaces margins.1 ++ Cells.fit inside line
      ++ Cells.spaces margins.2

/-- Texts between a left end, marks and a right end. -/
def framed (left between right : CodePoint) (parts : List Text) : Text :=
  [left] ++ Text.joinWith [between] parts ++ [right]

/-- The lines of one row between vertical bars. Cells with fewer lines are
filled up below, or above when the row is that of the headings. -/
def row (total : Nat) (g : Grid) (bar : CodePoint) (fromBelow : Bool)
    (texts : List Text) : List Text :=
  let columns := ((g.columns.zip (g.widths total)).zip texts).zipIdx.map
    fun (((column, width), t), i) =>
      (width, cellLines column (g.margins i) width t)
  let height := (columns.map (·.2.length)).foldl max 1
  (List.range height).map fun i =>
    framed bar bar bar (columns.map fun (width, lines) =>
      let missing := height - lines.length
      let line :=
        if fromBelow then
          if i < missing then none else lines[i - missing]?
        else lines[i]?
      line.getD (Cells.spaces width))

/-- A frame line over the width of the table. -/
def ruleLine (total : Nat) (g : Grid) (r : Rule) : Text :=
  framed r.left r.between r.right
    ((g.widths total).map fun n => List.replicate n r.fill)

/-- The lines of the table within `total` cells, each with its end. -/
def render (total : Nat) (g : Grid) : Text :=
  let top := g.ruleLine total .top
  let title := match g.title with
    | some title => Layout.wrap top.length .fold .centre (Cells.clean title)
    | none => []
  Layout.withEnds
    (title ++ [top] ++ g.row total '┃' true (g.columns.map (·.heading))
      ++ [g.ruleLine total .heading] ++ g.cells.flatMap (g.row total '│' false)
      ++ [g.ruleLine total .bottom])

end Grid

end Marginalia
