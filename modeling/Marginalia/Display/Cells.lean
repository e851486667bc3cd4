/-
Widths on a terminal. A text is as wide as its code points together, with
two exceptions: what a joiner glues to the pictograph before it takes no
cell, and the selector for pictographs widens a narrow one. The controls
that a terminal acts on are taken out of a text before it is shown.
-/
import Marginalia.Console
import Marginalia.Display.CellTable

namespace Marginalia

namespace Cells

-- ============================================================ controls

/-- A text without the controls that a terminal acts on. -/
def clean (t : Text) : Text := t.filter fun c => !Console.isControl c

-- ============================================================== widths

/-- Does the number lie in one of the closed ranges? -/
def within (ranges : List (Nat × Nat)) (n : Nat) : Bool :=
  ranges.any fun r => r.1 ≤ n && n ≤ r.2

/-- The cells of a code point that stands by itself. -/
def ofPoint (c : CodePoint) : Nat :=
  let n := c.toNat
  if 0x20 ≤ n && n < 0x7F then 1
  else if within emptyRanges n then 0
  else if within wideRanges n then 2
  else 1

/-- The selector that asks for a pictograph. -/
def selector : CodePoint := .ofNat 0xFE0F

/-- The joiner that makes one pictograph of two. -/
def joiner : CodePoint := .ofNat 0x200D

/-- The cells of a text behind `last`, the last code point before it that
takes cells and was not widened. -/
def widthAfter (last : Option CodePoint) : Text → Nat
  | [] => 0
  | c :: t =>
    if c = joiner then
      match t with
      | [] => 0
      | _ :: t => widthAfter last t
    else if c = selector then
      match last with
      | some narrow =>
        (if within widenedRanges narrow.toNat then 1 else 0)
          + widthAfter none t
      | none => widthAfter none t
    else
      let n := ofPoint c
      n + widthAfter (if n = 0 then last else some c) t

/-- The cells of a text. -/
def width (t : Text) : Nat := widthAfter none t

-- ============================================================= cutting

/-- The longest head of a text that takes at most `room` cells, and the
rest. -/
def split (room : Nat) : Text → Text × Text
  | [] => ([], [])
  | c :: t =>
    if ofPoint c ≤ room then
      let r := split (room - ofPoint c) t
      (c :: r.1, r.2)
    else ([], c :: t)

/-- A split loses nothing. -/
theorem split_append (room : Nat) (t : Text) :
    (split room t).1 ++ (split room t).2 = t := by
  induction t generalizing room with
  | nil => rfl
  | cons c t ih =>
    simp only [split]
    split
    · simp [ih]
    · rfl

/-- So many spaces. -/
def spaces (n : Nat) : Text := List.replicate n (.scalar ' ')

/-- The text cut down or filled up with spaces to `total` cells. -/
def fit (total : Nat) (t : Text) : Text :=
  let kept := if width t ≤ total then t else (split total t).1
  kept ++ spaces (total - width kept)

/-- The pieces of a text that take at most `room` cells each; a code point
that is wider by itself makes a piece. `fuel` is at least the length. -/
def chop (room : Nat) : Nat → Text → List Text
  | 0, t => [t]
  | fuel + 1, t =>
    match split room t with
    | (_, []) => [t]
    | ([], c :: rest) =>
      if rest.isEmpty then [[c]] else [c] :: chop room fuel rest
    | (kept, rest) => kept :: chop room fuel rest

end Cells

end Marginalia
