/-
The lines of a text with the comment content each one carries. Every
physical line is kept, comment or not, because line numbers are counted
over all of them. Of a line that holds several comments only the first one
contributes content; the later ones matter for the block that the line may
leave open.

A line has code when something other than white space stands before its
first comment, or between that comment and the next opener.
-/
import Marginalia.Text.Blank
import Marginalia.Text.Lines
import Marginalia.Comment.Style

namespace Marginalia.Comment

/-- One physical line: its number from 1, the content of its first comment
if it has one, the whole line, and whether there is code on it. -/
structure Line where
  number : LineNumber
  content : Option Text
  raw : Text
  hasCode : Bool
  deriving DecidableEq, Repr

/-- A line without code whose comment, if any, is empty: it is passed over
when an annotation looks for the line it applies to. -/
def Line.isIdle (l : Line) : Bool := !l.hasCode && (l.content.getD []).isEmpty

-- ============================================================ content

/-- The content of a block comment line: trimmed, and without the star
that continues a comment whose opener ends in one. -/
def blockContent (opener body : Text) : Text :=
  let t := body.trim
  if opener.endsWith "*" && t.startsWith "*" && !t.startsWith "*/" then
    Text.trim (t.drop 1)
  else t

namespace Style

/-- Is there code before the next opener? -/
def hasCodeIn (s : Style) (t : Text) : Bool :=
  match s.split? t with
  | some (before, _, _) => !before.isBlank
  | none => !t.isBlank

/-- What follows a whole block comment is shorter than the text. -/
theorem length_lt_of_split? {s : Style} {t before after : Text} {o : Opener}
    {closer inside rest : Text} (h : s.split? t = some (before, o, after))
    (h' : Text.cut? closer after = some (inside, rest)) :
    rest.length < t.length := by
  have hs := eq_of_split? h
  have hm := List.length_pos_iff.2 hs.2
  simp only [hs.1, Text.eq_of_cut? h', List.length_append]
  omega

/-- The block comment that is open at the end of a line whose rest is
`t`. A line comment ends the walk, since it runs to the end of the
line. -/
def unclosedIn (s : Style) (t : Text) : Option Block :=
  match h : s.split? t with
  | none => none
  | some (_, o, after) =>
    match o.closer with
    | none => none
    | some closer =>
      match h' : Text.cut? closer after with
      | none => some ⟨o.mark, closer⟩
      | some (_, rest) =>
        have := length_lt_of_split? h h'
        s.unclosedIn rest
termination_by t.length

-- ============================================================== lines

/-- What one line yields: the content of its first comment, whether it
has code, and the block it leaves open. -/
structure Reading where
  content : Option Text
  hasCode : Bool
  block : Option Block
  deriving DecidableEq, Repr

/-- Reads a line that starts inside the given block, or outside any. -/
def readLine (s : Style) : Option Block → Text → Reading
  | some b, raw =>
    match Text.cut? b.closer raw with
    | none => ⟨some (blockContent b.opener raw), false, some b⟩
    | some (inside, rest) =>
      ⟨some (blockContent b.opener inside), s.hasCodeIn rest,
        s.unclosedIn rest⟩
  | none, raw =>
    match s.split? raw with
    | none => ⟨none, !raw.isBlank, none⟩
    | some (before, o, after) =>
      match o.closer with
      | none => ⟨some after.trim, !before.isBlank, none⟩
      | some closer =>
        match Text.cut? closer after with
        | none =>
          ⟨some (blockContent o.mark after), !before.isBlank,
            some ⟨o.mark, closer⟩⟩
        | some (inside, rest) =>
          ⟨some (blockContent o.mark inside),
            !before.isBlank || s.hasCodeIn rest, s.unclosedIn rest⟩

/-- Reads lines numbered from `number`, the first of them starting inside
the given block. -/
def readLines (s : Style) (number : LineNumber) (block : Option Block) :
    List Text → List Line
  | [] => []
  | raw :: rest =>
    let r := s.readLine block raw
    ⟨number, r.content, raw, r.hasCode⟩
      :: s.readLines (number + 1) r.block rest

/-- The lines of a text. -/
def lines (s : Style) (t : Text) : List Line := s.readLines 1 none t.lines

end Style

end Marginalia.Comment
