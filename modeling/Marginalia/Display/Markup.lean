/-
Console markup. A bracket with a lower-case letter, a hash, a slash or an
at-sign right behind it opens a tag, which styles the text and is not
itself shown; a tag that begins with a slash closes the nearest open one of
the same style, or the nearest of all when it has no name. A name may have
parameters behind an equals sign. A backslash before the bracket makes the
tag plain text, and a double one stands for itself. In plain text the names
of pictographs between colons stand for them.

Tags are looked for anywhere in the markup, so a text that holds brackets
has to be escaped before it goes in.
-/
import Marginalia.Display.Action
import Marginalia.Display.Cells
import Marginalia.Display.Emoji
import Marginalia.Display.StyleName

namespace Marginalia.Markup

-- ================================================================ tags

/-- A tag at the head of a text: the backslashes before it, the text
between its brackets, and what follows. -/
structure TagSpan where
  backslashes : Nat
  inside : Text
  after : Text

/-- The tag at the head of a text, if there is one. -/
def tagAt? (t : Text) : Option TagSpan :=
  let slashes := t.takeWhile (· == .scalar '\\')
  match t.drop slashes.length with
  | .scalar '[' :: c :: rest =>
    if Console.opensTag c then
      match Text.cut? "]" rest with
      | some (inside, after) =>
        if inside.contains (.scalar '[') then none
        else some ⟨slashes.length, c :: inside, after⟩
      | none => none
    else none
  | _ => none

/-- A piece of markup: plain text, or a tag. -/
inductive Piece where
  | plain (t : Text)
  | tag (inside : Text)
  deriving DecidableEq, Repr

/-- Plain text in front of pieces, unless it is empty. -/
def plainBefore (reversed : Text) (pieces : List Piece) : List Piece :=
  if reversed.isEmpty then pieces else .plain reversed.reverse :: pieces

/-- The pieces of a markup; `reversed` is the plain text read so far, and
`fuel` is at least the length of the rest. -/
def piecesFrom (reversed : Text) : Nat → Text → List Piece
  | 0, _ => plainBefore reversed []
  | _ + 1, [] => plainBefore reversed []
  | fuel + 1, c :: t =>
    match tagAt? (c :: t) with
    | none => piecesFrom (c :: reversed) fuel t
    | some found =>
      let slashes : Text :=
        List.replicate (found.backslashes / 2) (.scalar '\\')
      let piece : Piece :=
        if found.backslashes % 2 = 1 then
          .plain ([.scalar '['] ++ found.inside ++ [.scalar ']'])
        else .tag found.inside
      plainBefore reversed
        (plainBefore slashes (piece :: piecesFrom [] fuel found.after))

/-- The pieces of a markup. -/
def pieces (t : Text) : List Piece := piecesFrom [] t.length t

-- ============================================================= display

/-- A backslash before a bracket is left out. -/
def unescape : Text → Text
  | .scalar '\\' :: .scalar '[' :: t => .scalar '[' :: unescape t
  | c :: t => c :: unescape t
  | [] => []

/-- Plain text as it is shown: with pictographs for their names, and
without controls. -/
def shownPlain (t : Text) : Text := Cells.clean (Emoji.replace (unescape t))

/-- What can be wrong with a markup: a closing tag with nothing to close, an
action whose arguments cannot be understood, or a colour with a part that
is no number. -/
inductive MarkupError where
  | nothingToClose (tag : Text)
  | arguments (parameters : Text)
  | number (fault : StyleName.NumberFault)
  deriving DecidableEq, Repr

/-- What is wrong, in words. -/
def MarkupError.message : MarkupError → Text
  | .nothingToClose tag => "closing tag without a partner: " ++ tag
  | .arguments parameters => "arguments of no action: " ++ parameters
  | .number fault => fault.message

/-- A stretch of a text, from one place up to another, and its style. -/
structure Span where
  start : Nat
  stop : Nat
  style : Text
  deriving DecidableEq, Repr

/-- A text with its styles. -/
structure Shown where
  text : Text
  spans : List Span

/-- A tag that is open: the normal form of its name, its parameters if it
has any, and where the text it holds begins. -/
structure OpenTag where
  name : Text
  parameters : Option Text
  start : Nat
  deriving DecidableEq, Repr

namespace OpenTag

/-- Does the tag name an action? -/
def isAction (tag : OpenTag) : Bool := Text.startsWith tag.name "@"

/-- The style of the text that the tag holds, up to a place. -/
def span (tag : OpenTag) (stop : Nat) : Span :=
  let style := match tag.parameters with
    | none => tag.name
    | some parameters => tag.name ++ " " ++ parameters
  ⟨tag.start, stop, style⟩

/-- The styles that remain of the tag when it is closed: an action leaves
none, but it has to be understood. -/
def close (tag : OpenTag) (stop : Nat) : Except MarkupError (List Span) :=
  if tag.isAction then
    if Action.isProper tag.parameters then .ok []
    else .error (.arguments (tag.parameters.getD []))
  else .ok [tag.span stop]

end OpenTag

/-- The name of a tag and its parameters, behind an equals sign. -/
def splitTag (inside : Text) : Text × Option Text :=
  match Text.cut? "=" inside with
  | some (name, parameters) => (name, some parameters)
  | none => (inside, none)

/-- The normal form of the name of a tag. -/
def normalName (name : Text) : Except MarkupError Text :=
  (StyleName.normal name).mapError .number

/-- The nearest open tag with a name, and the others. -/
def takeNamed? (name : Text) : List OpenTag → Option (OpenTag × List OpenTag)
  | [] => none
  | tag :: rest =>
    if tag.name = name then some (tag, rest)
    else (takeNamed? name rest).map fun r => (r.1, tag :: r.2)

/-- The tag that a closing one closes, and the others: the nearest of its
style, or the nearest of all when it has no name. -/
def takeClosed (inside name : Text) (stack : List OpenTag) :
    Except MarkupError (OpenTag × List OpenTag) := do
  let found ←
    if Text.isBlank name then
      pure (match stack with
        | [] => none
        | tag :: rest => some (tag, rest))
    else do
      let name ← normalName name.trim
      pure (takeNamed? name stack)
  match found with
  | some found => return found
  | none => throw (.nothingToClose inside)

/-- What pieces show behind a text of `length` code points, given the tags
that are open. Styles come in the order in which their tags are closed; the
tags left over are closed at the end, the innermost first. -/
def showPieces (length : Nat) (stack : List OpenTag) :
    List Piece → Except MarkupError Shown
  | [] => .ok ⟨[], stack.map (·.span length)⟩
  | .plain t :: rest => do
    let t := shownPlain t
    let s ← showPieces (length + t.length) stack rest
    return ⟨t ++ s.text, s.spans⟩
  | .tag inside :: rest =>
    match splitTag inside with
    | (.scalar '/' :: name, _) => do
      let (tag, stack) ← takeClosed inside name stack
      let closed ← tag.close length
      let s ← showPieces length stack rest
      return ⟨s.text, closed ++ s.spans⟩
    | (name, parameters) => do
      let tag : OpenTag := ⟨← normalName name, parameters, length⟩
      showPieces length (tag :: stack) rest

namespace Shown

/-- Is a style given to anything? In a text of one line without tabs every
style counts; otherwise one that holds no character of a line is lost with
the line ends. -/
def gives (s : Shown) (span : Span) : Bool :=
  !s.text.any (fun c => c = .scalar '\n' || c = .scalar '\t')
    || ((s.text.take span.stop).drop span.start).any (· != .scalar '\n')

/-- The first style that cannot be given, in the order of the places where
they start and, of one place, of later closed ones. -/
def fault? (s : Shown) : Option StyleName.NumberFault :=
  ((s.spans.reverse.mergeSort fun a b => a.start ≤ b.start).filter
    s.gives).findSome? fun span => StyleName.faultOf? span.style

end Shown

/-- What a markup shows. -/
def render (t : Text) : Except MarkupError Text :=
  match showPieces 0 [] (pieces t) with
  | .error e => .error e
  | .ok s =>
    match s.fault? with
    | some fault => .error (.number fault)
    | none => .ok s.text

-- ============================================================ escaping

/-- The markup with every tag made plain; `fuel` is at least its
length. -/
def escapeTags : Nat → Text → Text
  | 0, t => t
  | _ + 1, [] => []
  | fuel + 1, c :: t =>
    match tagAt? (c :: t) with
    | none => c :: escapeTags fuel t
    | some found =>
      List.replicate (2 * found.backslashes + 1) (.scalar '\\')
        ++ [.scalar '['] ++ found.inside ++ [.scalar ']']
        ++ escapeTags fuel found.after

/-- A text as markup. A single backslash at its end is doubled, so that it
does not meet a bracket that comes after it. -/
def escape (t : Text) : Text :=
  let escaped := escapeTags t.length t
  if Text.endsWith escaped "\\" && !Text.endsWith escaped "\\\\" then
    escaped ++ "\\"
  else escaped

end Marginalia.Markup
