/-
Pictographs by name. A name between two colons, without white space in it,
stands for its pictograph; case does not count. Behind the name `-emoji` or
`-text` may choose in which of its two forms the pictograph is shown. A
name that means nothing is left as it is, both its colons with it.
-/
import Marginalia.Display.EmojiTable
import Marginalia.Text.Blank
import Marginalia.Text.Lowercase

namespace Marginalia.Emoji

/-- The choices of a form, each with the selector that asks for it. -/
def forms : List (Text × CodePoint) :=
  [("-emoji:", .ofNat 0xFE0F), ("-text:", .ofNat 0xFE0E)]

/-- What follows an opening colon: the name, the selector of the form if
one is chosen, and the text after the closing colon. -/
structure Reference where
  name : Text
  selector : Text
  after : Text

/-- The reference behind an opening colon, if a closing one comes before
any white space. -/
def reference? : Text → Option Reference
  | [] => none
  | c :: t =>
    match forms.find? fun form => Text.startsWith (c :: t) form.1 with
    | some (words, selector) =>
      some ⟨[], [selector], (c :: t).drop words.length⟩
    | none =>
      if c = .scalar ':' then some ⟨[], [], t⟩
      else if c.isBlank then none
      else (reference? t).map fun r => { r with name := c :: r.name }

/-- The pictograph of a reference, if its name means one. -/
def Reference.picture? (r : Reference) : Option Text :=
  (names.get? r.name.lower).map (· ++ r.selector)

/-- The text with the pictographs in it; `fuel` is at least its length. -/
def replaceFrom : Nat → Text → Text
  | 0, t => t
  | _ + 1, [] => []
  | fuel + 1, c :: t =>
    match if c = .scalar ':' then reference? t else none with
    | none => c :: replaceFrom fuel t
    | some r =>
      let asWritten := c :: t.take (t.length - r.after.length)
      r.picture?.getD asWritten ++ replaceFrom fuel r.after

/-- The text with the pictographs in the place of their names. -/
def replace (t : Text) : Text := replaceFrom t.length t

end Marginalia.Emoji
