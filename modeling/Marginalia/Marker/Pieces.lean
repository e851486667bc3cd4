/-
The pieces of a marker line. The content of a comment is a marker when it
starts with `@!` and a key follows; the words `begin` and `end` in the
place of the key make it a block marker, whose key comes after them.

    @!key [value] [tags=[...]] [block] [tags=[...]]
    @!begin key [value] [tags=[...]] [block] [tags=[...]]
    @!end key

A value is a quoted string or a run without white space and without an
opening brace; a block runs from an opening brace to the brace that matches
it. A string, a bracket or a brace that is never closed takes everything up
to the end of the line. What is left at the end is a remark.

Nothing is decoded here: the pieces are slices of the content.
-/
import Marginalia.Text.Blank
import Marginalia.Text.Quoting

namespace Marginalia.Marker

-- ============================================================== pieces

/-- The three forms of a marker. -/
inductive Kind where
  | inline
  | blockBegin
  | blockEnd
  deriving DecidableEq, Repr

/-- The pieces of a marker line as they are written: the value, the
property block with its braces, and the inside of the tag lists. -/
structure Pieces where
  kind : Kind
  key : Text
  value : Option Text
  properties : Option Text
  tags : Option Text
  deriving DecidableEq, Repr

-- ================================================================ keys

/-- May a key start with this? -/
def startsKey (c : CodePoint) : Bool := c.isLetter || c == .scalar '_'

/-- May a key go on with this? -/
def continuesKey (c : CodePoint) : Bool :=
  startsKey c || c.isDigit || c == .scalar '-'

/-- May this follow a key? -/
def endsKey : Text → Bool
  | [] => true
  | c :: _ => c.isBlank || c == .scalar '\x7b'

/-- The key at the head of a text and what follows it. -/
def readKey? : Text → Option (Text × Text)
  | [] => none
  | c :: t =>
    if startsKey c then
      let key := c :: t.takeWhile continuesKey
      let rest := t.dropWhile continuesKey
      if endsKey rest then some (key, rest) else none
    else none

-- ======================================================== tags, values

/-- The text after a pattern that it starts with. -/
def after? (pattern t : Text) : Option Text :=
  if t.startsWith pattern then some (t.drop pattern.length) else none

/-- The text behind the opening bracket of a tag list at the head of a
text. -/
def tagList? (t : Text) : Option Text :=
  ((after? "tags" t).bind fun t => after? "=" t.trimLeft).bind fun t =>
    after? "[" t.trimLeft

/-- Reads a tag list: its inside, if there is one, and what follows. -/
def readTags (t : Text) : Option Text × Text :=
  match tagList? t with
  | none => (none, t)
  | some body =>
    match Text.bracketSpanFrom .outside body with
    | none => (some body, [])
    | some n => (some (body.take (n - 1)), body.drop n)

/-- Does a value without quotes go on with this? -/
def continuesValue (c : CodePoint) : Bool :=
  !c.isBlank && c != .scalar '\x7b'

/-- Reads a value, if one comes before the tags and the block. -/
def readValue (t : Text) : Option Text × Text :=
  match t with
  | [] => (none, [])
  | c :: _ =>
    if c = .scalar '\x7b' || (tagList? t).isSome then (none, t)
    else if c = .scalar '"' then
      match t.stringSpan with
      | none => (some t, [])
      | some n => (some (t.take n), t.drop n)
    else (some (t.takeWhile continuesValue), t.dropWhile continuesValue)

/-- Reads a property block. -/
def readBlock (t : Text) : Option Text × Text :=
  match t with
  | .scalar '\x7b' :: _ =>
    match t.braceSpan with
    | none => (some t, [])
    | some n => (some (t.take n), t.drop n)
  | _ => (none, t)

/-- The insides of two tag lists as one: blank ones are left out. -/
def joinTags : Option Text → Option Text → Option Text
  | none, more => more
  | some tags, none => some tags
  | some tags, some more =>
    some (Text.joinWith "," ([tags, more].filter fun t => !t.isBlank))

-- ============================================================= markers

/-- Does the content of a comment start with `@!`? -/
def isAnnotation (content : Text) : Bool := content.trimLeft.startsWith "@!"

/-- The pieces behind the key of an inline or a begin marker. -/
def readBody (kind : Kind) (key body : Text) : Pieces :=
  let (value, t) := readValue body.trimLeft
  let (tags, t) := readTags t.trimLeft
  let (properties, t) := readBlock t.trimLeft
  let (more, _) := readTags t.trimLeft
  ⟨kind, key, value, properties, joinTags tags more⟩

/-- The pieces behind `begin` or `end`: white space and another key. -/
def readBlockMarker (kind : Kind) (t : Text) : Option Pieces :=
  let t' := t.trimLeft
  if t'.length = t.length then none
  else
    match readKey? t' with
    | none => none
    | some (key, body) =>
      if kind = .blockEnd then some ⟨kind, key, none, none, none⟩
      else some (readBody kind key body)

/-- The pieces of the content of a comment, if it is a marker. -/
def pieces? (content : Text) : Option Pieces :=
  if isAnnotation content then
    match readKey? (content.trim.drop 2) with
    | none => none
    | some (word, t) =>
      if word = "begin" then readBlockMarker .blockBegin t
      else if word = "end" then readBlockMarker .blockEnd t
      else some (readBody .inline word t)
  else none

end Marginalia.Marker
