/-
The names of text styles. A name is a row of words: attributes such as
`bold`, each with its short spellings, a `not` before an attribute that is
turned off, a colour, a colour behind the text after `on`, and an address
after `link`. Two names that mean one style have one normal form. A name
that means no style is known by itself, in lower case. Only a colour with a
part that is no number is not passed over: it is a fault.
-/
import Marginalia.Assoc
import Marginalia.Decimal.DigitLimit
import Marginalia.Text.Blank
import Marginalia.Text.DecimalDigit
import Marginalia.Text.Lowercase

namespace Marginalia.StyleName

-- ============================================================= colours

/-- Rows of colours that have names. -/
def colourRows : List String :=
  [ "aquamarine1 aquamarine3 black blue blue1 blue3 blue_violet",
    "bright_black bright_blue bright_cyan bright_green bright_magenta",
    "bright_red bright_white bright_yellow cadet_blue chartreuse1",
    "chartreuse2 chartreuse3 chartreuse4 cornflower_blue cornsilk1 cyan",
    "cyan1 cyan2 cyan3 dark_blue dark_cyan dark_goldenrod dark_green",
    "dark_khaki dark_magenta dark_olive_green1 dark_olive_green2",
    "dark_olive_green3 dark_orange dark_orange3 dark_red dark_sea_green",
    "dark_sea_green1 dark_sea_green2 dark_sea_green3 dark_sea_green4",
    "dark_slate_gray1 dark_slate_gray2 dark_slate_gray3 dark_turquoise",
    "dark_violet deep_pink1 deep_pink2 deep_pink3 deep_pink4",
    "deep_sky_blue1 deep_sky_blue2 deep_sky_blue3 deep_sky_blue4",
    "dodger_blue1 dodger_blue2 dodger_blue3 gold1 gold3 gray0 gray100",
    "gray11 gray15 gray19 gray23 gray27 gray3 gray30 gray35 gray37 gray39",
    "gray42 gray46 gray50 gray53 gray54 gray58 gray62 gray63 gray66",
    "gray69 gray7 gray70 gray74 gray78 gray82 gray84 gray85 gray89 gray93",
    "green green1 green3 green4 green_yellow grey0 grey100 grey11 grey15",
    "grey19 grey23 grey27 grey3 grey30 grey35 grey37 grey39 grey42 grey46",
    "grey50 grey53 grey54 grey58 grey62 grey63 grey66 grey69 grey7 grey70",
    "grey74 grey78 grey82 grey84 grey85 grey89 grey93 honeydew2 hot_pink",
    "hot_pink2 hot_pink3 indian_red indian_red1 khaki1 khaki3 light_coral",
    "light_cyan1 light_cyan3 light_goldenrod1 light_goldenrod2",
    "light_goldenrod3 light_green light_pink1 light_pink3 light_pink4",
    "light_salmon1 light_salmon3 light_sea_green light_sky_blue1",
    "light_sky_blue3 light_slate_blue light_slate_gray light_slate_grey",
    "light_steel_blue light_steel_blue1 light_steel_blue3 light_yellow3",
    "magenta magenta1 magenta2 magenta3 medium_orchid medium_orchid1",
    "medium_orchid3 medium_purple medium_purple1 medium_purple2",
    "medium_purple3 medium_purple4 medium_spring_green medium_turquoise",
    "medium_violet_red misty_rose1 misty_rose3 navajo_white1",
    "navajo_white3 navy_blue orange1 orange3 orange4 orange_red1 orchid",
    "orchid1 orchid2 pale_green1 pale_green3 pale_turquoise1",
    "pale_turquoise4 pale_violet_red1 pink1 pink3 plum1 plum2 plum3 plum4",
    "purple purple3 purple4 red red1 red3 rosy_brown royal_blue1 salmon1",
    "sandy_brown sea_green1 sea_green2 sea_green3 sky_blue1 sky_blue2",
    "sky_blue3 slate_blue1 slate_blue3 spring_green1 spring_green2",
    "spring_green3 spring_green4 steel_blue steel_blue1 steel_blue3 tan",
    "thistle1 thistle3 turquoise2 turquoise4 violet wheat1 wheat4 white",
    "yellow yellow1 yellow2 yellow3 yellow4" ]

/-- The colours that have names. -/
def colourNames : List Text :=
  colourRows.flatMap fun row => Text.splitOn (.scalar ' ') (.ofString row)

/-- A number up to 255 in at least one and at most three digits. -/
def isColourNumber (t : Text) : Bool :=
  !t.isEmpty && t.length ≤ 3 && t.all (·.isDigit) && Text.digitsValue t ≤ 255

/-- The text between a head and a closing parenthesis. -/
def insideOf? (head t : Text) : Option Text :=
  if t.startsWith head && t.endsWith ")" then
    some ((t.drop head.length).dropLast)
  else none

/-- Six hexadecimal digits after a hash. -/
def isHexColour : Text → Bool
  | .scalar '#' :: digits =>
    digits.length == 6 && digits.all fun c => c.hexDigit?.isSome
  | _ => false

/-- A part of a colour that should be a number and is none. -/
inductive NumberFault where
  | empty
  | tooManyDigits (count : Nat)
  deriving DecidableEq, Repr

/-- The fault in words. -/
def NumberFault.message : NumberFault → Text
  | .empty => "invalid literal for int() with base 10: ''"
  | .tooManyDigits count => DigitLimit.readMessage count

/-- Why a name means no style: a word that says nothing, or a colour with a
part that is no number. The latter is not passed over. -/
inductive Refusal where
  | unknownWord
  | number (fault : NumberFault)
  deriving DecidableEq, Repr

/-- The number in a part of a colour, whose digits may be of any script. -/
def readPart (part : Text) : Except Refusal Nat :=
  if part.isEmpty then .error (.number .empty)
  else if DigitLimit.digits < part.length then
    .error (.number (.tooManyDigits part.length))
  else .ok (Text.decimalValue part)

/-- Checks the three parts of a colour, between commas. -/
def checkParts (inside : Text) : Except Refusal Unit :=
  let parts := Text.splitOn (.scalar ',') inside
  if inside.isEmpty || inside.any (fun c => !c.isDecimal && c != .scalar ',')
      || parts.length != 3 then
    .error .unknownWord
  else
    match parts.mapM readPart with
    | .error refusal => .error refusal
    | .ok values =>
      if values.all (· ≤ 255) then .ok () else .error .unknownWord

/-- Checks that a word in lower case names a colour. -/
def checkColour (word : Text) : Except Refusal Unit :=
  if word == Text.ofString "default" || colourNames.contains word
      || isHexColour word || (insideOf? "color(" word).any isColourNumber then
    .ok ()
  else
    match insideOf? "rgb(" word with
    | some inside => checkParts inside
    | none => .error .unknownWord

-- ============================================================== styles

/-- The attributes in the order of the normal form, with the spellings of
each, the main one first. -/
def attributes : List (List Text) :=
  [ ["bold", "b"], ["dim", "d"], ["italic", "i"], ["underline", "u"],
    ["blink"], ["blink2"], ["reverse", "r"], ["conceal", "c"],
    ["strike", "s"], ["underline2", "uu"], ["frame"], ["encircle"],
    ["overline", "o"] ]

/-- The main spelling of an attribute. -/
def attribute? (word : Text) : Option Text :=
  (attributes.find? (·.contains word)).bind (·.head?)

/-- What a name says: attributes on or off, the colours, and the
address. -/
structure Style where
  attributes : Assoc Bool := []
  colour : Option Text := none
  behind : Option Text := none
  link : Option Text := none

/-- Adds the words of a name, one after the other; the first word that is
refused spoils the name. -/
def addWords (s : Style) : List Text → Except Refusal Style
  | [] => .ok s
  | word :: rest =>
    let word := word.lower
    if word = "on" then
      match rest with
      | [] => .error .unknownWord
      | colour :: rest =>
        match checkColour colour.lower with
        | .ok () => addWords { s with behind := some colour.lower } rest
        | .error refusal => .error refusal
    else if word = "not" then
      match rest with
      | [] => .error .unknownWord
      | other :: rest =>
        match attribute? other with
        | some name =>
          addWords { s with attributes := s.attributes.put name false } rest
        | none => .error .unknownWord
    else if word = "link" then
      match rest with
      | [] => .error .unknownWord
      | address :: rest => addWords { s with link := some address } rest
    else
      match attribute? word with
      | some name =>
        addWords { s with attributes := s.attributes.put name true } rest
      | none =>
        match checkColour word with
        | .ok () => addWords { s with colour := some word } rest
        | .error refusal => .error refusal

/-- The words of an attribute that is set. -/
def attributeWords (s : Style) (name : Text) : List Text :=
  match s.attributes.get? name with
  | some true => [name]
  | some false => ["not", name]
  | none => []

/-- What a word introduces, after that word. -/
def after (word : Text) : Option Text → List Text
  | some what => [word, what]
  | none => []

/-- The words of the normal form. -/
def words (s : Style) : List Text :=
  (attributes.filterMap (·.head?)).flatMap (attributeWords s)
    ++ s.colour.toList
    ++ after "on" s.behind ++ after "link" s.link

/-- The words of a text between its white space. -/
def splitWords (t : Text) : List Text :=
  (Text.splitOn (.scalar ' ')
    (t.map fun c => if c.isBlank then .scalar ' ' else c)).filter
      (!·.isEmpty)

/-- Reads the style that a name means. -/
def read (name : Text) : Except Refusal Style := addWords {} (splitWords name)

/-- The normal form of a name. -/
def normal (name : Text) : Except NumberFault Text :=
  if name.trim = "none" then .ok "none"
  else
    match read name with
    | .ok s =>
      .ok (if (words s).isEmpty then "none" else Text.joinWith " " (words s))
    | .error .unknownWord => .ok name.trim.lower
    | .error (.number fault) => .error fault

/-- The fault that makes a style fail when it is shown. A name that means
no style shows nothing and does not fail. -/
def faultOf? (name : Text) : Option NumberFault :=
  match normal name with
  | .ok _ => none
  | .error fault => some fault

end Marginalia.StyleName
