/-
The console of the program: markup, lines and tables as this library shows
them, within a width. The commands are written for any console, and what is
said of them is said of every lawful one; this is the one that they run on.
-/
import Marginalia.Display.Grid
import Marginalia.Display.Markup

namespace Marginalia.Display

/-- What is wrong with a markup, as a console says it. -/
def faultOf (e : Markup.MarkupError) : Console.Fault :=
  match e with
  | .number _ => .value e.message
  | .nothingToClose _ | .arguments _ => .markup e.message

/-- A console of a width. -/
def console (width : Nat) : Console where
  width := width
  escape := Markup.escape
  markup t := (Markup.render t).mapError faultOf
  printed := Layout.printed width
  table := Grid.render width

end Marginalia.Display
