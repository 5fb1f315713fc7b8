import Scriptorium.Console
import Scriptorium.Standin.Console.Layout
import Scriptorium.Standin.Console.Markup

/-!
A console for the program to run with, in place of the one that a library provides. Nothing that is
said of the commands depends on it.
-/

namespace Scriptorium
set_option autoImplicit false

namespace Standin

def consoleFault : Markup.Fault → Console.Fault
  | .unmatched tag =>
    .markup ("Nothing is open for the tag [" ++ String.ofList tag ++ "] to close.")
  | .notANumber => .foreign "value" "The parts of a colour are no numbers."

def console (width : Nat) : Console where
  width
  shown s := ((Markup.shown s.toList).map String.ofList).mapError consoleFault
  plain s := String.ofList (Display.visible s.toList)
  printed s := String.ofList (Display.printed width s.toList)
  laidOut t := String.ofList <|
    Layout.table width (t.heading.map String.toList) (t.rows.map (·.map String.toList))

end Standin

end Scriptorium
