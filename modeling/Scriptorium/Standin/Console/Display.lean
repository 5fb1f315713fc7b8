import Scriptorium.Standin.Console.Emoji
import Scriptorium.Standin.Console.Wrap

/-!
Texts on the console: a tab advances to the next multiple of eight columns, and a line that is too
wide is wrapped. Each printed text ends its line.
-/

namespace Scriptorium
set_option autoImplicit false

namespace Display

def tabWidth : Nat := 8

/-- Joins the parts between tabs; `column` is where the first one begins. A tab is one blank, and
as many more as are missing from the next stop. -/
def joinTabbed (column : Nat) : List (List Char) → List Char
  | [] => []
  | [part] => part
  | part :: parts =>
    let column := column + textWidth (part ++ [' '])
    let missing := (tabWidth - column % tabWidth) % tabWidth
    part ++ ' ' :: List.replicate missing ' ' ++ joinTabbed (column + missing) parts

/-- A line with blanks for its tabs. -/
def expandTabs (line : List Char) : List Char := joinTabbed 0 (line.splitOnP (· == '\t'))

def lines (o : Overflow) (width : Nat) (cs : List Char) : List (List Char) :=
  (cs.splitOnP (· == '\n')).flatMap fun line => wrap o width (expandTabs line)

/-- A text on the lines of a console, each with its end. -/
def printed (width : Nat) (cs : List Char) : List Char :=
  (lines .fold width cs).flatMap fun line => line ++ ['\n']

end Display

end Scriptorium
