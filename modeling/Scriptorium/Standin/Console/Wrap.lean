import Scriptorium.Standin.Console.Grapheme
import Scriptorium.Text.Class

/-!
Lines of a given width. A line is filled with words as long as they fit; the blanks behind a word
belong to it and may hang beyond the end. A word that fits on no line begins a new one and is
folded or cut. Of a text only hanging blanks are dropped and what is cut.
-/

namespace Scriptorium
set_option autoImplicit false

/-- What becomes of a word that fits on no line: it goes on in the next ones, or an ellipsis
stands for what is missing. -/
inductive Overflow where
  | fold
  | ellipsis
  deriving DecidableEq, Repr

namespace Display
open Text

/-- The words of a text, each with the blanks behind it. Blanks in front are a word too. -/
def words : List Char → List (List Char)
  | [] => []
  | c :: cs =>
    match words cs with
    | [] => [[c]]
    | w :: ws => if isBlank c && !w.head?.any isBlank then [c] :: w :: ws else (c :: w) :: ws

/-- The words of a text, where the blanks in front belong to the first one. -/
def wordsToFill (cs : List Char) : List (List Char) :=
  match words cs with
  | w :: v :: ws => if w.all isBlank then (w ++ v) :: ws else w :: v :: ws
  | ws => ws

/-- The cells of a word, the blanks behind it left out. -/
def wordWidth (w : List Char) : Nat := textWidth (w.reverse.dropWhile isBlank).reverse

/-- A line that has been filled, unless it is empty. -/
def filled (line : List Char) : List (List Char) := if line = [] then [] else [line]

/-- Fills lines with words; `line` is the line begun, of `used` cells. -/
def fill (o : Overflow) (width : Nat) (line : List Char) (used : Nat) :
    List (List Char) → List (List Char)
  | [] => [line]
  | w :: ws =>
    if used + wordWidth w ≤ width then fill o width (line ++ w) (used + textWidth w) ws
    else if o = .fold ∧ width < wordWidth w then
      let pieces := chop width w
      let last := pieces.getLast?.getD []
      filled line ++ pieces.dropLast ++ fill o width last (textWidth last) ws
    else filled line ++ fill o width w (textWidth w) ws

/-- The line without blanks at its end, as far as it has more characters than the width. -/
def withoutHanging (width : Nat) (line : List Char) : List Char :=
  let blanks := (line.reverse.takeWhile isBlank).length
  line.take (line.length - min blanks (line.length - width))

def fitted (o : Overflow) (width : Nat) (line : List Char) : List Char :=
  if textWidth line ≤ width then line
  else match o with
    | .fold => cutTo width (graphemes line)
    | .ellipsis => cutTo (width - 1) (graphemes line) ++ ['…']

def wrap (o : Overflow) (width : Nat) (cs : List Char) : List (List Char) :=
  (fill o width [] 0 (wordsToFill cs)).map fun line => fitted o width (withoutHanging width line)

end Display

end Scriptorium
