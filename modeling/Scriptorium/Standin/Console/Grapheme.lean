import Scriptorium.Standin.Console.Width

/-!
Texts measured in cells. A text is cut into graphemes: a character that takes cells, with those
behind it that take none of their own. A joiner takes the character behind it into the grapheme,
and the sign that asks for a picture widens the letters that have one.
-/

namespace Scriptorium
set_option autoImplicit false

namespace Display

structure Grapheme where
  chars : List Char
  width : Nat
  deriving DecidableEq, Repr

/-- The character that joins the next one to the one before. -/
def joiner : Char := '\u200d'

/-- The sign that asks for a picture. -/
def pictureSign : Char := '\ufe0f'

/-- The graphemes of a text, when one is begun already and `last` is the character whose picture
can still be asked for. -/
def graphemesFrom (g : Grapheme) (last : Option Char) : List Char → List Grapheme
  | [] => [g]
  | c :: cs =>
    if c = joiner then
      match cs with
      | [] => [{ g with chars := g.chars ++ [c] }]
      | d :: ds => graphemesFrom { g with chars := g.chars ++ [c, d] } last ds
    else if c = pictureSign then
      if last.any isPicture then graphemesFrom ⟨g.chars ++ [c], g.width + 1⟩ none cs
      else graphemesFrom { g with chars := g.chars ++ [c] } last cs
    else if charWidth c = 0 then graphemesFrom { g with chars := g.chars ++ [c] } last cs
    else g :: graphemesFrom ⟨[c], charWidth c⟩ (some c) cs

def graphemes : List Char → List Grapheme
  | [] => []
  | c :: cs => graphemesFrom ⟨[c], charWidth c⟩ (if charWidth c = 0 then none else some c) cs

/-- The text without the joiners in front, which have nothing to join to and hide what is behind
them. -/
def measured : List Char → List Char
  | [] => []
  | c :: cs =>
    if c = joiner then
      match cs with
      | [] => []
      | _ :: ds => measured ds
    else c :: cs

def textWidth (cs : List Char) : Nat :=
  (graphemes (measured cs)).foldl (fun n g => n + g.width) 0

/-- The graphemes that fit into a width, and blanks for the part of it that the next one would
have taken. -/
def cutTo (width : Nat) : List Grapheme → List Char
  | [] => []
  | g :: gs =>
    if g.width ≤ width then g.chars ++ cutTo (width - g.width) gs else List.replicate width ' '

/-- The text in pieces that fit into a width; `line` is the piece begun, of `used` cells. -/
def chopFrom (width : Nat) (line : List Char) (used : Nat) : List Grapheme → List (List Char)
  | [] => [line]
  | g :: gs =>
    if used + g.width ≤ width then chopFrom width (line ++ g.chars) (used + g.width) gs
    else line :: chopFrom width g.chars g.width gs

def chop (width : Nat) (cs : List Char) : List (List Char) := chopFrom width [] 0 (graphemes cs)

end Display

end Scriptorium
