import Scriptorium.Number.Binary64
import Scriptorium.Standin.Console.Display

/-!
Tables on the console. A column is as wide as the longest line in it, with a blank on either side,
and the widest columns give way when a table does not fit; a cell of several lines makes its row as
high, and short cells are filled with blanks. The heading stands in heavy lines, the rows in light
ones.
-/

namespace Scriptorium
set_option autoImplicit false

/-- A cell, as the text it shows. -/
abbrev Cell := List Char

namespace Layout
open Display

structure Rule where
  left : Char
  fill : Char
  cross : Char
  right : Char

def top : Rule := ⟨'┏', '━', '┳', '┓'⟩
def underHeading : Rule := ⟨'┡', '━', '╇', '┩'⟩
def bottom : Rule := ⟨'└', '─', '┴', '┘'⟩

/-- The cells of the longest line. Every line break counts here, and tabs take no room. -/
def cellWidth (c : Cell) : Nat :=
  ((c.splitOnP Text.isLineBreak).map textWidth).foldl max 0

/-- The width that each column asks for, the blanks on its sides counted. -/
def wantedWidths (heading : List Cell) (rows : List (List Cell)) : List Nat :=
  let widest := rows.foldl (fun ws row => ws.zipWith max (row.map cellWidth))
    (heading.map cellWidth)
  widest.map (· + 2)

/-- Takes an excess from the widest columns, which are `count`, in equal parts of at most `most`
cells each. -/
def narrowed (widest most : Nat) (excess count : Nat) : List Nat → List Nat
  | [] => []
  | w :: ws =>
    if w = widest then
      let part := min most (roundHalfEven excess count)
      (w - part) :: narrowed widest most (excess - part) (count - 1) ws
    else w :: narrowed widest most excess count ws

/-- Narrows the widest columns to the next widest ones, again and again, until the excess is gone
or the fuel is. -/
def collapse (room : Nat) : Nat → List Nat → List Nat
  | 0, ws => ws
  | fuel + 1, ws =>
    let excess := ws.foldl (· + ·) 0 - room
    if excess = 0 then ws
    else
      let widest := ws.foldl max 0
      let next := (ws.filter (· ≠ widest)).foldl max 0
      collapse room fuel
        (narrowed widest (min excess (widest - next)) excess (ws.count widest) ws)

/-- The width of each column, the blanks on its sides counted. Every round of narrowing takes at
least one cell. -/
def columnWidths (width : Nat) (wanted : List Nat) : List Nat :=
  let room := width - (wanted.length + 1)
  let capped := wanted.map (min room)
  collapse room (capped.foldl (· + ·) 0) capped

def joined (separator : Char) : List (List Char) → List Char
  | [] => []
  | [cs] => cs
  | cs :: rest => cs ++ separator :: joined separator rest

def ruleLine (r : Rule) (widths : List Nat) : List Char :=
  r.left :: joined r.cross (widths.map fun w => List.replicate w r.fill) ++ [r.right, '\n']

def padded (width : Nat) (cs : List Char) : List Char :=
  cs ++ List.replicate (width - textWidth cs) ' '

/-- The lines that a cell takes within a width, the blanks on its sides counted. -/
def cellLines (width : Nat) (c : Cell) : List (List Char) :=
  (lines .ellipsis (width - 2) c).map fun line => ' ' :: padded (width - 2) line ++ [' ']

/-- The lines of a row, between vertical bars. -/
def rowLines (bar : Char) (widths : List Nat) (row : List Cell) : List Char :=
  let blocks := widths.zipWith cellLines row
  let height := (blocks.map List.length).foldl max 1
  (List.range height).flatMap fun i =>
    bar :: joined bar (widths.zipWith (fun w block => padded w (block.getD i [])) blocks) ++
      [bar, '\n']

/-- The whole table, on a console of some width. -/
def table (width : Nat) (heading : List Cell) (rows : List (List Cell)) : List Char :=
  let widths := columnWidths width (wantedWidths heading rows)
  ruleLine top widths ++ rowLines '┃' widths heading ++ ruleLine underHeading widths ++
    rows.flatMap (rowLines '│' widths) ++ ruleLine bottom widths

end Layout

end Scriptorium
