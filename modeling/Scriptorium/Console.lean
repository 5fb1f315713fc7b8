/-!
The console that the commands print on. It belongs to a library of its own: what it reads in a
text, how it breaks lines and how it draws a table is not said here but given (`Console`).

A text is read as markup, which can be unsound, unless it is printed as it is; the cells of a table
are always read. Of all consoles it is known how they deal with a text in which there is next to
nothing to read, and that what has room on a line is not broken (`Console.ReadsMarkup`).
-/

namespace Scriptorium
set_option autoImplicit false

@[ext]
structure Table where
  heading : List String
  rows : List (List String)
  deriving DecidableEq, Repr

namespace Console

/-- Why a text cannot be shown. -/
inductive Fault where
  | markup (message : String)
  | foreign (kind message : String)
  deriving DecidableEq, Repr

end Console

structure Console where
  /-- How many characters a line has room for. -/
  width : Nat
  /-- What is seen of a text that is read as markup. -/
  shown : String → Except Console.Fault String
  /-- What is seen of a text that is not. -/
  plain : String → String
  /-- The lines of a text of which all is seen. -/
  printed : String → String
  /-- The lines of a table of such texts. -/
  laidOut : Table → String

namespace Console
variable (con : Console)

def line (s : String) : String := con.printed (con.plain s)

def markupLine (s : String) : Except Fault String := (con.shown s).map con.printed

/-- What is seen in the cells of a table. -/
def cells (t : Table) : Except Fault Table := do
  return ⟨← t.heading.mapM con.shown, ← t.rows.mapM fun row => row.mapM con.shown⟩

def table (t : Table) : Except Fault String := (con.cells t).map con.laidOut

end Console

/-! ## What is known of consoles -/

namespace Console

/-- A character that is no control. -/
def isVisible (c : Char) : Bool := 0x20 ≤ c.toNat

/-- A character that takes the room of one, wherever it stands. -/
def isNarrow (c : Char) : Bool := 0x20 ≤ c.toNat && c.toNat < 0x7f

/-- There is nothing in the text that could be markup, or the name of a picture. -/
def IsBare (s : String) : Prop :=
  s.toList.all fun c => isVisible c && c != '[' && c != ':' && c != '\\'

instance (s : String) : Decidable (IsBare s) := by unfold IsBare; infer_instance

/-- The text has no controls but for the ends of its lines, and names no picture. -/
def IsPlain (s : String) : Prop := s.toList.all fun c => (isVisible c || c == '\n') && c != ':'

/-- The name of a style, of small letters. -/
def IsTagName (s : String) : Prop := s.toList.all Char.isLower

/-- A text of narrow characters, on lines for which there is room. -/
def HasRoom (width : Nat) (s : String) : Prop :=
  ∀ l ∈ s.toList.splitOnP (· == '\n'), l.all isNarrow ∧ l.length ≤ width

end Console

namespace Table

/-- The number of characters in the longest text of each column. -/
def widths (t : Table) : List Nat :=
  t.rows.foldl (fun ws row => ws.zipWith max (row.map String.length)) (t.heading.map String.length)

/-- All rows are as long as the heading, their texts are of narrow characters, and there is room for
the columns, with a blank on either side of each and a bar on either side of that. -/
structure HasRoom (width : Nat) (t : Table) : Prop where
  rectangular : ∀ row ∈ t.rows, row.length = t.heading.length
  narrow : ∀ row ∈ t.heading :: t.rows, ∀ s ∈ row, s.toList.all Console.isNarrow
  room : t.widths.foldl (fun n w => n + w + 3) 1 ≤ width

end Table

namespace Console

/-- How a console is known to read texts. A tag with the name of a style is not seen, and one that
closes a style is unsound if none is open. -/
structure ReadsMarkup (con : Console) : Prop where
  bare {s : String} : IsBare s → con.shown s = .ok s
  tag {before name after : String} : IsBare before → IsTagName name → name ≠ "" → IsBare after →
    con.shown (before ++ "[" ++ name ++ "]" ++ after) = .ok (before ++ after)
  closing {before name after : String} : IsBare before → IsTagName name →
    ∃ message, con.shown (before ++ "[/" ++ name ++ "]" ++ after) = .error (.markup message)
  plain {s : String} : IsPlain s → con.plain s = s
  printed {s : String} : HasRoom con.width s → con.printed s = s ++ "\n"
  laidOut {t : Table} : t.HasRoom con.width → ∀ row ∈ t.heading :: t.rows, ∀ s ∈ row,
    s.toList <:+: (con.laidOut t).toList

end Console

end Scriptorium
