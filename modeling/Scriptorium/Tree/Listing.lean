import Scriptorium.Tree.Parse

/-!
Listings: syntax trees as a parser leaves them in a file. Each node has a line with its depth, its
first and last byte, its first and last row, a one if it is missing or else a zero, and its kind,
with single blanks between them; its children follow it, one level deeper.
-/

namespace Scriptorium
set_option autoImplicit false

namespace Listing

/-- A node as its line tells it, with its depth. -/
structure Item where
  depth : Nat
  node : RawNode

private def number? (cs : List Char) : Option Nat := (String.ofList cs).toNat?

def item? (line : List Char) : Option Item :=
  match line.splitOnP (· == ' ') with
  | depth :: startByte :: endByte :: startRow :: endRow :: missing :: kind => do
    let node : RawNode := ⟨String.ofList (List.intercalate [' '] kind), ← number? startByte,
      ← number? endByte, ← number? startRow, ← number? endRow, (← number? missing) != 0, []⟩
    return ⟨← number? depth, node⟩
  | _ => none

/-- The trees at a depth that a list of items begins with, and the items that follow them. There
are no more levels and no more trees than items. -/
def forest : Nat → Nat → List Item → List RawNode × List Item
  | 0, _, items => ([], items)
  | _, _, [] => ([], [])
  | fuel + 1, depth, i :: items =>
    if i.depth = depth then
      let (children, items) := forest fuel (depth + 1) items
      let (siblings, items) := forest fuel depth items
      ({ i.node with children := children } :: siblings, items)
    else ([], i :: items)

/-- The tree that a listing describes, if it describes one and nothing else. -/
def read? (text : String) : Option RawNode := do
  let lines := (text.toList.splitOnP (· == '\n')).filter (· ≠ [])
  let items ← lines.mapM item?
  match forest (items.length + 1) 0 items with
  | ([root], []) => some root
  | _ => none

end Listing

end Scriptorium
