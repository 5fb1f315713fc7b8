import Scriptorium.Margin.Bookmarks

/-!
Edits of the text. The tracker moves the anchors; the margin then tells of every bookmark that
went with its line, and after that of every bookmark that moved, in the order of the margin.
-/

namespace Scriptorium
set_option autoImplicit false

namespace Margin
variable {κ ω : Type}

/-- Tells of the removed bookmarks and of those whose anchor moved, and asks for a redraw if
there were any. -/
def announce (h : Reaction κ ω) (s : Margin κ ω) (removed : List BookmarkId)
    (anchors : List Anchor) : Margin κ ω :=
  let moved := s.stored.filter fun b => (s.bookmark b).anchor ∈ anchors
  let s := removed.foldl (fun s b => notifyChanged h s b true) s
  let s := moved.foldl (fun s b => notifyChanged h s b false) s
  if removed.isEmpty && moved.isEmpty then s else notifyRedraw h s

def linesInserted (h : Reaction κ ω) (s : Margin κ ω) (first count : Int) : Margin κ ω :=
  let (tracker, moved) := s.tracker.insertLines first count
  announce h { s with tracker := tracker } [] (moved.map .line)

/-- The bookmarks on the deleted lines leave the margin. -/
def linesDeleted (h : Reaction κ ω) (s : Margin κ ω) (first count : Int) : Margin κ ω :=
  let (tracker, displaced) := s.tracker.deleteLines first count
  let s := { s with tracker := tracker }
  let removed := s.stored.filter fun b => (s.bookmark b).anchor ∈ displaced.removed.map .line
  announce h (removed.foldl (discard h) s) removed (displaced.moved.map .line)

def charactersInserted (h : Reaction κ ω) (s : Margin κ ω) (start count : Int) : Margin κ ω :=
  let (tracker, moved) := s.tracker.insertCharacters start count
  announce h { s with tracker := tracker } [] (moved.map .span)

def charactersDeleted (h : Reaction κ ω) (s : Margin κ ω) (start count : Int) : Margin κ ω :=
  let (tracker, moved) := s.tracker.deleteCharacters start count
  announce h { s with tracker := tracker } [] (moved.map .span)

end Margin

end Scriptorium
