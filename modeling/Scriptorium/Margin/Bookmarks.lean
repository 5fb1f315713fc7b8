import Scriptorium.Margin.Markers

/-!
Putting bookmarks into the margin and taking them out. Each operation tells of every bookmark
that came or went, and asks for at most one redraw of its own.

A refused bookmark (`refusal?`) leaves the margin as it was: a line bookmark needs a line of the
script, and a line has room for one breakpoint.
-/

namespace Scriptorium
set_option autoImplicit false

namespace Margin
variable {κ ω : Type}

inductive Refusal where
  | outOfRange
  | occupied (line : Int)
  deriving DecidableEq, Repr

/-- Whether the script has such a line, as far as its length is known. -/
def InRange (s : Margin κ ω) (line : Int) : Prop := 1 ≤ line ∧ ∀ n, s.lineCount = some n → line ≤ n

instance (s : Margin κ ω) (line : Int) : Decidable (s.InRange line) :=
  match h : s.lineCount with
  | none => decidable_of_iff (1 ≤ line) (by simp [InRange, h])
  | some n => decidable_of_iff (1 ≤ line ∧ line ≤ n) (by simp [InRange, h])

def refusal? (s : Margin κ ω) (b : BookmarkId) : Option Refusal :=
  if (s.bookmark b).kind.OnLine then
    match s.lineNumber? b with
    | none => some .outOfRange
    | some line =>
      if ¬ s.InRange line then some .outOfRange
      else if (s.bookmark b).kind = .breakpoint ∧ (s.find? .breakpoint line).isSome then
        some (.occupied line)
      else none
  else none

/-- Only a second breakpoint on a line is worth an entry in the journal. -/
def logRefusal (s : Margin κ ω) : Refusal → Margin κ ω
  | .outOfRange => s
  | .occupied line => s.log ⟨.debug, "Breakpoint already set on line " ++ toString line⟩

/-- Takes a bookmark into the margin; the answer says whether it is new there. It is told when
the marker that it brings along is deleted. -/
def add (h : Reaction κ ω) (s : Margin κ ω) (b : BookmarkId) :
    Margin κ ω × Except Misplaced Bool :=
  if b ∈ s.stored then (s, .ok false)
  else match s.refusal? b with
    | some r => (s.logRefusal r, .ok false)
    | none =>
      match s.tracker.track (s.bookmark b).anchor with
      | .error e => (s, .error e)
      | .ok tracker =>
        let s := { s with tracker := tracker, stored := s.stored ++ [b] }
        let s := match (s.bookmark b).marker with
          | some m => s.watch b m
          | none => s
        (notifyChanged h (notifyRedraw h s) b false, .ok true)

/-- Takes a bookmark out with its marker, without a word about the bookmark itself. -/
def discard (h : Reaction κ ω) (s : Margin κ ω) (b : BookmarkId) : Margin κ ω :=
  let marker := (s.bookmark b).marker
  let s := { s with
    stored := s.stored.filter (· ≠ b)
    tracker := s.tracker.untrack (s.bookmark b).anchor }
  let s := s.modifyBookmark b fun x => { x with marker := none }
  match marker with
  | some m => (removeMarker h s m).1
  | none => s

/-- Takes a bookmark out of the margin; the answer says whether it was there. -/
def remove (h : Reaction κ ω) (s : Margin κ ω) (b : BookmarkId) : Margin κ ω × Bool :=
  if b ∈ s.stored then
    (notifyChanged h (notifyRedraw h (discard h s b)) b true, true)
  else (s, false)

/-- Takes each of the bookmarks out and tells of it before going on to the next. -/
def discardEach (h : Reaction κ ω) (s : Margin κ ω) (bs : List BookmarkId) : Margin κ ω :=
  bs.foldl (fun s b => notifyChanged h (discard h s b) b true) s

/-- Takes out what is of the kind and on the line; the answer is how many were found there. -/
def removeAt (h : Reaction κ ω) (s : Margin κ ω) (kind : Kind) (line : Int) : Margin κ ω × Nat :=
  let doomed := s.stored.filter fun b => s.IsAt kind line b
  let s := discardEach h s doomed
  (if doomed.isEmpty then s else notifyRedraw h s, doomed.length)

/-- Puts a new bookmark of the kind on the line. The answer is the bookmark, if it was taken. -/
def addOnLine (h : Reaction κ ω) (s : Margin κ ω) (kind : Kind) (line : Int) :
    Margin κ ω × Except Misplaced (Option BookmarkId) :=
  let (s, b) := s.newBookmark kind (.line line) "" none
  match add h s b with
  | (s, .ok true) => (s, .ok (some b))
  | (s, .ok false) => (s, .ok none)
  | (s, .error e) => (s, .error e)

/-- Takes the breakpoint off the line if there is one and sets one otherwise. The answer is the
new breakpoint. -/
def toggleBreakpoint (h : Reaction κ ω) (s : Margin κ ω) (line : Int) :
    Margin κ ω × Except Misplaced (Option BookmarkId) :=
  match removeAt h s .breakpoint line with
  | (s, 0) => addOnLine h s .breakpoint line
  | (s, _ + 1) => (s, .ok none)

def clearDebugPoint (h : Reaction κ ω) (s : Margin κ ω) : Margin κ ω :=
  (s.bookmarksOf .debugPoint).foldl (fun s b => (remove h s b).1) s

/-- Moves the debug point to the line. The former one goes even if the line is refused. -/
def setDebugPoint (h : Reaction κ ω) (s : Margin κ ω) (line : Int) :
    Margin κ ω × Except Misplaced (Option BookmarkId) :=
  addOnLine h (clearDebugPoint h s) .debugPoint line

/-- Shows a stored bookmark by a new marker over the given stretch, in place of the marker it
had. -/
def attachMarker (h : Reaction κ ω) (s : Margin κ ω) (b : BookmarkId) (x : Span) :
    Margin κ ω × Except Misplaced (Option MarkerId) :=
  if b ∈ s.stored then
    let s := match (s.bookmark b).marker with
      | some m => (removeMarker h s m).1
      | none => s
    match s.createMarker x with
    | .error e => (s, .error e)
    | .ok (s, m) =>
      let s := s.modifyMarker m fun y => { y with tag := .bookmark b }
      let s := s.modifyBookmark b fun y => { y with marker := some m }
      (applyLook h (s.watch b m) m (s.bookmark b).kind, .ok (some m))
  else (s, .ok none)

end Margin

end Scriptorium
