import Scriptorium.Signal
import Scriptorium.Tracker

/-!
The margin of a script: bookmarks, which say what holds of a line or of a stretch of text, and
markers, the styled stretches by which a stretch of text is shown. This module has the types and
the plain reading and writing of single fields; nothing here calls a listener.

Bookmarks and markers are numbers. What is known of each is kept in a registry for good; `stored`
and `live` list those that are in the margin now, in the order in which they came. A bookmark
and a marker, or several markers, may share one anchor.
-/

namespace Scriptorium
set_option autoImplicit false

abbrev BookmarkId := Nat
abbrev MarkerId := Nat

inductive Kind where
  | breakpoint
  | parseError
  | debugPoint
  deriving DecidableEq, Repr, Inhabited

/-- Breakpoints and the debug point belong to whole lines, parse errors to characters. -/
def Kind.OnLine (k : Kind) : Prop := k ≠ .parseError

instance (k : Kind) : Decidable k.OnLine := by unfold Kind.OnLine; infer_instance

structure Bookmark where
  kind : Kind
  anchor : Anchor
  message : String
  marker : Option MarkerId
  deriving DecidableEq, Repr, Inhabited

/-- The properties of a marker that the display depends on. -/
inductive StyleProperty where
  | backgroundColor
  | foregroundColor
  | fontWeight
  | fontStyle
  | markerColor
  deriving DecidableEq, Repr

structure Style where
  backgroundColor : Option String
  foregroundColor : Option String
  fontWeight : Option String
  fontStyle : Option String
  markerColor : Option String
  deriving DecidableEq, Repr, Inhabited

namespace Style

def get (s : Style) : StyleProperty → Option String
  | .backgroundColor => s.backgroundColor
  | .foregroundColor => s.foregroundColor
  | .fontWeight => s.fontWeight
  | .fontStyle => s.fontStyle
  | .markerColor => s.markerColor

def set (s : Style) (v : Option String) : StyleProperty → Style
  | .backgroundColor => { s with backgroundColor := v }
  | .foregroundColor => { s with foregroundColor := v }
  | .fontWeight => { s with fontWeight := v }
  | .fontStyle => { s with fontStyle := v }
  | .markerColor => { s with markerColor := v }

theorem get_set (s : Style) (v : Option String) (p q : StyleProperty) :
    (s.set v p).get q = if p = q then v else s.get q := by
  cases p <;> cases q <;> rfl

end Style

/-- The one property that the marker of a bookmark of each kind is shown by. -/
def Kind.look : Kind → StyleProperty × String
  | .breakpoint => (.backgroundColor, "#5a1e1e")
  | .debugPoint => (.backgroundColor, "#5a5a1e")
  | .parseError => (.markerColor, "#ff0000")

inductive Label where
  | blank
  | flag (b : Bool)
  | number (n : Int)
  | text (s : String)
  | bookmark (b : BookmarkId)
  deriving DecidableEq, Repr, Inhabited

/-- Who is told when a marker is deleted: the bookmark that is shown by it, or a listener from
outside. -/
inductive Watcher (κ : Type) where
  | owner (b : BookmarkId)
  | outside (k : κ)
  deriving DecidableEq, Repr

structure Marker (κ : Type) where
  span : SpanId
  style : Style
  tag : Label
  tooltip : Label
  deleted : Signal (Watcher κ)

namespace Marker
variable {κ : Type}

/-- A new marker: plain, with nothing written on it and nobody watching. -/
def new (i : SpanId) : Marker κ := ⟨i, default, .blank, .blank, .named "marker-deleted"⟩

instance : Inhabited (Marker κ) := ⟨new 0⟩

end Marker

/-- What can be seen of a marker: which one it is, the stretch of text it is over now, and what is
written on it. -/
structure MarkerView where
  id : MarkerId
  span : Span
  style : Style
  tag : Label
  tooltip : Label
  deriving DecidableEq, Repr

/-- The whole margin. `shared` is what the listeners keep among themselves; the margin neither
reads nor writes it. `lineCount` is the number of lines of the script, when it is known. -/
structure Margin (κ ω : Type) where
  tracker : Tracker
  markers : Registry (Marker κ)
  live : List MarkerId
  bookmarks : Registry Bookmark
  stored : List BookmarkId
  redraw : Signal κ
  changed : Signal κ
  markerRedraw : Signal κ
  lineCount : Option Int
  journal : Journal
  shared : ω

namespace Margin
variable {κ ω : Type}

def empty (lineCount : Option Int) (shared : ω) : Margin κ ω where
  tracker := .empty
  markers := .empty
  live := []
  bookmarks := .empty
  stored := []
  redraw := .named "redraw-requested"
  changed := .named "bookmark-changed"
  markerRedraw := .named "marker-redraw"
  lineCount := lineCount
  journal := []
  shared := shared

def log (s : Margin κ ω) (e : Entry) : Margin κ ω := { s with journal := s.journal ++ [e] }

def bookmark (s : Margin κ ω) (b : BookmarkId) : Bookmark := s.bookmarks.get b
def marker (s : Margin κ ω) (m : MarkerId) : Marker κ := s.markers.get m

def modifyBookmark (s : Margin κ ω) (b : BookmarkId) (f : Bookmark → Bookmark) : Margin κ ω :=
  { s with bookmarks := s.bookmarks.modify b f }

def modifyMarker (s : Margin κ ω) (m : MarkerId) (f : Marker κ → Marker κ) : Margin κ ω :=
  { s with markers := s.markers.modify m f }

def markerSpan (s : Margin κ ω) (m : MarkerId) : Span := s.tracker.span (s.marker m).span

def markerView (s : Margin κ ω) (m : MarkerId) : MarkerView :=
  ⟨m, s.markerSpan m, (s.marker m).style, (s.marker m).tag, (s.marker m).tooltip⟩

/-- The line a bookmark is on, if it is anchored to a line. -/
def lineNumber? (s : Margin κ ω) (b : BookmarkId) : Option Int :=
  (s.bookmark b).anchor.line?.map s.tracker.line

/-- The stretch of text a bookmark is on, if it is anchored to characters. -/
def span? (s : Margin κ ω) (b : BookmarkId) : Option Span :=
  (s.bookmark b).anchor.span?.map s.tracker.span

/-- Whether there is a bookmark and it belongs to a whole line. -/
def isLineBookmark (s : Margin κ ω) (b : Option BookmarkId) : Bool :=
  b.any fun b => (s.bookmark b).kind.OnLine

/-- Where a new bookmark is put: on a line, on a stretch of text, or on the very anchor of a
marker. -/
inductive Place where
  | line (line : Int)
  | span (span : Span)
  | marker (m : MarkerId)
  deriving DecidableEq, Repr

private def newAnchor (s : Margin κ ω) : Place → Tracker × Anchor
  | .line l => ((s.tracker.newLine l).1, .line (s.tracker.newLine l).2)
  | .span x => ((s.tracker.newSpan x).1, .span (s.tracker.newSpan x).2)
  | .marker m => (s.tracker, .span (s.marker m).span)

/-- A new bookmark. It is not in the margin yet and its anchor is not tracked on its account. -/
def newBookmark (s : Margin κ ω) (kind : Kind) (place : Place) (message : String)
    (marker : Option MarkerId) : Margin κ ω × BookmarkId :=
  let (tracker, anchor) := s.newAnchor place
  let (bookmarks, b) := s.bookmarks.push ⟨kind, anchor, message, marker⟩
  ({ s with tracker := tracker, bookmarks := bookmarks }, b)

theorem newBookmark_line (s : Margin κ ω) (kind : Kind) (l : Int) (message : String)
    (marker : Option MarkerId) :
    s.newBookmark kind (.line l) message marker =
      ({ s with
          tracker := (s.tracker.newLine l).1
          bookmarks := (s.bookmarks.push ⟨kind, .line s.tracker.lines.size, message, marker⟩).1 },
        s.bookmarks.size) := rfl

theorem newBookmark_span (s : Margin κ ω) (kind : Kind) (x : Span) (message : String)
    (marker : Option MarkerId) :
    s.newBookmark kind (.span x) message marker =
      ({ s with
          tracker := (s.tracker.newSpan x).1
          bookmarks := (s.bookmarks.push ⟨kind, .span s.tracker.spans.size, message, marker⟩).1 },
        s.bookmarks.size) := rfl

theorem newBookmark_marker (s : Margin κ ω) (kind : Kind) (m : MarkerId) (message : String)
    (marker : Option MarkerId) :
    s.newBookmark kind (.marker m) message marker =
      ({ s with
          bookmarks := (s.bookmarks.push ⟨kind, .span (s.marker m).span, message, marker⟩).1 },
        s.bookmarks.size) := rfl

/-- The stored bookmarks of one kind: parse errors by their offset, those at one offset and all
others in the order in which they came. All parse errors have an offset, or else see `arranged`. -/
def bookmarksOf (s : Margin κ ω) (kind : Kind) : List BookmarkId :=
  let found := s.stored.filter fun b => (s.bookmark b).kind = kind
  let offset := fun b => ((s.span? b).map Span.offset).getD 0
  if kind = .parseError then found.mergeSort fun a b => offset a ≤ offset b else found

theorem mem_bookmarksOf {s : Margin κ ω} {kind : Kind} {b : BookmarkId} :
    b ∈ s.bookmarksOf kind ↔ b ∈ s.stored ∧ (s.bookmark b).kind = kind := by
  unfold bookmarksOf
  dsimp only
  split <;> simp [List.mem_mergeSort]

theorem nodup_bookmarksOf {s : Margin κ ω} (hn : s.stored.Nodup) (kind : Kind) :
    (s.bookmarksOf kind).Nodup := by
  unfold bookmarksOf
  dsimp only
  split
  · exact (List.mergeSort_perm _ _).nodup_iff.mpr (hn.filter _)
  · exact hn.filter _

/-- A parse error is on a line, where it cannot be put in order with the others. -/
def HasLineError (s : Margin κ ω) : Prop :=
  ∃ b ∈ s.stored, (s.bookmark b).kind = .parseError ∧ s.span? b = none

instance (s : Margin κ ω) : Decidable s.HasLineError := by unfold HasLineError; infer_instance

/-- The stored bookmarks of one kind, in order if they have one. -/
def arranged (s : Margin κ ω) (kind : Kind) : Except Misplaced (List BookmarkId) :=
  if kind = .parseError ∧ s.HasLineError then .error .onLine else .ok (s.bookmarksOf kind)

theorem arranged_of_hasLineError {s : Margin κ ω} (hs : s.HasLineError) :
    s.arranged .parseError = .error .onLine := if_pos ⟨rfl, hs⟩

theorem arranged_of_not_hasLineError {s : Margin κ ω} (hs : ¬ s.HasLineError) (kind : Kind) :
    s.arranged kind = .ok (s.bookmarksOf kind) := if_neg fun h => hs h.2

/-- The lines that carry a breakpoint, from the top. -/
def breakpointLines (s : Margin κ ω) : List Int :=
  ((s.bookmarksOf .breakpoint).filterMap s.lineNumber?).mergeSort fun a b => a ≤ b

def IsAt (s : Margin κ ω) (kind : Kind) (line : Int) (b : BookmarkId) : Prop :=
  (s.bookmark b).kind = kind ∧ s.lineNumber? b = some line

instance (s : Margin κ ω) (kind : Kind) (line : Int) (b : BookmarkId) :
    Decidable (s.IsAt kind line b) := by
  unfold IsAt; infer_instance

def find? (s : Margin κ ω) (kind : Kind) (line : Int) : Option BookmarkId :=
  s.stored.find? fun b => s.IsAt kind line b

/-- The live markers that cover the offset or end at it. -/
def markersAt (s : Margin κ ω) (offset : Int) : List MarkerId :=
  s.live.filter fun m => (s.markerSpan m).offset ≤ offset && offset ≤ (s.markerSpan m).stop

@[simp] theorem bookmark_modifyBookmark (s : Margin κ ω) (b c : BookmarkId)
    (f : Bookmark → Bookmark) :
    (s.modifyBookmark b f).bookmark c = if b = c then f (s.bookmark c) else s.bookmark c :=
  Registry.get_modify s.bookmarks b c f

@[simp] theorem marker_modifyMarker (s : Margin κ ω) (m n : MarkerId)
    (f : Marker κ → Marker κ) :
    (s.modifyMarker m f).marker n = if m = n then f (s.marker n) else s.marker n :=
  Registry.get_modify s.markers m n f

@[simp] theorem bookmark_modifyMarker (s : Margin κ ω) (m : MarkerId) (b : BookmarkId)
    (f : Marker κ → Marker κ) : (s.modifyMarker m f).bookmark b = s.bookmark b := rfl

@[simp] theorem marker_modifyBookmark (s : Margin κ ω) (b : BookmarkId) (m : MarkerId)
    (f : Bookmark → Bookmark) : (s.modifyBookmark b f).marker m = s.marker m := rfl

end Margin

end Scriptorium
