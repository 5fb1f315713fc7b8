import Scriptorium.Margin.Edits
import Scriptorium.Margin.Reconcile

/-!
All that can be asked of a margin, as data. A run of the margin is then a list of commands, and
what a listener does when it is called is such a list too.
-/

namespace Scriptorium
set_option autoImplicit false

namespace Margin
variable {κ ω : Type}

inductive Command where
  | new (kind : Kind) (place : Place) (message : String) (marker : Option MarkerId)
  | add (b : BookmarkId)
  | remove (b : BookmarkId)
  | contains (b : BookmarkId)
  | removeAt (kind : Kind) (line : Int)
  | toggleBreakpoint (line : Int)
  | setDebugPoint (line : Int)
  | clearDebugPoint
  | find (kind : Kind) (line : Int)
  | replaceParseErrors (diagnostics : List Diagnostic)
  | bookmarksOf (kind : Kind)
  | breakpointLines
  | size
  | attachMarker (b : BookmarkId) (span : Span)
  | linesInserted (first count : Int)
  | linesDeleted (first count : Int)
  | charactersInserted (start count : Int)
  | charactersDeleted (start count : Int)
  | setLineCount (count : Option Int)
  | createMarker (span : Span)
  | createMarkerFor (b : BookmarkId)
  | setStyle (m : MarkerId) (property : StyleProperty) (value : Option String)
  | setTag (m : MarkerId) (label : Label)
  | setTooltip (m : MarkerId) (label : Label)
  | moveMarker (m : MarkerId) (start : Int)
  | resizeMarker (m : MarkerId) (length : Int)
  | deleteMarker (m : MarkerId)
  | removeMarker (m : MarkerId)
  | removeMarkersWhere (test : MarkerView → Bool)
  | markersAt (offset : Int)
  | redrawMarker (m : MarkerId)

inductive Reply where
  | done
  | flag (b : Bool)
  | count (n : Nat)
  | lines (ls : List Int)
  | bookmark (b : Option BookmarkId)
  | bookmarks (bs : List BookmarkId)
  | marker (m : Option MarkerId)
  | markers (ms : List MarkerId)
  deriving DecidableEq, Repr

/-- Deleting a marker through itself says nothing; the same through the margin says whether it
was live. Both are the same deletion. -/
def perform (h : Reaction κ ω) (s : Margin κ ω) : Command → Margin κ ω × Except Misplaced Reply
  | .new kind place message marker =>
    let (s, b) := s.newBookmark kind place message marker
    (s, .ok (.bookmark (some b)))
  | .add b => let (s, r) := add h s b; (s, r.map .flag)
  | .remove b => let (s, r) := remove h s b; (s, .ok (.flag r))
  | .contains b => (s, .ok (.flag (b ∈ s.stored)))
  | .removeAt kind line => let (s, n) := removeAt h s kind line; (s, .ok (.count n))
  | .toggleBreakpoint line => let (s, r) := toggleBreakpoint h s line; (s, r.map .bookmark)
  | .setDebugPoint line => let (s, r) := setDebugPoint h s line; (s, r.map .bookmark)
  | .clearDebugPoint => (clearDebugPoint h s, .ok .done)
  | .find kind line => (s, .ok (.bookmark (s.find? kind line)))
  | .replaceParseErrors ds =>
    let (s, r) := replaceParseErrors h s ds
    (s, r.map .bookmarks)
  | .bookmarksOf kind => (s, (s.arranged kind).map .bookmarks)
  | .breakpointLines => (s, .ok (.lines s.breakpointLines))
  | .size => (s, .ok (.count s.stored.length))
  | .attachMarker b x => let (s, r) := attachMarker h s b x; (s, r.map .marker)
  | .linesInserted first count => (linesInserted h s first count, .ok .done)
  | .linesDeleted first count => (linesDeleted h s first count, .ok .done)
  | .charactersInserted start count => (charactersInserted h s start count, .ok .done)
  | .charactersDeleted start count => (charactersDeleted h s start count, .ok .done)
  | .setLineCount count => ({ s with lineCount := count }, .ok .done)
  | .createMarker x =>
    match s.createMarker x with
    | .ok (s, m) => (s, .ok (.marker (some m)))
    | .error e => (s, .error e)
  | .createMarkerFor b =>
    match (s.bookmark b).anchor with
    | .line _ => (s, .ok (.marker none))
    | .span i =>
      match s.createMarkerOver i with
      | .ok (s, m) => (s, .ok (.marker (some m)))
      | .error e => (s, .error e)
  | .setStyle m p v => (setStyle h s m p v, .ok .done)
  | .setTag m l => (s.modifyMarker m fun x => { x with tag := l }, .ok .done)
  | .setTooltip m l => (s.modifyMarker m fun x => { x with tooltip := l }, .ok .done)
  | .moveMarker m start =>
    let span := { s.markerSpan m with offset := start }
    ({ s with tracker := s.tracker.setSpan (s.marker m).span span }, .ok .done)
  | .resizeMarker m length =>
    let span := { s.markerSpan m with length := length }
    ({ s with tracker := s.tracker.setSpan (s.marker m).span span }, .ok .done)
  | .deleteMarker m => ((removeMarker h s m).1, .ok .done)
  | .removeMarker m => let (s, r) := removeMarker h s m; (s, .ok (.flag r))
  | .removeMarkersWhere test => let (s, n) := removeMarkersWhere h s test; (s, .ok (.count n))
  | .markersAt offset => (s, .ok (.markers (s.markersAt offset)))
  | .redrawMarker m => (notifyMarkerRedraw h s m, .ok .done)

end Margin

end Scriptorium
