import Scriptorium.Margin.Notify

/-!
Markers: making, styling and deleting them. A marker follows the edits through the tracker, and
each real change of a style property, like each deletion, asks for one redraw.
-/

namespace Scriptorium
set_option autoImplicit false

namespace Margin
variable {κ ω : Type}

/-- Makes a marker over an existing anchor, which is tracked from now on if it was not. -/
def createMarkerOver (s : Margin κ ω) (i : SpanId) : Except Misplaced (Margin κ ω × MarkerId) :=
  match s.tracker.track (.span i) with
  | .error e => .error e
  | .ok tracker =>
    let (markers, m) := s.markers.push (.new i)
    .ok ({ s with tracker := tracker, markers := markers, live := s.live ++ [m] }, m)

/-- Makes a marker over a stretch of text of its own. -/
def createMarker (s : Margin κ ω) (x : Span) : Except Misplaced (Margin κ ω × MarkerId) :=
  match s.tracker.trackSpan x with
  | .error e => .error e
  | .ok (tracker, i) => createMarkerOver { s with tracker := tracker } i

def removalEntry (s : Margin κ ω) (m : MarkerId) : Entry :=
  ⟨.debug, "Removed marker at " ++ toString (s.markerSpan m).offset ++
    " (+" ++ toString (s.markerSpan m).length ++ ")"⟩

/-- Deletes a marker and stops tracking its anchor; the answer says whether it was live. -/
def removeMarker (h : Reaction κ ω) (s : Margin κ ω) (m : MarkerId) : Margin κ ω × Bool :=
  if m ∈ s.live then
    let s := { s with
      live := s.live.filter (· ≠ m)
      tracker := s.tracker.untrack (.span (s.marker m).span) }
    let s := s.log (s.removalEntry m)
    (notifyDeleted h (notifyMarkerRedraw h s m) m, true)
  else (s, false)

/-- Deletes the live markers that the test picks. All are picked before the first is deleted; the
answer is how many were picked. -/
def removeMarkersWhere (h : Reaction κ ω) (s : Margin κ ω) (test : MarkerView → Bool) :
    Margin κ ω × Nat :=
  let doomed := s.live.filter fun m => test (s.markerView m)
  (doomed.foldl (fun s m => (removeMarker h s m).1) s, doomed.length)

/-- Gives a style property a value. A redraw is asked for only if that is a change. -/
def setStyle (h : Reaction κ ω) (s : Margin κ ω) (m : MarkerId) (p : StyleProperty)
    (v : Option String) : Margin κ ω :=
  if (s.marker m).style.get p = v then s
  else notifyMarkerRedraw h (s.modifyMarker m fun x => { x with style := x.style.set v p }) m

def applyLook (h : Reaction κ ω) (s : Margin κ ω) (m : MarkerId) (kind : Kind) : Margin κ ω :=
  setStyle h s m kind.look.1 (some kind.look.2)

end Margin

end Scriptorium
