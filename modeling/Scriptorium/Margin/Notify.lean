import Scriptorium.Margin.Basic

/-!
Notices of the margin. A listener is a key and a reaction says what each does with a notice; it
may run any operation of the margin again before the operation that sent the notice goes on.
A failing listener is put in the journal and the next one is told.

`release` is the margin's own answer to the loss of a marker: the bookmark that was shown by it
forgets it, and, since the marker may have taken the common anchor along, is tracked again.
-/

namespace Scriptorium
set_option autoImplicit false

inductive Notice where
  | redraw
  | changed (b : BookmarkId) (removed : Bool)
  | markerRedraw (m : MarkerId)
  | markerDeleted (m : MarkerId)
  deriving DecidableEq, Repr

namespace Margin
variable {κ ω : Type}

/-- What each listener does with a notice, and whether it fails. -/
abbrev Reaction (κ ω : Type) := κ → Notice → Margin κ ω → Margin κ ω × Bool

private def deliverTo (h : Reaction κ ω) (n : Notice) (signal : Signal κ) (s : Margin κ ω) :
    Margin κ ω :=
  deliver (fun k s => h k n s) (fun s => s.log signal.failure) signal.listeners s

def notifyRedraw (h : Reaction κ ω) (s : Margin κ ω) : Margin κ ω :=
  deliverTo h .redraw s.redraw s

def notifyChanged (h : Reaction κ ω) (s : Margin κ ω) (b : BookmarkId) (removed : Bool) :
    Margin κ ω :=
  deliverTo h (.changed b removed) s.changed s

def notifyMarkerRedraw (h : Reaction κ ω) (s : Margin κ ω) (m : MarkerId) : Margin κ ω :=
  deliverTo h (.markerRedraw m) s.markerRedraw s

theorem notifyRedraw_eq (h : Reaction κ ω) (s : Margin κ ω) :
    notifyRedraw h s = deliver (fun k s => h k .redraw s) (fun t => t.log s.redraw.failure)
      s.redraw.listeners s := rfl

theorem notifyChanged_eq (h : Reaction κ ω) (s : Margin κ ω) (b : BookmarkId) (removed : Bool) :
    notifyChanged h s b removed = deliver (fun k s => h k (.changed b removed) s)
      (fun t => t.log s.changed.failure) s.changed.listeners s := rfl

theorem notifyMarkerRedraw_eq (h : Reaction κ ω) (s : Margin κ ω) (m : MarkerId) :
    notifyMarkerRedraw h s m = deliver (fun k s => h k (.markerRedraw m) s)
      (fun t => t.log s.markerRedraw.failure) s.markerRedraw.listeners s := rfl

/-- The bookmark's answer when marker `m` is deleted, and whether it fails: a stored bookmark
whose anchor stands nowhere sensible any more cannot be tracked again. -/
def release (s : Margin κ ω) (b : BookmarkId) (m : MarkerId) : Margin κ ω × Bool :=
  if (s.bookmark b).marker = some m then
    let s := s.modifyBookmark b fun x => { x with marker := none }
    if b ∈ s.stored then
      match s.tracker.track (s.bookmark b).anchor with
      | .ok tracker => ({ s with tracker := tracker }, false)
      | .error _ => (s, true)
    else (s, false)
  else (s, false)

def callWatcher (h : Reaction κ ω) (m : MarkerId) : Watcher κ → Margin κ ω → Margin κ ω × Bool
  | .owner b, s => s.release b m
  | .outside k, s => h k (.markerDeleted m) s

def notifyDeleted (h : Reaction κ ω) (s : Margin κ ω) (m : MarkerId) : Margin κ ω :=
  deliver (callWatcher h m) (fun s => s.log (s.marker m).deleted.failure)
    (s.marker m).deleted.listeners s

/-- From now on the bookmark is told when the marker is deleted. -/
def watch (s : Margin κ ω) (b : BookmarkId) (m : MarkerId) : Margin κ ω :=
  s.modifyMarker m fun x => { x with deleted := (x.deleted.subscribe (.owner b)).1 }

inductive Channel where
  | redraw
  | changed
  | markerRedraw
  | markerDeleted (m : MarkerId)
  deriving DecidableEq, Repr

def subscribe (s : Margin κ ω) (k : κ) : Channel → Margin κ ω
  | .redraw => { s with redraw := (s.redraw.subscribe k).1 }
  | .changed => { s with changed := (s.changed.subscribe k).1 }
  | .markerRedraw => { s with markerRedraw := (s.markerRedraw.subscribe k).1 }
  | .markerDeleted m =>
    s.modifyMarker m fun x => { x with deleted := (x.deleted.subscribe (.outside k)).1 }

def unsubscribe [DecidableEq κ] (s : Margin κ ω) (k : κ) : Channel → Margin κ ω
  | .redraw => { s with redraw := s.redraw.unsubscribe k }
  | .changed => { s with changed := s.changed.unsubscribe k }
  | .markerRedraw => { s with markerRedraw := s.markerRedraw.unsubscribe k }
  | .markerDeleted m =>
    s.modifyMarker m fun x => { x with deleted := x.deleted.unsubscribe (.outside k) }

end Margin

end Scriptorium
