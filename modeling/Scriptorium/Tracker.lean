import Scriptorium.Registry
import Scriptorium.Span

/-!
The tracker keeps line anchors and span anchors in step with the text. The two kinds are
independent: an edit of whole lines never moves a span, and an edit of characters never moves a
line.

An anchor is a number; the registries hold where every anchor stands, and the two lists hold, in
the order in which tracking began, those that follow the edits. An anchor that is not tracked
keeps its place until it is tracked again.
-/

namespace Scriptorium
set_option autoImplicit false

abbrev LineId := Nat
abbrev SpanId := Nat

inductive Anchor where
  | line (id : LineId)
  | span (id : SpanId)
  deriving DecidableEq, Repr

namespace Anchor

def line? : Anchor → Option LineId
  | line i => some i
  | span _ => none

def span? : Anchor → Option SpanId
  | line _ => none
  | span i => some i

end Anchor

instance : Inhabited Anchor := ⟨.line 0⟩

/-- What is wrong with an anchor: it cannot be tracked where it stands, or it is on a line and has
none of the offsets that are asked for. -/
inductive Misplaced where
  | line (line : Int)
  | span (span : Span)
  | onLine
  deriving DecidableEq, Repr

namespace Misplaced

def message : Misplaced → String
  | line l => "Line numbers are 1-based, got " ++ toString l
  | span s => "Invalid span (" ++ toString s.offset ++ ", " ++ toString s.length ++ ")"
  | onLine => "'LineAnchor' object has no attribute 'offset'"

end Misplaced

structure Tracker where
  lines : Registry Int
  spans : Registry Span
  trackedLines : List LineId
  trackedSpans : List SpanId
  deriving DecidableEq, Repr

namespace Tracker

def empty : Tracker := ⟨.empty, .empty, [], []⟩

def line (t : Tracker) (i : LineId) : Int := t.lines.get i
def span (t : Tracker) (i : SpanId) : Span := t.spans.get i

def newLine (t : Tracker) (line : Int) : Tracker × LineId :=
  ({ t with lines := (t.lines.push line).1 }, t.lines.size)

def newSpan (t : Tracker) (s : Span) : Tracker × SpanId :=
  ({ t with spans := (t.spans.push s).1 }, t.spans.size)

def setLine (t : Tracker) (i : LineId) (line : Int) : Tracker :=
  { t with lines := t.lines.set i line }

def setSpan (t : Tracker) (i : SpanId) (s : Span) : Tracker :=
  { t with spans := t.spans.set i s }

def IsTracked (t : Tracker) : Anchor → Prop
  | .line i => i ∈ t.trackedLines
  | .span i => i ∈ t.trackedSpans

instance (t : Tracker) (a : Anchor) : Decidable (t.IsTracked a) := by
  cases a <;> (unfold IsTracked; infer_instance)

/-- Begins to track an anchor. Tracking it again changes nothing; a place before the first line,
or a span with a negative part, is refused. -/
def track (t : Tracker) (a : Anchor) : Except Misplaced Tracker :=
  if t.IsTracked a then .ok t
  else match a with
    | .line i =>
      if t.line i < 1 then .error (.line (t.line i))
      else .ok { t with trackedLines := t.trackedLines ++ [i] }
    | .span i =>
      if (t.span i).Valid then .ok { t with trackedSpans := t.trackedSpans ++ [i] }
      else .error (.span (t.span i))

def untrack (t : Tracker) : Anchor → Tracker
  | .line i => { t with trackedLines := t.trackedLines.erase i }
  | .span i => { t with trackedSpans := t.trackedSpans.erase i }

def trackLine (t : Tracker) (line : Int) : Except Misplaced (Tracker × LineId) := do
  let (t, i) := t.newLine line
  return (← t.track (.line i), i)

def trackSpan (t : Tracker) (s : Span) : Except Misplaced (Tracker × SpanId) := do
  let (t, i) := t.newSpan s
  return (← t.track (.span i), i)

/-- `count` lines put in before line `first`: the line anchors from there on move down. Gives the
anchors that moved. -/
def insertLines (t : Tracker) (first count : Int) : Tracker × List LineId :=
  if count ≤ 0 then (t, [])
  else
    let moved := t.trackedLines.filter fun i => first ≤ t.line i
    ({ t with lines := t.lines.modifyAll moved (· + count) }, moved)

/-- Which anchors an edit took away with their text, and which it moved. -/
structure Displaced where
  removed : List LineId
  moved : List LineId
  deriving DecidableEq, Repr

/-- `count` lines taken out from line `first` on: anchors on them are tracked no longer, later
ones move up. -/
def deleteLines (t : Tracker) (first count : Int) : Tracker × Displaced :=
  if count ≤ 0 then (t, ⟨[], []⟩)
  else
    let last := first + count - 1
    let gone := fun i => first ≤ t.line i && t.line i ≤ last
    let kept := t.trackedLines.filter fun i => !gone i
    let moved := kept.filter fun i => last < t.line i
    ({ t with trackedLines := kept, lines := t.lines.modifyAll moved (· - count) },
      ⟨t.trackedLines.filter gone, moved⟩)

/-- `count` characters put in at `start`. Gives the span anchors that moved. -/
def insertCharacters (t : Tracker) (start count : Int) : Tracker × List SpanId :=
  if count ≤ 0 then (t, [])
  else
    let moved := t.trackedSpans.filter fun i => start ≤ (t.span i).offset
    ({ t with spans := t.spans.modifyAll moved (Span.insert start count) }, moved)

/-- `count` characters taken out from `start` on. Gives the span anchors that moved or shrank. -/
def deleteCharacters (t : Tracker) (start count : Int) : Tracker × List SpanId :=
  if count ≤ 0 then (t, [])
  else
    let moved := t.trackedSpans.filter fun i => (t.span i).Touched start
    ({ t with spans := t.spans.modifyAll moved (Span.delete start count) }, moved)

@[simp] theorem trackedLines_newLine (t : Tracker) (l : Int) :
    (t.newLine l).1.trackedLines = t.trackedLines := rfl

@[simp] theorem trackedSpans_newSpan (t : Tracker) (s : Span) :
    (t.newSpan s).1.trackedSpans = t.trackedSpans := rfl

theorem track_of_isTracked {t : Tracker} {a : Anchor} (h : t.IsTracked a) : t.track a = .ok t := by
  simp [track, h]

theorem track_of_valid {t : Tracker} {i : SpanId} (h : (t.span i).Valid) :
    ∃ u, t.track (.span i) = .ok u := by
  by_cases ht : t.IsTracked (.span i)
  · exact ⟨t, track_of_isTracked ht⟩
  · refine ⟨{ t with trackedSpans := t.trackedSpans ++ [i] }, ?_⟩
    simp only [track, if_neg ht, if_pos h]

/-- All that tracking can do: nothing, for an anchor that is tracked, and otherwise the anchor,
which stands in a proper place, comes last among those of its kind. -/
theorem track_cases {t u : Tracker} {a : Anchor} (h : t.track a = .ok u) :
    (t.IsTracked a ∧ u = t) ∨
    (∃ i, a = .line i ∧ i ∉ t.trackedLines ∧ 1 ≤ t.line i ∧
      u = { t with trackedLines := t.trackedLines ++ [i] }) ∨
    (∃ i, a = .span i ∧ i ∉ t.trackedSpans ∧ (t.span i).Valid ∧
      u = { t with trackedSpans := t.trackedSpans ++ [i] }) := by
  unfold track at h
  split at h
  · rename_i ht
    cases h
    exact .inl ⟨ht, rfl⟩
  · rename_i ht
    cases a with
    | line i =>
      simp only at h
      split at h
      · cases h
      · cases h
        exact .inr (.inl ⟨i, rfl, ht, by omega, rfl⟩)
    | span i =>
      simp only at h
      split at h
      · rename_i hv
        cases h
        exact .inr (.inr ⟨i, rfl, ht, hv, rfl⟩)
      · cases h

theorem isTracked_of_track {t u : Tracker} {a : Anchor} (h : t.track a = .ok u) :
    u.IsTracked a := by
  rcases track_cases h with ⟨ht, rfl⟩ | ⟨i, rfl, _, _, rfl⟩ | ⟨i, rfl, _, _, rfl⟩
  · exact ht
  · simp [IsTracked]
  · simp [IsTracked]

end Tracker

end Scriptorium
