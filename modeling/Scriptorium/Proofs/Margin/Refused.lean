import Scriptorium.Proofs.Margin.DebugPoint

/-!
What is left of the margin when a command is refused. A bookmark that is not taken in leaves nothing
behind but its own number, and perhaps an entry in the journal: nobody is told of anything.

Two commands give something up before they know whether they can do what is asked: the debug point
goes before the line of the new one is looked at, and the marker of a bookmark goes before the place
of the new one is. For these the conditions under which nothing changes are stated here, and what is
lost otherwise.
-/

namespace Scriptorium
set_option autoImplicit false

namespace Margin
variable {κ ω : Type} {h : Reaction κ ω} {s t : Margin κ ω} {b : BookmarkId} {m : MarkerId}
variable {line : Int} {x : Span}

/-- All that was there before is as it was, and nobody was told of anything. Numbers may have been
handed out, to what is in the margin no more. -/
structure Unaltered (s t : Margin κ ω) : Prop where
  stored : t.stored = s.stored
  bookmark : ∀ b < s.bookmarks.size, t.bookmark b = s.bookmark b
  live : t.live = s.live
  markers : t.markers = s.markers
  trackedLines : t.tracker.trackedLines = s.tracker.trackedLines
  trackedSpans : t.tracker.trackedSpans = s.tracker.trackedSpans
  line : ∀ i < s.tracker.lines.size, t.tracker.line i = s.tracker.line i
  spans : t.tracker.spans = s.tracker.spans
  lineCount : t.lineCount = s.lineCount
  redraw : t.redraw = s.redraw
  changed : t.changed = s.changed
  markerRedraw : t.markerRedraw = s.markerRedraw
  shared : t.shared = s.shared

namespace Unaltered

theorem refl (s : Margin κ ω) : Unaltered s s :=
  ⟨rfl, fun _ _ => rfl, rfl, rfl, rfl, rfl, fun _ _ => rfl, rfl, rfl, rfl, rfl, rfl, rfl⟩

theorem log (s : Margin κ ω) (e : Entry) : Unaltered s (s.log e) :=
  ⟨rfl, fun _ _ => rfl, rfl, rfl, rfl, rfl, fun _ _ => rfl, rfl, rfl, rfl, rfl, rfl, rfl⟩

theorem logRefusal (s : Margin κ ω) (r : Refusal) : Unaltered s (s.logRefusal r) := by
  cases r with
  | outOfRange => exact .refl s
  | occupied line => exact .log s _

theorem newBookmark_line (s : Margin κ ω) (kind : Kind) (line : Int) (message : String)
    (marker : Option MarkerId) :
    Unaltered s (s.newBookmark kind (.line line) message marker).1 := by
  rw [Margin.newBookmark_line]
  refine ⟨rfl, fun b hb => ?_, rfl, rfl, rfl, rfl, fun i hi => ?_, rfl, rfl, rfl, rfl, rfl, rfl⟩
  · exact (Registry.get_push s.bookmarks _ b).trans (if_neg (Nat.ne_of_lt hb))
  · exact (Registry.get_push s.tracker.lines line i).trans (if_neg (Nat.ne_of_lt hi))

end Unaltered

theorem add_unaltered (hr : (add h s b).2 ≠ .ok true) : Unaltered s (add h s b).1 := by
  unfold add at hr ⊢
  split
  · exact .refl s
  · rename_i hnew
    rw [if_neg hnew] at hr
    split
    · exact .logRefusal s _
    · rename_i hfit
      rw [hfit] at hr
      dsimp only at hr
      split
      · exact .refl s
      · rename_i u hu
        rw [hu] at hr
        exact absurd rfl hr

theorem refusal_of_not_inRange {kind : Kind} (hk : kind.OnLine) (hline : ¬ s.InRange line) :
    (s.newBookmark kind (.line line) "" none).1.refusal? s.bookmarks.size = some .outOfRange := by
  have hself : (s.newBookmark kind (.line line) "" none).1.bookmark s.bookmarks.size =
      ⟨kind, .line s.tracker.lines.size, "", none⟩ :=
    (Registry.get_push s.bookmarks _ _).trans (if_pos rfl)
  have hnumber : (s.newBookmark kind (.line line) "" none).1.lineNumber? s.bookmarks.size =
      some line := by
    rw [lineNumber?, hself]
    exact congrArg some ((Registry.get_push s.tracker.lines line _).trans (if_pos rfl))
  rw [refusal?, hself, if_pos hk, hnumber]
  exact if_pos hline

/-- A bookmark for a line that the script does not have is made, and that is all. -/
theorem addOnLine_of_not_inRange (h : Reaction κ ω) {kind : Kind} (hk : kind.OnLine)
    (hline : ¬ s.InRange line) :
    addOnLine h s kind line = ((s.newBookmark kind (.line line) "" none).1, .ok none) := by
  have hadd : add h (s.newBookmark kind (.line line) "" none).1 s.bookmarks.size =
      ((s.newBookmark kind (.line line) "" none).1, .ok false) := by
    unfold add
    split
    · rfl
    · rw [refusal_of_not_inRange hk hline]
      rfl
  unfold addOnLine
  rw [newBookmark_line] at hadd ⊢
  dsimp only at hadd ⊢
  rw [hadd]

theorem removeAt_of_free (h : Reaction κ ω) {kind : Kind}
    (hfree : ∀ c ∈ s.stored, ¬ s.IsAt kind line c) : removeAt h s kind line = (s, 0) := by
  have hnone : s.stored.filter (fun c => s.IsAt kind line c) = [] := by
    rw [List.filter_eq_nil_iff]
    exact fun c hc => by simpa using hfree c hc
  rw [removeAt, hnone]
  rfl

theorem toggleBreakpoint_of_not_inRange (h : Reaction κ ω) (hline : ¬ s.InRange line)
    (hfree : ∀ c ∈ s.stored, ¬ s.IsAt .breakpoint line c) :
    toggleBreakpoint h s line =
      ((s.newBookmark .breakpoint (.line line) "" none).1, .ok none) := by
  rw [toggleBreakpoint, removeAt_of_free h hfree]
  exact addOnLine_of_not_inRange h (by decide) hline

theorem lineCount_release (s : Margin κ ω) (b : BookmarkId) (m : MarkerId) :
    (s.release b m).1.lineCount = s.lineCount := by
  unfold release
  split
  · dsimp only
    split
    · split <;> rfl
    · rfl
  · rfl

theorem removeMarker_lineCount {n : Option Int} (hn : Heeds h fun t => t.lineCount = n)
    (ht : t.lineCount = n) (m : MarkerId) : (removeMarker h t m).1.lineCount = n := by
  by_cases hm : m ∈ t.live
  · rw [removeMarker_of_mem h hm]
    refine notifyDeleted_keeps hn (fun _ _ => id) m ?_ ?_
    · exact fun u b hu => (lineCount_release u b m).trans hu
    · exact notifyMarkerRedraw_keeps hn (fun _ _ => id) m ht
  · rw [removeMarker_of_not_mem h hm]
    exact ht

theorem stable_lineCount {n : Option Int} (hn : Heeds h fun t => t.lineCount = n) :
    Stable h (fun _ => True) (fun _ => True) fun t => t.lineCount = n where
  heeds := hn
  log := fun _ _ ht => ht
  allocate := fun _ _ _ _ ht => ht
  take := by
    intro t b u _ _ _ _ _ ht
    unfold taken
    dsimp only
    split <;> exact ht
  discard := by
    intro t b _ ht
    rw [discard_eq]
    split
    · exact removeMarker_lineCount hn (t := t.without b) ht _
    · exact ht

/-- The former debug point is given up all the same. -/
theorem setDebugPoint_of_not_inRange (hn : Heeds h fun t => t.lineCount = s.lineCount)
    (hline : ¬ s.InRange line) :
    setDebugPoint h s line =
      (((clearDebugPoint h s).newBookmark .debugPoint (.line line) "" none).1, .ok none) := by
  have hcount : (clearDebugPoint h s).lineCount = s.lineCount :=
    (stable_lineCount hn).clearDebugPoint (fun _ _ => trivial) rfl
  apply addOnLine_of_not_inRange h (by decide)
  unfold InRange
  rw [hcount]
  exact hline

theorem clearDebugPoint_of_none (h : Reaction κ ω) (hnone : s.bookmarksOf .debugPoint = []) :
    clearDebugPoint h s = s := by
  rw [clearDebugPoint, hnone]
  rfl

section Aloof
variable [DecidableEq κ]

theorem Aloof.heeds_lineCount (ha : Aloof h) (n : Option Int) :
    Heeds h fun t => t.lineCount = n := by
  refine heeds_of_aloof ha fun t u hstep ht => ?_
  cases hstep with
  | share => exact ht
  | subscribe k c => cases c <;> exact ht
  | unsubscribe k c => cases c <;> exact ht

/-- A bookmark that is refused changes nothing, and a line that the script does not have gives no
bookmark. Moving the debug point there changes nothing just if there was none: the former one is
taken away in any case. -/
theorem refused_unaltered (h : Reaction κ ω) (s : Margin κ ω) (b : BookmarkId) (line : Int) :
    ((add h s b).2 ≠ .ok true → Unaltered s (add h s b).1) ∧
    (¬ s.InRange line → (∀ c ∈ s.stored, ¬ s.IsAt .breakpoint line c) →
      (toggleBreakpoint h s line).2 = .ok none ∧ Unaltered s (toggleBreakpoint h s line).1) ∧
    (¬ s.InRange line → s.bookmarksOf .debugPoint = [] →
      (setDebugPoint h s line).2 = .ok none ∧ Unaltered s (setDebugPoint h s line).1) ∧
    (¬ s.InRange line → (Heeds h fun t => t.lineCount = s.lineCount) →
      (setDebugPoint h s line).2 = .ok none ∧
      Unaltered (clearDebugPoint h s) (setDebugPoint h s line).1 ∧
      (Aloof h → (setDebugPoint h s line).1.stored =
        s.stored.filter fun c => (s.bookmark c).kind ≠ .debugPoint)) := by
  refine ⟨add_unaltered, fun hline hfree => ?_, fun hline hnone => ?_, fun hline hn => ?_⟩
  · rw [toggleBreakpoint_of_not_inRange h hline hfree]
    exact ⟨rfl, .newBookmark_line s _ line "" none⟩
  · rw [setDebugPoint, clearDebugPoint_of_none h hnone,
      addOnLine_of_not_inRange h (by decide) hline]
    exact ⟨rfl, .newBookmark_line s _ line "" none⟩
  · rw [setDebugPoint_of_not_inRange hn hline]
    exact ⟨rfl, .newBookmark_line _ _ line "" none, fun ha => stored_clearDebugPoint ha s⟩

end Aloof

/-- A debug point on the third line of nine and a breakpoint on the fourth, while one listener hears
of every bookmark and of every redraw. -/
def halted : Margin Bool (List Sighting) :=
  performAll scribe (((empty (some 9) []).subscribe true .changed).subscribe true .redraw)
    [.setDebugPoint 3, .toggleBreakpoint 4]

theorem run_halted : Run Command.Made Aside scribe (empty (some 9) []) halted := by
  refine .head (.aside (.subscribe _ true .changed trivial)) ?_
  refine .head (.aside (.subscribe _ true .redraw trivial)) ?_
  exact run_performAll_cons trivial (run_performAll_cons trivial .refl)

theorem refused_unaltered_halted :
    Run Command.Made Aside scribe (empty (some 9) []) halted ∧
    Unaltered halted (add scribe halted 0).1 ∧
    (toggleBreakpoint scribe halted 10).2 = .ok none ∧
    Unaltered halted (toggleBreakpoint scribe halted 10).1 ∧
    Unaltered (remove scribe halted 0).1
      (setDebugPoint scribe (remove scribe halted 0).1 10).1 ∧
    (setDebugPoint scribe halted 10).2 = .ok none ∧
    (setDebugPoint scribe halted 10).1.stored = [1] := by
  obtain ⟨hadd, htoggle, -, hmove⟩ := refused_unaltered scribe halted 0 10
  obtain ⟨-, -, hremoved, -⟩ := refused_unaltered scribe (remove scribe halted 0).1 0 10
  obtain ⟨hnone, hunaltered⟩ := htoggle (by decide +kernel) (by decide +kernel)
  obtain ⟨hgiven, -, hleft⟩ :=
    hmove (by decide +kernel) (records_scribe.aloof.heeds_lineCount halted.lineCount)
  refine ⟨run_halted, hadd ?_, hnone, hunaltered, ?_, hgiven, ?_⟩
  · have hanswer : (add scribe halted 0).2 = .ok false := by rfl
    rw [hanswer]
    nofun
  · exact (hremoved (by decide +kernel) (by decide +kernel)).2
  · exact (hleft records_scribe.aloof).trans (by decide +kernel)

/-- There is no line 0, and the debug point is gone. -/
theorem debugPoint_lost_halted :
    Run Command.Made Aside scribe (empty (some 9) []) halted ∧ ¬ halted.InRange 0 ∧
    (∀ c ∈ halted.stored, ¬ halted.IsAt .breakpoint 0 c) ∧
    (setDebugPoint scribe halted 0).2 = .ok none ∧
    halted.stored = [0, 1] ∧ (setDebugPoint scribe halted 0).1.stored = [1] ∧
    halted.tracker.trackedLines = [0, 1] ∧
    (setDebugPoint scribe halted 0).1.tracker.trackedLines = [1] ∧
    (setDebugPoint scribe halted 0).1.shared =
      halted.shared ++ [⟨.redraw, [1]⟩, ⟨.changed 0 true, [1]⟩] := by
  refine ⟨run_halted, ?_⟩
  decide +kernel

section Attach

theorem createMarker_error {e : Misplaced} (he : s.createMarker x = .error e) :
    e = .span x ∧ ¬ x.Valid := by
  unfold createMarker Tracker.trackSpan at he
  cases ht : (s.tracker.newSpan x).1.track (.span (s.tracker.newSpan x).2) with
  | ok t =>
    simp only [ht, bind, Except.bind, pure, Except.pure] at he
    -- what is tracked already can be tracked once more
    have hagain : t.track (.span (s.tracker.newSpan x).2) = .ok t :=
      Tracker.track_of_isTracked (Tracker.isTracked_of_track ht)
    rw [createMarkerOver_of_track hagain] at he
    cases he
  | error f =>
    simp only [ht, bind, Except.bind] at he
    cases he
    rcases Tracker.track_error ht with ⟨i, hi, _⟩ | ⟨i, hi, _, hx, hf⟩
    · cases hi
    · obtain rfl : s.tracker.spans.size = i := Anchor.span.inj hi
      rw [Tracker.span_newSpan_self] at hx hf
      exact ⟨hf, hx⟩

theorem attachMarker_of_mem (h : Reaction κ ω) (hb : b ∈ s.stored) :
    attachMarker h s b x = match (unmarked h s b).createMarker x with
      | .error e => (unmarked h s b, .error e)
      | .ok (u, m) =>
        (applyLook h ((u.paired b m id).watch b m) m ((u.paired b m id).bookmark b).kind,
          .ok (some m)) := if_pos hb

theorem unmarked_of_none (h : Reaction κ ω)
    (hnone : ∀ m ∈ s.live, (s.bookmark b).marker ≠ some m) : unmarked h s b = s := by
  unfold unmarked
  split
  · rename_i m hm
    exact removeMarker_of_not_mem h fun hlive => hnone m hlive hm
  · rfl

theorem unmarked_of_marker (h : Reaction κ ω) (hm : (s.bookmark b).marker = some m) :
    unmarked h s b = (removeMarker h s m).1 := by
  rw [unmarked, hm]

/-- Giving a bookmark a marker comes to nothing only for a bookmark that is not stored, and fails
only for a span with a negative part. Nothing has changed then, unless the bookmark was shown by a
live marker: that one is deleted in any case. -/
theorem attachMarker_refused [DecidableEq κ] (h : Reaction κ ω) (s : Margin κ ω) (b : BookmarkId)
    (x : Span) :
    ((attachMarker h s b x).2 = .ok none ↔ b ∉ s.stored) ∧
    (b ∉ s.stored → (attachMarker h s b x).1 = s) ∧
    ∀ e, (attachMarker h s b x).2 = .error e →
      e = .span x ∧ ¬ x.Valid ∧
      ((∀ m ∈ s.live, (s.bookmark b).marker ≠ some m) → (attachMarker h s b x).1 = s) ∧
      ∀ m ∈ s.live, (s.bookmark b).marker = some m →
        (attachMarker h s b x).1 = (removeMarker h s m).1 ∧
        (Aloof h → m ∉ (attachMarker h s b x).1.live) := by
  by_cases hb : b ∈ s.stored
  · rw [attachMarker_of_mem h hb]
    cases hmade : (unmarked h s b).createMarker x with
    | ok made => exact ⟨⟨nofun, absurd hb⟩, absurd hb, nofun⟩
    | error e =>
      refine ⟨⟨nofun, absurd hb⟩, absurd hb, ?_⟩
      rintro f ⟨⟩
      obtain ⟨he, hx⟩ := createMarker_error hmade
      refine ⟨he, hx, unmarked_of_none h, fun m hlive hm => ?_⟩
      have hleft := unmarked_of_marker h hm
      refine ⟨hleft, fun ha hstill => ?_⟩
      dsimp only at hstill
      rw [hleft, (removeMarker_leaves ha s m).2.1] at hstill
      exact of_decide_eq_true (List.mem_filter.mp hstill).2 rfl
  · rw [attachMarker, if_neg hb]
    exact ⟨⟨fun _ => hb, fun _ => rfl⟩, fun _ => rfl, nofun⟩

end Attach

/-- Two breakpoints, the first of which is shown by a marker. -/
def dressed : Margin Bool (List Sighting) :=
  performAll scribe ((empty none []).subscribe true .markerRedraw)
    [.toggleBreakpoint 3, .toggleBreakpoint 5, .attachMarker 0 ⟨4, 2⟩]

theorem run_dressed : Run Command.Made Aside scribe (empty none []) dressed := by
  refine .head (.aside (.subscribe _ true .markerRedraw trivial)) ?_
  exact run_performAll _ _ (by simp [Command.Made])

theorem attachMarker_refused_dressed :
    Run Command.Made Aside scribe (empty none []) dressed ∧
    (attachMarker scribe dressed 1 ⟨4, -1⟩).2 = .error (.span ⟨4, -1⟩) ∧
    (attachMarker scribe dressed 1 ⟨4, -1⟩).1 = dressed ∧
    (attachMarker scribe dressed 2 ⟨4, 1⟩).2 = .ok none ∧
    (attachMarker scribe dressed 2 ⟨4, 1⟩).1 = dressed := by
  obtain ⟨-, -, hfailed⟩ := attachMarker_refused scribe dressed 1 ⟨4, -1⟩
  obtain ⟨hnone, hleft, -⟩ := attachMarker_refused scribe dressed 2 ⟨4, 1⟩
  have hanswer : (attachMarker scribe dressed 1 ⟨4, -1⟩).2 = .error (.span ⟨4, -1⟩) := by rfl
  refine ⟨run_dressed, hanswer, ?_, hnone.mpr (by decide +kernel), hleft (by decide +kernel)⟩
  exact (hfailed _ hanswer).2.2.1 (by decide +kernel)

/-- The new marker cannot be made, and the former one is gone with its anchor. -/
theorem marker_lost_dressed :
    Run Command.Made Aside scribe (empty none []) dressed ∧
    (attachMarker scribe dressed 0 ⟨-1, 2⟩).2 = .error (.span ⟨-1, 2⟩) ∧
    (dressed.bookmark 0).marker = some 0 ∧
    ((attachMarker scribe dressed 0 ⟨-1, 2⟩).1.bookmark 0).marker = none ∧
    dressed.live = [0] ∧ (attachMarker scribe dressed 0 ⟨-1, 2⟩).1.live = [] ∧
    dressed.tracker.trackedSpans = [0] ∧
    (attachMarker scribe dressed 0 ⟨-1, 2⟩).1.tracker.trackedSpans = [] ∧
    (attachMarker scribe dressed 0 ⟨-1, 2⟩).1.shared =
      dressed.shared ++ [⟨.markerRedraw 0, [0, 1]⟩] := by
  refine ⟨run_dressed, ?_⟩
  decide +kernel

end Margin

end Scriptorium
