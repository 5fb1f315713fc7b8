import Scriptorium.Proofs.Margin.Course
import Scriptorium.Proofs.Tracker.Listed

/-!
The tracker of a margin stays sound, whichever commands are given and whatever listeners do in the
middle of them, as long as no span is written that has a negative part. Nothing else is asked:
bookmarks and markers may share anchors, and be made, restyled, moved and deleted in any order.
-/

namespace Scriptorium
set_option autoImplicit false

namespace Margin
variable {κ ω : Type} {h : Reaction κ ω} {s t : Margin κ ω} {b : BookmarkId} {m : MarkerId}

/-- The command writes no span with a negative part and takes in no bookmark that was never made. -/
def Command.Fair (s : Margin κ ω) : Command → Prop
  | .new _ (.span x) _ _ | .attachMarker _ x | .createMarker x => x.Valid
  | .add b => b < s.bookmarks.size
  | .replaceParseErrors ds => ∀ d ∈ ds, d.finding.span.Valid
  | .charactersDeleted start _ => 0 ≤ start
  | .moveMarker _ start => 0 ≤ start
  | .resizeMarker _ length => 0 ≤ length
  | _ => True

theorem Command.Fair.made {c : Command} (hc : c.Fair s) : c.Made s := by
  cases c with
  | add b => exact hc
  | _ => trivial

theorem tracker_taken (s : Margin κ ω) (b : BookmarkId) (u : Tracker) :
    (s.taken b u).tracker = u := by
  unfold taken
  dsimp only
  split <;> rfl

theorem createMarkerOver_sound {i : SpanId} (ht : s.createMarkerOver i = .ok (t, m))
    (hs : s.tracker.Sound) : t.tracker.Sound := by
  unfold createMarkerOver at ht
  split at ht
  · cases ht
  · rename_i u hu
    cases ht
    exact hs.track hu

theorem createMarker_sound {x : Span} (hx : x.Valid) (ht : s.createMarker x = .ok (t, m))
    (hs : s.tracker.Sound) : t.tracker.Sound := by
  obtain ⟨u, hu, rfl, -⟩ := createMarker_cases ht
  exact (hs.newSpan hx).track hu

theorem release_sound (b : BookmarkId) (m : MarkerId) (hs : s.tracker.Sound) :
    (s.release b m).1.tracker.Sound := by
  unfold release
  split
  · dsimp only
    split
    · split
      · rename_i u hu
        exact Tracker.Sound.track hs hu
      · exact hs
    · exact hs
  · exact hs

section Listeners
variable (hn : Heeds h fun s => s.tracker.Sound)
include hn

theorem notifyMarkerRedraw_sound (m : MarkerId) (hs : s.tracker.Sound) :
    (notifyMarkerRedraw h s m).tracker.Sound := notifyMarkerRedraw_keeps hn (fun _ _ => id) m hs

theorem removeMarker_sounds (m : MarkerId) (hs : s.tracker.Sound) :
    (removeMarker h s m).1.tracker.Sound := by
  unfold removeMarker
  split
  · refine notifyDeleted_keeps hn (fun _ _ => id) m (fun t b => release_sound b m) ?_
    refine notifyMarkerRedraw_keeps hn (fun _ _ => id) m ?_
    exact hs.untrack (.span (s.marker m).span)
  · exact hs

theorem setStyle_sound (m : MarkerId) (p : StyleProperty) (v : Option String)
    (hs : s.tracker.Sound) : (setStyle h s m p v).tracker.Sound := by
  unfold setStyle
  split
  · exact hs
  · exact notifyMarkerRedraw_sound hn m hs

theorem stable_sound : Stable h (fun _ => True) (fun _ => True) fun s => s.tracker.Sound where
  heeds := hn
  log _ _ := id
  allocate _ _ line _ hs := hs.newLine line
  take s b u _ _ _ hu _ hs := by
    rw [tracker_taken]
    exact hs.track hu
  discard s b _ hs := by
    have hwithout : (s.without b).tracker.Sound := hs.untrack _
    rw [discard_eq]
    split
    · exact removeMarker_sounds hn _ hwithout
    · exact hwithout

theorem attachMarker_sound (b : BookmarkId) {x : Span} (hx : x.Valid) (hs : s.tracker.Sound) :
    (attachMarker h s b x).1.tracker.Sound := by
  have hunmarked : (unmarked h s b).tracker.Sound := by
    unfold unmarked
    split
    · exact removeMarker_sounds hn _ hs
    · exact hs
  rcases attachMarker_cases h s b x with he | ⟨-, he⟩ | ⟨-, u, m, kind, hu, he⟩
  · rwa [he]
  · rwa [he]
  · rw [he]
    have hmade : u.tracker.Sound := createMarker_sound hx hu hunmarked
    exact setStyle_sound hn m _ _ hmade

theorem markParseError_sound (b : BookmarkId) (hs : s.tracker.Sound) :
    (markParseError h s b).1.tracker.Sound := by
  cases ha : (s.bookmark b).anchor with
  | line i => rwa [markParseError_of_line ha]
  | span i =>
    rw [markParseError_of_span ha]
    split
    · exact hs
    · rename_i u m hu
      have hmade : u.tracker.Sound := createMarkerOver_sound hu hs
      exact setStyle_sound hn m _ _ hmade

theorem addParseErrors_sound {fs : List Finding} (hfs : ∀ f ∈ fs, f.span.Valid)
    (hs : s.tracker.Sound) : (addParseErrors h fs s).1.tracker.Sound := by
  induction fs generalizing s with
  | nil => exact hs
  | cons f fs ih =>
    have hreported : (s.reported f).tracker.Sound := hs.newSpan (hfs f List.mem_cons_self)
    have hmarked := markParseError_sound hn s.bookmarks.size hreported
    rw [addParseErrors_cons]
    split
    · rename_i t ht
      rw [ht] at hmarked
      refine ih (fun g hg => hfs g (List.mem_cons_of_mem f hg)) ?_
      exact (stable_sound hn).changed _ _ hmarked
    · rename_i t e ht
      rw [ht] at hmarked
      exact hmarked

theorem replaceParseErrors_sound {ds : List Diagnostic} (hds : ∀ d ∈ ds, d.finding.span.Valid)
    (hs : s.tracker.Sound) : (replaceParseErrors h s ds).1.tracker.Sound := by
  have hst := stable_sound hn
  refine replaceParseErrors_induction (I := fun t => t.tracker.Sound) hs ?_ ?_ fun t => hst.redraw
  · refine keepParseErrors_induction (I := fun _ t => t.tracker.Sound) (fun _ _ _ => id) ?_ ?_ _ _ hs
    · exact fun b _ t _ ht => markParseError_sound hn b ht
    · exact fun b _ t ht => hst.changed b true (hst.discard t b trivial ht)
  · intro fs t _ _ hfs ht
    refine addParseErrors_sound hn (fun f hf => ?_) ht
    obtain ⟨d, hd, rfl⟩ := mem_findings (hfs f hf)
    exact hds d hd

theorem perform_sound {c : Command} (hc : c.Fair s) (hs : s.tracker.Sound) :
    (perform h s c).1.tracker.Sound := by
  have hst := stable_sound hn
  cases c with
  | new kind place message marker =>
    cases place with
    | line l => exact hs.newLine l
    | span x => exact hs.newSpan hc
    | marker m => exact hs
  | add b => exact hst.add hc (fun _ _ => trivial) hs
  | remove b => exact hst.remove trivial hs
  | removeAt kind line => exact hst.removeAt kind line (fun _ _ => trivial) hs
  | toggleBreakpoint line => exact hst.toggleBreakpoint trivial (fun _ _ => trivial) hs
  | setDebugPoint line => exact hst.setDebugPoint trivial (fun _ _ => trivial) hs
  | clearDebugPoint => exact hst.clearDebugPoint (fun _ _ => trivial) hs
  | replaceParseErrors ds => exact replaceParseErrors_sound hn hc hs
  | attachMarker b x => exact attachMarker_sound hn b hc hs
  | linesInserted first count => exact hst.announce _ _ (hs.insertLines first count)
  | linesDeleted first count =>
    exact hst.announce _ _ (hst.discardAll (fun _ _ => trivial) (hs.deleteLines first count))
  | charactersInserted start count => exact hst.announce _ _ (hs.insertCharacters start count)
  | charactersDeleted start count => exact hst.announce _ _ (hs.deleteCharacters hc count)
  | createMarker x =>
    unfold perform
    dsimp only
    split
    · rename_i t m ht
      exact createMarker_sound hc ht hs
    · exact hs
  | createMarkerFor b =>
    unfold perform
    dsimp only
    split
    · exact hs
    · split
      · rename_i t m ht
        exact createMarkerOver_sound ht hs
      · exact hs
  | setStyle m p v => exact setStyle_sound hn m p v hs
  | moveMarker m start => exact hs.setSpan _ ⟨hc, (hs.valid _).2⟩
  | resizeMarker m length => exact hs.setSpan _ ⟨(hs.valid _).1, hc⟩
  | deleteMarker m => exact removeMarker_sounds hn m hs
  | removeMarker m => exact removeMarker_sounds hn m hs
  | removeMarkersWhere test =>
    refine List.foldlRecOn (motive := fun t : Margin κ ω => t.tracker.Sound) _ _ hs ?_
    exact fun t ht m _ => removeMarker_sounds hn m ht
  | redrawMarker m => exact notifyMarkerRedraw_sound hn m hs
  | _ => exact hs

end Listeners

section Run
variable [DecidableEq κ]

theorem Aside.sound (ha : Aside s t) (hs : s.tracker.Sound) : t.tracker.Sound := by
  cases ha with
  | share => exact hs
  | subscribe k c => cases c <;> exact hs
  | unsubscribe k c => cases c <;> exact hs

theorem sound_of_run (hh : Lawful Command.Fair h) {lineCount : Option Int} {w : ω}
    (hr : Run Command.Fair Aside h (empty lineCount w) s) : s.tracker.Sound := by
  have hn : Heeds h fun t : Margin κ ω => t.tracker.Sound :=
    hh.heeds (J := fun _ : Unit => fun t : Margin κ ω => t.tracker.Sound)
      (fun _ hg _ _ _ hc => perform_sound (hg ()) hc) (fun _ _ _ => Aside.sound) ()
  exact run_induction (I := fun t => t.tracker.Sound) (fun _ _ => perform_sound hn)
    (fun _ _ => Aside.sound) hr Tracker.sound_empty

end Run

end Margin

end Scriptorium
