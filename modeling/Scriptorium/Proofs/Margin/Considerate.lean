import Scriptorium.Proofs.Margin.Loyal

/-!
Which commands may be given to a margin whose spans are shared. A command is considerate if it leaves
no span bereft that is still in use, and as long as all of them are, everything in the margin follows
the text. For the deletion of a marker there is no other way.
-/

namespace Scriptorium
set_option autoImplicit false

namespace Margin
variable {κ ω : Type} [DecidableEq κ] {h : Reaction κ ω} {s t : Margin κ ω}
variable {b : BookmarkId} {m : MarkerId}

omit [DecidableEq κ] in
theorem newBookmark_gains {place : Place} {marker : Option MarkerId} (kind : Kind)
    (message : String) (hplace : ∀ x, place = .span x → x.Valid)
    (hmarker : ∀ m, marker = some m → m < s.markers.size) (hs : Sound s) :
    Sound (s.newBookmark kind place message marker).1 ∧
      Gains s (s.newBookmark kind place message marker).1 := by
  cases place with
  | line l =>
    rw [newBookmark_line]
    exact ⟨hs.push rfl hs.valid hmarker, .push hs (fun _ => .inl) fun _ => id⟩
  | span x =>
    rw [newBookmark_span]
    exact ⟨hs.push rfl (valid_newSpan (hplace x rfl) hs) hmarker,
      .push hs (fun _ => .inl) fun _ => id⟩
  | marker m =>
    rw [newBookmark_marker]
    exact ⟨hs.push rfl hs.valid hmarker, .push hs (fun _ => .inl) fun _ => id⟩

omit [DecidableEq κ] in
theorem createMarker_gains {x : Span} (hx : x.Valid) (ht : s.createMarker x = .ok (t, m))
    (hs : Sound s) : Sound t ∧ Gains s t := by
  obtain ⟨u, hu, rfl, _⟩ := createMarker_cases ht
  have hvalid : ∀ i, (u.span i).Valid := by
    intro i
    rw [Tracker.span, Tracker.spans_of_track hu]
    exact valid_newSpan hx hs i
  exact ⟨hs.marked (Tracker.nodup_of_track hu hs.once) hvalid,
    .marked hs fun j => (Tracker.mem_trackedSpans_of_track_newSpan hu).mpr⟩

omit [DecidableEq κ] in
theorem createMarkerOver_gains {i : SpanId} (hu : s.createMarkerOver i = .ok (t, m))
    (hs : Sound s) : Sound t ∧ Gains s t := by
  cases hv : s.tracker.track (.span i) with
  | error e =>
    rw [createMarkerOver, hv] at hu
    cases hu
  | ok u =>
    rw [createMarkerOver_of_track hv] at hu
    cases hu
    exact marked_gains hs hv

/-- A bookmark that is taken in has its own span tracked. -/
theorem add_followed (ha : Aloof h) (hb : b < s.bookmarks.size) (hs : Sound s)
    (hf : Followed s) : Sound (add h s b).1 ∧ Followed (add h s b).1 := by
  rcases add_cases h s b with he | ⟨e, he⟩ | ⟨u, hnew, _, hu, he⟩
  · rw [he]
    exact ⟨hs, hf⟩
  · rw [he]
    exact ⟨hs.alike (.log s e), hf.alike (.log s e)⟩
  · have htold := (notifyRedraw_alike ha (s.taken b u)).trans (notifyChanged_alike ha _ b false)
    have hparts : (s.taken b u).stored = s.stored ++ [b] ∧ (s.taken b u).tracker = u ∧
        (s.taken b u).live = s.live ∧ ∀ n, ((s.taken b u).marker n).span = (s.marker n).span := by
      unfold taken
      dsimp only
      split
      · refine ⟨rfl, rfl, rfl, ?_⟩
        intro n
        rw [watch, marker_modifyMarker]
        split <;> rfl
      · exact ⟨rfl, rfl, rfl, fun _ => rfl⟩
    obtain ⟨hstored, htracker, hlive, hspan⟩ := hparts
    have hmem : ∀ i, i ∈ u.trackedSpans ↔
        i ∈ s.tracker.trackedSpans ∨ (s.bookmark b).anchor = .span i :=
      fun i => Tracker.mem_trackedSpans_of_track hu
    have hbookmark : ∀ c, (s.taken b u).bookmark c = s.bookmark c := by
      intro c
      unfold taken
      dsimp only
      split <;> rfl
    rw [he]
    refine ⟨(hs.taken hnew hb hu).alike htold, Followed.alike ?_ htold⟩
    intro i hi
    rw [htracker, hmem]
    rcases hi with ⟨c, hc, hanchor⟩ | ⟨n, hn, hni⟩
    · rw [hbookmark] at hanchor
      rw [hstored] at hc
      rcases List.mem_append.mp hc with hc | hc
      · exact .inl (hf i (.inl ⟨c, hc, hanchor⟩))
      · exact .inr (List.mem_singleton.mp hc ▸ hanchor)
    · rw [hspan] at hni
      exact .inl (hf i (.inr ⟨n, hlive ▸ hn, hni⟩))

theorem charactersInserted_gains (ha : Aloof h) (start count : Int) (hs : Sound s) :
    Sound (charactersInserted h s start count) ∧ Gains s (charactersInserted h s start count) := by
  have htold := announce_alike ha
    ({ s with tracker := (s.tracker.insertCharacters start count).1 } : Margin κ ω) []
    ((s.tracker.insertCharacters start count).2.map .span)
  have honce : (s.tracker.insertCharacters start count).1.trackedSpans.Nodup := by
    rw [Tracker.trackedSpans_insertCharacters]
    exact hs.once
  have hedit : Sound { s with tracker := (s.tracker.insertCharacters start count).1 } :=
    hs.edit honce fun i => Tracker.valid_insertCharacters hs.once (hs.valid i)
  exact ⟨hedit.alike htold,
    (Gains.edit Tracker.trackedSpans_insertCharacters).trans (.alike htold)⟩

theorem charactersDeleted_gains (ha : Aloof h) {start : Int} (hstart : 0 ≤ start) (count : Int)
    (hs : Sound s) :
    Sound (charactersDeleted h s start count) ∧ Gains s (charactersDeleted h s start count) := by
  have htold := announce_alike ha
    ({ s with tracker := (s.tracker.deleteCharacters start count).1 } : Margin κ ω) []
    ((s.tracker.deleteCharacters start count).2.map .span)
  have honce : (s.tracker.deleteCharacters start count).1.trackedSpans.Nodup := by
    rw [Tracker.trackedSpans_deleteCharacters]
    exact hs.once
  have hedit : Sound { s with tracker := (s.tracker.deleteCharacters start count).1 } :=
    hs.edit honce fun i => Tracker.valid_deleteCharacters hs.once hstart (hs.valid i)
  exact ⟨hedit.alike htold,
    (Gains.edit Tracker.trackedSpans_deleteCharacters).trans (.alike htold)⟩

/-- The commands by which spans come to be shared and are left. A bookmark may bring a marker along
and be put on the span of one, and its place is of the sort that its kind is for. -/
def Command.Sharing (s : Margin κ ω) : Command → Prop
  | .new kind place _ marker => (∀ m, marker = some m → m < s.markers.size) ∧ match place with
    | .line _ => kind.OnLine
    | .span x => kind = .parseError ∧ x.Valid
    | .marker _ => kind = .parseError
  | .add b => b < s.bookmarks.size
  | .replaceParseErrors ds => ∀ d ∈ ds, d.finding.span.Valid
  | .charactersDeleted start _ => 0 ≤ start
  | .createMarker x => x.Valid
  | .remove _ | .charactersInserted _ _ | .createMarkerFor _ => True
  | .deleteMarker _ | .removeMarker _ | .removeMarkersWhere _ => True
  | _ => False

/-- The command leaves nothing on a span that is bereft by it. -/
def Command.Considerate (h : Reaction κ ω) (s : Margin κ ω) (c : Command) : Prop :=
  c.Sharing s ∧ ∀ i ∈ s.tracker.trackedSpans,
    s.Bereft (perform h s c).1 i → ¬ (perform h s c).1.Uses i

theorem perform_followed (ha : Aloof h) {c : Command} (hc : c.Considerate h s) (hs : Sound s)
    (hf : Followed s) : Sound (perform h s c).1 ∧ Followed (perform h s c).1 := by
  obtain ⟨hc, hkind⟩ := hc
  have hl := Loyal.refl hf
  have hgained : ∀ t, Sound t ∧ Gains s t → Sound t ∧ Followed t :=
    fun t ht => ⟨ht.1, ht.2.followed hf⟩
  have hlost : Sound (perform h s c).1 ∧ Loyal s (perform h s c).1 →
      Sound (perform h s c).1 ∧ Followed (perform h s c).1 :=
    fun ht => ⟨ht.1, ht.2.followed hf hkind⟩
  cases c with
  | new kind place message marker =>
    obtain ⟨hmarker, hplace⟩ := hc
    refine hgained _ (newBookmark_gains kind message ?_ hmarker hs)
    rintro x rfl
    exact hplace.2
  | add b => exact add_followed ha hc hs hf
  | remove b => exact hlost (remove_loyal ha hs hl b)
  | replaceParseErrors ds => exact hlost (replaceParseErrors_loyal ha hc hs hl)
  | charactersInserted start count => exact hgained _ (charactersInserted_gains ha start count hs)
  | charactersDeleted start count => exact hgained _ (charactersDeleted_gains ha hc count hs)
  | createMarker x =>
    unfold perform
    dsimp only
    split
    · rename_i t m ht
      exact hgained t (createMarker_gains hc ht hs)
    · exact ⟨hs, hf⟩
  | createMarkerFor b =>
    unfold perform
    dsimp only
    split
    · exact ⟨hs, hf⟩
    · split
      · rename_i t m ht
        exact hgained t (createMarkerOver_gains ht hs)
      · exact ⟨hs, hf⟩
  | deleteMarker m =>
    exact hlost ⟨removeMarker_sound ha hs m, removeMarker_loyal ha hs hs (hs.liveMade m) hl⟩
  | removeMarker m =>
    exact hlost ⟨removeMarker_sound ha hs m, removeMarker_loyal ha hs hs (hs.liveMade m) hl⟩
  | removeMarkersWhere test => exact hlost (removeMarkersWhere_loyal ha hs hl test)
  | _ => exact hc.elim

/-- The deletion of a marker leaves everything else tracked just if it is considerate. -/
theorem considerate_deleteMarker_iff (ha : Aloof h) (hs : Sound s) (hf : Followed s)
    (hm : m ∈ s.live) : (Command.deleteMarker m).Considerate h s ↔
      Followed (perform h s (.deleteMarker m)).1 := by
  refine ⟨fun hc => (perform_followed ha hc hs hf).2, ?_⟩
  intro hkept
  refine ⟨trivial, ?_⟩
  intro i _ hbereft hused
  obtain ⟨heased, _⟩ := removeMarker_eased ha hs hm
  rcases hbereft with ⟨b, hb, hout, _⟩ | ⟨n, hn, hout, hspan, hbare⟩
  · exact hout (heased.stored.symm ▸ hb)
  · have hnm : n = m := by
      by_contra hne
      exact hout ((heased.mem_live n).mpr ⟨hn, hne⟩)
    subst hnm
    rcases heased.only i (hkept i hused) with hi | ⟨b, hb, hmarker, hanchor⟩
    · have hne := ((Tracker.mem_trackedSpans_untrack hs.once).mp hi).2
      exact hne (congrArg Anchor.span hspan)
    · exact hbare b (heased.stored.symm ▸ hb) hmarker hanchor

omit [DecidableEq κ] in
theorem sound_empty (lineCount : Option Int) (w : ω) :
    Sound (empty lineCount w : Margin κ ω) := by
  refine ⟨List.nodup_nil, ?_, List.nodup_nil, ?_, ?_, ?_, ?_⟩
  · exact fun _ => ⟨Int.le_refl 0, Int.le_refl 0⟩
  · intro b hb
    cases hb
  · intro m hm
    cases hm
  · intro b m hm
    have hnone : (none : Option MarkerId) = some m := hm
    cases hnone
  · intro b hb
    cases hb

omit [DecidableEq κ] in
theorem followed_empty (lineCount : Option Int) (w : ω) :
    Followed (empty lineCount w : Margin κ ω) := by
  rintro i (⟨b, hb, _⟩ | ⟨m, hm, _⟩)
  · cases hb
  · cases hm

theorem span_charactersInserted (ha : Aloof h) {i : SpanId} (hn : s.tracker.trackedSpans.Nodup)
    (hi : i ∈ s.tracker.trackedSpans) (start : Int) {count : Int} (hc : 0 < count) :
    (charactersInserted h s start count).tracker.span i =
      (s.tracker.span i).insert start count := by
  have htold := announce_alike ha
    ({ s with tracker := (s.tracker.insertCharacters start count).1 } : Margin κ ω) []
    ((s.tracker.insertCharacters start count).2.map .span)
  rw [Tracker.span, charactersInserted, htold.spans]
  exact Tracker.span_insertCharacters hn hc hi

theorem span_charactersDeleted (ha : Aloof h) {i : SpanId} (hn : s.tracker.trackedSpans.Nodup)
    (hi : i ∈ s.tracker.trackedSpans) (start : Int) {count : Int} (hc : 0 < count) :
    (charactersDeleted h s start count).tracker.span i =
      (s.tracker.span i).delete start count := by
  have htold := announce_alike ha
    ({ s with tracker := (s.tracker.deleteCharacters start count).1 } : Margin κ ω) []
    ((s.tracker.deleteCharacters start count).2.map .span)
  rw [Tracker.span, charactersDeleted, htold.spans]
  exact Tracker.span_deleteCharacters hn hc hi

/-- As long as all commands are considerate, the anchors of the live markers and of the stored
bookmarks are tracked, however they are shared, and their spans move with the text. The deletion of a
marker that is not would put an end to that. -/
theorem shared_followed (ha : Aloof h) {lineCount : Option Int} {w : ω}
    (hr : Run (Command.Considerate h) Aside h (empty lineCount w) s) :
    (∀ m ∈ s.live, s.tracker.IsTracked (.span (s.marker m).span)) ∧
    (∀ b ∈ s.stored, s.tracker.IsTracked (s.bookmark b).anchor) ∧
    (∀ i, s.Uses i → ∀ start count, 0 < count →
      (charactersInserted h s start count).tracker.span i =
        (s.tracker.span i).insert start count ∧
      (charactersDeleted h s start count).tracker.span i =
        (s.tracker.span i).delete start count) ∧
    ∀ m ∈ s.live, (Command.deleteMarker m).Considerate h s ↔
      Followed (perform h s (.deleteMarker m)).1 := by
  have hboth : Sound s ∧ Followed s := by
    refine run_induction (I := fun t => Sound t ∧ Followed t) ?_ ?_ hr
      ⟨sound_empty lineCount w, followed_empty lineCount w⟩
    · rintro t c hc ⟨ht, hf⟩
      exact perform_followed ha hc ht hf
    · rintro t u haside ⟨ht, hf⟩
      exact ⟨ht.alike (.aside haside), hf.alike (.aside haside)⟩
  obtain ⟨hs, hf⟩ := hboth
  have hsensible : ∀ (t : Margin κ ω) (c : Command), c.Considerate h t → c.Sensible t := by
    intro t c hc
    cases c with
    | add b => exact hc.1
    | linesDeleted first count => exact hc.1.elim
    | _ => exact trivial
  have hordered := ordered_of_run (.aloof ha) (run_mono hsensible (fun _ _ => id) hr)
  refine ⟨?_, ?_, ?_, fun m hm => considerate_deleteMarker_iff ha hs hf hm⟩
  · intro m hm
    exact hf _ (.inr ⟨m, hm, rfl⟩)
  · intro b hb
    cases hanchor : (s.bookmark b).anchor with
    | line i => exact (hordered.stays b hb List.not_mem_nil i hanchor).1
    | span i => exact hf i (.inl ⟨b, hb, hanchor⟩)
  · intro i hi start count hc
    exact ⟨span_charactersInserted ha hs.once (hf i hi) start hc,
      span_charactersDeleted ha hs.once (hf i hi) start hc⟩

/-- Two markers and a parse error on one span; the parse error is then shown by a third marker,
which is deleted again. -/
def lodged : Margin Unit Unit :=
  performAll grumbler (empty none ())
    [.createMarker ⟨4, 2⟩, .new .parseError (.marker 0) "unexpected end" none, .add 0,
      .createMarkerFor 0, .replaceParseErrors [⟨4, 2, 1, "unexpected end"⟩], .deleteMarker 2,
      .charactersInserted 0 1]

theorem shared_followed_lodged :
    Aloof grumbler ∧ Run (Command.Considerate grumbler) Aside grumbler (empty none ()) lodged ∧
    lodged.live = [0, 1] ∧ lodged.stored = [0] ∧ lodged.tracker.trackedSpans = [0] ∧
    lodged.tracker.span 0 = ⟨5, 2⟩ ∧
    (∀ m ∈ lodged.live, lodged.tracker.IsTracked (.span (lodged.marker m).span)) ∧
    (∀ b ∈ lodged.stored, lodged.tracker.IsTracked (lodged.bookmark b).anchor) ∧
    (∀ i, lodged.Uses i → ∀ start count, 0 < count →
      (charactersInserted grumbler lodged start count).tracker.span i =
        (lodged.tracker.span i).insert start count ∧
      (charactersDeleted grumbler lodged start count).tracker.span i =
        (lodged.tracker.span i).delete start count) ∧
    ∀ m ∈ lodged.live, (Command.deleteMarker m).Considerate grumbler lodged ↔
      Followed (perform grumbler lodged (.deleteMarker m)).1 := by
  have haloof : Aloof grumbler := fun _ _ _ => .refl
  have hrun : Run (Command.Considerate grumbler) Aside grumbler (empty none ()) lodged := by
    have hplace : Span.Valid ⟨4, 2⟩ := by decide
    refine .head (.command (.createMarker ⟨4, 2⟩) ⟨hplace, by decide +kernel⟩) ?_
    refine .head (.command (.new .parseError (.marker 0) "unexpected end" none)
      ⟨⟨by simp, rfl⟩, by decide +kernel⟩) ?_
    refine .head (.command (.add 0) ⟨?_, by decide +kernel⟩) ?_
    · change (0 : Nat) < _
      decide +kernel
    refine .head (.command (.createMarkerFor 0) ⟨trivial, by decide +kernel⟩) ?_
    refine .head (.command (.replaceParseErrors [⟨4, 2, 1, "unexpected end"⟩])
      ⟨by simp [Command.Sharing, Diagnostic.finding, Span.Valid], by decide +kernel⟩) ?_
    refine .head (.command (.deleteMarker 2) ⟨trivial, by decide +kernel⟩) ?_
    refine .head (.command (.charactersInserted 0 1) ⟨trivial, by decide +kernel⟩) ?_
    exact .refl
  exact ⟨haloof, hrun, by decide +kernel, by decide +kernel, by decide +kernel,
    by decide +kernel, shared_followed haloof hrun⟩

/-- A marker is deleted while another one is on its span. -/
def abandoned : Margin Unit Unit :=
  performAll grumbler (empty none ())
    [.createMarker ⟨4, 2⟩, .new .parseError (.marker 0) "" none, .createMarkerFor 0,
      .deleteMarker 0]

/-- The other marker is live, and neither is its span tracked nor does it move with the text. -/
theorem not_followed_abandoned :
    Aloof grumbler ∧ Run Command.Sharing Aside grumbler (empty none ()) abandoned ∧
    1 ∈ abandoned.live ∧ ¬ abandoned.tracker.IsTracked (.span (abandoned.marker 1).span) ∧
    (charactersInserted grumbler abandoned 0 1).markerSpan 1 = abandoned.markerSpan 1 := by
  refine ⟨fun _ _ _ => .refl, run_performAll _ _ ?_, by decide +kernel, by decide +kernel,
    by decide +kernel⟩
  intro c hc t
  simp only [List.mem_cons, List.not_mem_nil, or_false] at hc
  rcases hc with rfl | rfl | rfl | rfl
  · change Span.Valid ⟨4, 2⟩
    decide
  · exact ⟨by simp, rfl⟩
  · trivial
  · trivial

end Margin

end Scriptorium
