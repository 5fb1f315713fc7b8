import Scriptorium.Proofs.Margin.Carried
import Scriptorium.Proofs.Margin.Undisturbed

/-!
The margin as a whole is consistent whenever no command is under way: the tracker follows just
the anchors of what is stored or live, each once, and a bookmark and its marker point at each
other. The lines and the weave were dealt with before; here both halves are put together, for
listeners that do not call back. Those disturb no command.
-/

namespace Scriptorium
set_option autoImplicit false

namespace Margin
variable {κ ω : Type} [DecidableEq κ] {h : Reaction κ ω} {s : Margin κ ω}
variable {τ : Prop} {b : BookmarkId} {m : MarkerId}

theorem Aloof.heeds_alike (ha : Aloof h) (s : Margin κ ω) : Heeds h (Alike s) :=
  heeds_of_aloof ha fun _ _ hstep ht => ht.trans (.aside hstep)

section Notices
variable (ha : Aloof h) (s : Margin κ ω)
include ha

theorem notifyRedraw_alike : Alike s (notifyRedraw h s) :=
  notifyRedraw_keeps (ha.heeds_alike s) (fun t e ht => ht.trans (.log t e)) (.refl s)

theorem notifyChanged_alike (b : BookmarkId) (removed : Bool) :
    Alike s (notifyChanged h s b removed) :=
  notifyChanged_keeps (ha.heeds_alike s) (fun t e ht => ht.trans (.log t e)) b removed (.refl s)

theorem notifyMarkerRedraw_alike (m : MarkerId) : Alike s (notifyMarkerRedraw h s m) :=
  notifyMarkerRedraw_keeps (ha.heeds_alike s) (fun t e ht => ht.trans (.log t e)) m (.refl s)

theorem announce_alike (removed : List BookmarkId) (anchors : List Anchor) :
    Alike s (announce h s removed anchors) :=
  announce_keeps (ha.heeds_alike s) (fun t e ht => ht.trans (.log t e)) removed anchors (.refl s)

end Notices

omit [DecidableEq κ] in
theorem release_leaves (s : Margin κ ω) (b : BookmarkId) (m : MarkerId) :
    (s.release b m).1.stored = s.stored ∧ (s.release b m).1.live = s.live ∧
      ∀ c n, ((s.release b m).1.bookmark c).marker = some n → (s.bookmark c).marker = some n := by
  unfold release
  split
  · dsimp only
    split
    · split
      · exact ⟨rfl, rfl, fun c n hn => (marker_forget.mp hn).1⟩
      · exact ⟨rfl, rfl, fun c n hn => (marker_forget.mp hn).1⟩
    · exact ⟨rfl, rfl, fun c n hn => (marker_forget.mp hn).1⟩
  · exact ⟨rfl, rfl, fun _ _ => id⟩

theorem removeMarker_leaves (ha : Aloof h) (s : Margin κ ω) (m : MarkerId) :
    (removeMarker h s m).1.stored = s.stored ∧
      (removeMarker h s m).1.live = s.live.filter (· ≠ m) ∧
      ∀ c n, ((removeMarker h s m).1.bookmark c).marker = some n →
        (s.bookmark c).marker = some n := by
  by_cases hm : m ∈ s.live
  · have hn : Heeds h fun t => t.stored = s.stored ∧ t.live = s.live.filter (· ≠ m) ∧
        ∀ c n, (t.bookmark c).marker = some n → (s.bookmark c).marker = some n := by
      refine heeds_of_aloof ha fun t u hstep ht => ?_
      have hsame := Alike.aside hstep
      simpa only [hsame.stored, hsame.live, hsame.bookmark] using ht
    rw [removeMarker_of_mem h hm]
    refine notifyDeleted_keeps hn (fun _ _ => id) m ?_ ?_
    · rintro t b ⟨hstored, hlive, hmarker⟩
      obtain ⟨hst, hli, hma⟩ := release_leaves t b m
      exact ⟨hst.trans hstored, hli.trans hlive, fun c n hc => hmarker c n (hma c n hc)⟩
    · exact notifyMarkerRedraw_keeps hn (fun _ _ => id) m ⟨rfl, rfl, fun _ _ => id⟩
  · rw [removeMarker_of_not_mem h hm]
    refine ⟨rfl, ?_, fun _ _ => id⟩
    refine (List.filter_eq_self.mpr fun n hn => ?_).symm
    exact decide_eq_true fun hnm : n = m => hm (hnm ▸ hn)

theorem stored_discard (ha : Aloof h) (s : Margin κ ω) (b : BookmarkId) :
    (discard h s b).stored = s.stored.filter (· ≠ b) := by
  rw [discard_eq]
  split
  · exact (removeMarker_leaves ha _ _).1
  · rfl

theorem setStyle_alike (ha : Aloof h) (hm : m < s.markers.size) (p : StyleProperty)
    (v : Option String) : Alike s (setStyle h s m p v) := by
  unfold setStyle
  split
  · exact .refl s
  · refine Alike.trans ?_ (notifyMarkerRedraw_alike ha _ m)
    exact .modifyMarker s hm (fun _ => rfl) (fun _ => rfl) fun _ _ => Iff.rfl

theorem staysShown_of_aloof (ha : Aloof h) (hspan : (s.bookmark b).kind = .parseError →
    ∃ i, (s.bookmark b).anchor = .span i ∧ (s.tracker.span i).Valid) : StaysShown h s b := by
  intro hk _
  obtain ⟨i, hi, hvalid⟩ := hspan hk
  obtain ⟨u, hu⟩ := Tracker.track_of_valid hvalid
  rw [markParseError_of_span hi, createMarkerOver_of_track hu]
  have hpaired : s.markers.size < ((s.marked u i).paired b s.markers.size fun _ =>
      .text ((s.marked u i).bookmark b).message).markers.size := by
    have hmade : s.markers.size < (s.marked u i).markers.size := by simp [Margin.marked]
    exact Nat.lt_of_lt_of_le hmade (Registry.size_le_size_modify _ _ _)
  have hstyled := setStyle_alike ha hpaired Kind.parseError.look.1 (some Kind.parseError.look.2)
  exact hstyled.live.symm ▸ List.mem_append_right s.live (List.mem_singleton_self s.markers.size)

theorem staysShown_of_woven (ha : Aloof h) (hb : b < s.bookmarks.size) (hs : Woven τ [] none s) :
    StaysShown h s b := by
  refine staysShown_of_aloof ha fun hk => ?_
  obtain ⟨i, hi⟩ := hs.kinds b hb hk
  exact ⟨i, hi, (hs.made b hb i hi).2⟩

theorem staysShown_reported (ha : Aloof h) (s : Margin κ ω) {f : Finding} (hf : f.span.Valid) :
    StaysShown h (s.reported f) s.bookmarks.size := by
  refine staysShown_of_aloof ha fun _ => ?_
  refine ⟨s.tracker.spans.size, congrArg Bookmark.anchor (s.bookmark_reported f), ?_⟩
  exact (s.span_reported f).symm ▸ hf

theorem showsKept_of_aloof (ha : Aloof h) {bs : List BookmarkId} (wanted : List Finding)
    (hn : bs.Nodup) (hbs : ∀ b ∈ bs, b ∈ s.stored) (hs : Woven τ [] none s) :
    ShowsKept h bs wanted s := by
  have hstays : ∀ l : List BookmarkId, Heeds h fun t => t.stored = l := by
    intro l
    exact heeds_of_aloof ha fun t u hstep ht => (Alike.aside hstep).stored.trans ht
  induction bs generalizing s wanted with
  | nil => trivial
  | cons b bs ih =>
    obtain ⟨hnew, hn⟩ := List.nodup_cons.mp hn
    have hb := hbs b List.mem_cons_self
    have hrest : ∀ c ∈ bs, c ∈ s.stored := fun c hc => hbs c (List.mem_cons_of_mem b hc)
    unfold ShowsKept
    split
    · split
      · rename_i hfree
        have hshown : StaysShown h s b := staysShown_of_woven ha (hs.known b hb) hs
        have hstored : (markParseError h s b).1.stored = s.stored :=
          markParseError_keeps (I := fun r => r.stored = s.stored) (hstays _) (hs.known b hb) rfl
        refine ⟨hb, hshown, ih _ hn (hstored ▸ hrest) ?_⟩
        exact (markParseError_woven ha.tactful hb hfree hshown hs).1
      · exact ih _ hn hrest hs
    · have hdropped := (ha.tactful.discard (hs.known b hb) hs).1
      refine ih _ hn ?_ (ha.tactful.changed b true hdropped).1
      intro c hc
      rw [notifyChanged_keeps (hstays _) (fun _ _ => id) b true (stored_discard ha s b)]
      refine List.mem_filter.mpr ⟨hrest c hc, ?_⟩
      exact decide_eq_true fun hcb : c = b => hnew (hcb ▸ hc)

theorem showsAdded_of_aloof (ha : Aloof h) {fs : List Finding} (hfs : ∀ f ∈ fs, f.span.Valid)
    (s : Margin κ ω) : ShowsAdded h fs s := by
  induction fs generalizing s with
  | nil => trivial
  | cons f fs ih =>
    refine ⟨staysShown_reported ha s (hfs f List.mem_cons_self), ih ?_ _⟩
    exact fun g hg => hfs g (List.mem_cons_of_mem f hg)

/-- Listeners that do not call back disturb no command. -/
theorem undisturbed_of_aloof (ha : Aloof h) {c : Command} (hc : c.Regular s)
    (hs : Woven τ [] none s) : c.Undisturbed h s := by
  cases c with
  | attachMarker b x =>
    intro hb
    unfold unmarked
    split
    · rw [(removeMarker_leaves ha _ _).1]
      exact hb
    · exact hb
  | replaceParseErrors ds =>
    refine ⟨showsKept_of_aloof ha _ (nodup_bookmarksOf hs.storedOnce _)
      (fun b hb => (mem_bookmarksOf.mp hb).1) hs, ?_⟩
    intro r hr
    refine showsAdded_of_aloof ha (fun f hf => ?_) _
    cases hkept : (keepParseErrors h (s.bookmarksOf .parseError) (findings ds) false s).2 with
    | ok kept =>
      rw [hkept] at hr
      obtain rfl : kept = r := Option.some_inj.mp hr
      have hwanted := keepParseErrors_wanted h _ _ _ s hkept
      obtain ⟨d, hd, rfl⟩ := mem_findings (hwanted f hf)
      exact hc d hd
    | error e =>
      rw [hkept] at hr
      cases hr
  | _ => trivial

theorem woven_of_run (ha : Aloof h) {lineCount : Option Int} {w : ω}
    (hr : Run Command.Regular Aside h (empty lineCount w) s) : Woven τ [] none s := by
  refine run_induction (I := Woven τ [] none) ?_ ?_ hr (woven_empty lineCount w)
  · exact fun t c hc ht => perform_woven ha.tactful hc.plain (undisturbed_of_aloof ha hc ht) ht
  · exact fun t u haside ht => ht.alike (.aside haside)

/-- The tracked lines are the anchors of the stored bookmarks of lines, and the tracked spans those
of the stored parse errors and of the live markers, each once. Bookmarks and markers that point at
something point at something there, which points back. -/
structure Consistent (s : Margin κ ω) : Prop where
  lineAnchors : (s.tracker.trackedLines.map Anchor.line).Perm
    ((s.stored.filter fun b => (s.bookmark b).kind.OnLine).map fun b => (s.bookmark b).anchor)
  linesOnce : s.tracker.trackedLines.Nodup
  spanAnchors : ∀ i, i ∈ s.tracker.trackedSpans ↔
    (∃ b ∈ s.stored, (s.bookmark b).kind = .parseError ∧ (s.bookmark b).anchor = .span i) ∨
      ∃ m ∈ s.live, (s.marker m).span = i
  spansOnce : s.tracker.trackedSpans.Nodup
  shown : ∀ b ∈ s.stored, ∀ m, (s.bookmark b).marker = some m →
    m ∈ s.live ∧ (s.marker m).tag = .bookmark b
  tagged : ∀ m ∈ s.live, ∀ b, (s.marker m).tag = .bookmark b →
    b ∈ s.stored ∧ (s.bookmark b).marker = some m

omit [DecidableEq κ] in
theorem lineAnchors_of_ordered (hs : s.ruling.Ordered [] 0) (hw : Woven τ [] none s) :
    (s.tracker.trackedLines.map Anchor.line).Perm
      ((s.stored.filter fun b => (s.bookmark b).kind.OnLine).map
        fun b => (s.bookmark b).anchor) := by
  have hstored : ∀ b, b ∈ s.stored.filter (fun b => (s.bookmark b).kind.OnLine) ↔
      b ∈ s.stored ∧ (s.bookmark b).kind.OnLine := by
    simp
  refine (List.perm_ext_iff_of_nodup ?_ ?_).mpr ?_
  · exact hs.trackedNodup.map fun _ _ => Anchor.line.inj
  · refine List.Nodup.map_on ?_ (hs.storedNodup.filter _)
    intro b hb c hc heq
    obtain ⟨hb, hk⟩ := (hstored b).mp hb
    obtain ⟨i, hi⟩ := hs.onLine b hb hk
    have hc := ((hstored c).mp hc).1
    exact hs.own b c i (hs.known b hb) (hs.known c hc) hi (heq.symm.trans hi)
  · intro a
    constructor
    · intro hmem
      obtain ⟨i, hi, rfl⟩ := List.mem_map.mp hmem
      obtain ⟨b, hb, hbi⟩ := hs.owned i hi
      refine List.mem_map.mpr ⟨b, (hstored b).mpr ⟨hb, ?_⟩, hbi⟩
      intro hk
      obtain ⟨j, hj⟩ := hw.kinds b (hw.known b hb) hk
      have heq : Anchor.line i = .span j := hbi.symm.trans hj
      cases heq
    · intro hmem
      obtain ⟨b, hb, rfl⟩ := List.mem_map.mp hmem
      obtain ⟨hb, hk⟩ := (hstored b).mp hb
      obtain ⟨i, hi⟩ := hs.onLine b hb hk
      exact List.mem_map.mpr ⟨i, (hs.stays b hb List.not_mem_nil i hi).1, hi.symm⟩

omit [DecidableEq κ] in
theorem consistent_of_woven (hs : s.ruling.Ordered [] 0) (hw : Woven True [] none s) :
    s.Consistent := by
  refine ⟨lineAnchors_of_ordered hs hw, hs.trackedNodup, ?_, hw.once, ?_, ?_⟩
  · intro i
    constructor
    · intro hi
      rcases hw.needed i hi with ⟨b, hb, hbi⟩ | hlive
      · exact .inl ⟨b, hb, hw.onSpan b hb i hbi, hbi⟩
      · exact .inr hlive
    · rintro (⟨b, hb, _, hbi⟩ | ⟨m, hm, rfl⟩)
      · exact hw.tracks hb hbi
      · exact hw.followed m hm
  · intro b _ m hm
    obtain ⟨_, htag, _⟩ := hw.shown b m hm
    exact ⟨hw.shows hm, htag trivial⟩
  · intro m hm b htag
    have hmarker := hw.tagged trivial m hm b htag
    exact ⟨(hw.shown b m hmarker).1, hmarker⟩

omit [DecidableEq κ] in
theorem Command.Plain.sensible {c : Command} (hc : c.Plain s) : c.Sensible s := by
  cases c with
  | add b => exact hc
  | linesDeleted first count => exact hc
  | _ => exact trivial

/-- Whatever regular commands are given, under listeners that do not call back, the margin is
consistent after each. -/
theorem consistent_of_run (ha : Aloof h) {lineCount : Option Int} {w : ω}
    (hr : Run Command.Regular Aside h (empty lineCount w) s) : s.Consistent := by
  have hsensible := run_mono (fun _ _ hc => Command.Plain.sensible (Command.Regular.plain hc))
    (fun _ _ => id) hr
  exact consistent_of_woven (ordered_of_run (.aloof ha) hsensible) (woven_of_run ha hr)

/-- A listener that does nothing but fail. -/
def grumbler (_ : Unit) (_ : Notice) (s : Margin Unit Unit) : Margin Unit Unit × Bool := (s, true)

/-- The marker of a parse error is deleted by itself, and the parse error stays where it is. -/
def tended : Margin Unit Unit :=
  performAll grumbler ((empty none ()).subscribe () .changed)
    [.toggleBreakpoint 3, .replaceParseErrors [⟨4, 2, 1, "unexpected end"⟩], .attachMarker 0 ⟨0, 9⟩,
      .createMarker ⟨2, 5⟩, .charactersDeleted 1 2, .linesInserted 1 2, .deleteMarker 0,
      .linesDeleted 1 1]

theorem consistent_of_run_tended :
    Aloof grumbler ∧ Run Command.Regular Aside grumbler (empty none ()) tended ∧
    tended.stored = [0, 1] ∧ tended.live = [1, 2] ∧ tended.tracker.trackedSpans = [1, 2, 0] ∧
    tended.Consistent := by
  have haloof : Aloof grumbler := fun _ _ _ => .refl
  have hrun : Run Command.Regular Aside grumbler (empty none ()) tended := by
    refine .head (.aside (.subscribe _ () .changed trivial)) (run_performAll _ _ ?_)
    intro c hc t
    simp only [List.mem_cons, List.not_mem_nil, or_false] at hc
    rcases hc with rfl | rfl | rfl | rfl | rfl | rfl | rfl | rfl
    · trivial
    · simp [Command.Regular, Diagnostic.finding, Span.Valid]
    · trivial
    · trivial
    · change (0 : Int) ≤ 1
      decide
    · trivial
    · trivial
    · change (1 : Int) ≤ 1
      decide
  exact ⟨haloof, hrun, by decide +kernel, by decide +kernel, by decide +kernel,
    consistent_of_run haloof hrun⟩

end Margin

end Scriptorium
