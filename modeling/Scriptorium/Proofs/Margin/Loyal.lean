import Scriptorium.Proofs.Margin.Shared

/-!
What becomes of shared spans in the course of a command. A span is `Bereft` when something has left it
and no bookmark was told to have it tracked again; whatever else stands on it follows the text no
longer.

`Loyal s t` goes along with a command that began at `s` and has come to `t`: what is in use is tracked
or bereft by then. Nothing that has left comes back, so a span that is bereft remains so. Where a
command only adds to the margin, `Gains t u` says so.
-/

namespace Scriptorium
set_option autoImplicit false

namespace Margin
variable {κ ω : Type}

/-- Between `s` and `t` something has left the span. It does not count if it was a marker that showed
a bookmark on the span, and the bookmark is still there. -/
def Bereft (s t : Margin κ ω) (i : SpanId) : Prop :=
  (∃ b ∈ s.stored, b ∉ t.stored ∧ (s.bookmark b).anchor = .span i) ∨
  ∃ m ∈ s.live, m ∉ t.live ∧ (s.marker m).span = i ∧
    ∀ b ∈ t.stored, (s.bookmark b).marker = some m → (s.bookmark b).anchor ≠ .span i

instance (s t : Margin κ ω) (i : SpanId) : Decidable (s.Bereft t i) := by
  unfold Bereft; infer_instance

structure Loyal (s t : Margin κ ω) : Prop where
  bookmarkBound : s.bookmarks.size ≤ t.bookmarks.size
  markerBound : s.markers.size ≤ t.markers.size
  anchor : ∀ b < s.bookmarks.size, (t.bookmark b).anchor = (s.bookmark b).anchor
  span : ∀ m < s.markers.size, (t.marker m).span = (s.marker m).span
  stored : ∀ b < s.bookmarks.size, b ∈ t.stored → b ∈ s.stored
  live : ∀ m < s.markers.size, m ∈ t.live → m ∈ s.live
  marker : ∀ b ∈ t.stored, ∀ m ∈ t.live, (s.bookmark b).marker = some m →
    (t.bookmark b).marker = some m
  tracked : ∀ i, t.Uses i → i ∈ t.tracker.trackedSpans ∨ s.Bereft t i

/-- Nothing is lost from `t` to `u`, and what is new in `u` is tracked. -/
structure Gains (t u : Margin κ ω) : Prop where
  bookmarkBound : t.bookmarks.size ≤ u.bookmarks.size
  markerBound : t.markers.size ≤ u.markers.size
  anchor : ∀ b < t.bookmarks.size, (u.bookmark b).anchor = (t.bookmark b).anchor
  span : ∀ m < t.markers.size, (u.marker m).span = (t.marker m).span
  stored : ∀ b < t.bookmarks.size, b ∈ u.stored → b ∈ t.stored
  live : ∀ m < t.markers.size, m ∈ u.live → m ∈ t.live
  marker : ∀ b m, (t.bookmark b).marker = some m → (u.bookmark b).marker = some m
  tracked : ∀ i ∈ t.tracker.trackedSpans, i ∈ u.tracker.trackedSpans
  uses : ∀ i, u.Uses i → i ∈ u.tracker.trackedSpans ∨ t.Uses i

section Relations
variable {s t u : Margin κ ω} {b : BookmarkId} {m : MarkerId} {i : SpanId}

theorem Alike.uses (ht : Alike s t) : t.Uses i ↔ s.Uses i := by
  unfold Uses
  simp only [ht.stored, ht.live, ht.bookmark, ht.span]

theorem Followed.alike (hs : Followed s) (ht : Alike s t) : Followed t := by
  intro i hi
  rw [ht.tracked]
  exact hs i (ht.uses.mp hi)

theorem Bereft.uses (hi : s.Bereft t i) : s.Uses i := by
  rcases hi with ⟨b, hb, _, hanchor⟩ | ⟨m, hm, _, hspan, _⟩
  · exact .inl ⟨b, hb, hanchor⟩
  · exact .inr ⟨m, hm, hspan⟩

theorem Bereft.later (hs : Sound s) (hstored : ∀ b < s.bookmarks.size, b ∈ u.stored → b ∈ t.stored)
    (hlive : ∀ m < s.markers.size, m ∈ u.live → m ∈ t.live) (hi : s.Bereft t i) : s.Bereft u i := by
  rcases hi with ⟨b, hb, hout, hanchor⟩ | ⟨m, hm, hout, hspan, hbare⟩
  · exact .inl ⟨b, hb, fun hu => hout (hstored b (hs.known b hb) hu), hanchor⟩
  · refine .inr ⟨m, hm, fun hu => hout (hlive m (hs.liveMade m hm) hu), hspan, ?_⟩
    intro b hb hmarker
    exact hbare b (hstored b (lt_size_of_marker hmarker) hb) hmarker

namespace Gains

theorem alike (ht : Alike s t) : Gains s t where
  bookmarkBound := Nat.le_of_eq (congrArg Registry.size ht.bookmarks).symm
  markerBound := Nat.le_of_eq ht.made.symm
  anchor b _ := congrArg Bookmark.anchor (ht.bookmark b)
  span m _ := ht.span m
  stored _ _ hb := ht.stored ▸ hb
  live _ _ hm := ht.live ▸ hm
  marker b _ hm := (ht.bookmark b).symm ▸ hm
  tracked _ hi := ht.tracked.symm ▸ hi
  uses _ hi := .inr (ht.uses.mp hi)

theorem edit {v : Tracker} (hv : v.trackedSpans = s.tracker.trackedSpans) :
    Gains s { s with tracker := v } where
  bookmarkBound := Nat.le_refl _
  markerBound := Nat.le_refl _
  anchor _ _ := rfl
  span _ _ := rfl
  stored _ _ := id
  live _ _ := id
  marker _ _ := id
  tracked _ hi := hv.symm ▸ hi
  uses _ := .inr

theorem trans (hst : Gains s t) (htu : Gains t u) : Gains s u where
  bookmarkBound := Nat.le_trans hst.bookmarkBound htu.bookmarkBound
  markerBound := Nat.le_trans hst.markerBound htu.markerBound
  anchor b hb := (htu.anchor b (Nat.lt_of_lt_of_le hb hst.bookmarkBound)).trans (hst.anchor b hb)
  span m hm := (htu.span m (Nat.lt_of_lt_of_le hm hst.markerBound)).trans (hst.span m hm)
  stored b hb hu := hst.stored b hb (htu.stored b (Nat.lt_of_lt_of_le hb hst.bookmarkBound) hu)
  live m hm hu := hst.live m hm (htu.live m (Nat.lt_of_lt_of_le hm hst.markerBound) hu)
  marker b m hm := htu.marker b m (hst.marker b m hm)
  tracked i hi := htu.tracked i (hst.tracked i hi)
  uses i hi := by
    rcases htu.uses i hi with hi | hi
    · exact .inl hi
    · exact (hst.uses i hi).imp_left (htu.tracked i)

theorem followed (h : Gains t u) (ht : Followed t) : Followed u := by
  intro i hi
  rcases h.uses i hi with hi | hi
  · exact hi
  · exact h.tracked i (ht i hi)

/-- A bookmark that was just made may be stored at once, if it is tracked. -/
theorem push {v : Tracker} {x : Bookmark} {stored : List BookmarkId} (hs : Sound s)
    (hstored : ∀ c ∈ stored, c ∈ s.stored ∨
      c = s.bookmarks.size ∧ ∀ i, x.anchor = .span i → i ∈ v.trackedSpans)
    (htracked : ∀ i ∈ s.tracker.trackedSpans, i ∈ v.trackedSpans) :
    Gains s { s with
      tracker := v, bookmarks := (s.bookmarks.push x).1, stored := stored } := by
  have hold : ∀ c < s.bookmarks.size, (s.bookmarks.push x).1.get c = s.bookmark c := by
    intro c hc
    rw [Registry.get_push, if_neg (Nat.ne_of_lt hc)]
    rfl
  refine {
    bookmarkBound := by simp
    markerBound := Nat.le_refl _
    anchor := fun c hc => congrArg Bookmark.anchor (hold c hc)
    span := fun _ _ => rfl
    stored := ?_
    live := fun _ _ => id
    marker := ?_
    tracked := htracked
    uses := ?_ }
  · intro c hc hmem
    rcases hstored c hmem with hmem | ⟨heq, _⟩
    · exact hmem
    · exact absurd hc (heq ▸ Nat.lt_irrefl _)
  · intro c m hm
    exact (congrArg Bookmark.marker (hold c (lt_size_of_marker hm))).trans hm
  · rintro i (⟨c, hc, hanchor⟩ | hlive)
    · rcases hstored c hc with hc | ⟨rfl, hx⟩
      · have hsame : (s.bookmark c).anchor = .span i := by rwa [← hold c (hs.known c hc)]
        exact .inr (.inl ⟨c, hc, hsame⟩)
      · have hself : (s.bookmarks.push x).1.get s.bookmarks.size = x := by
          rw [Registry.get_push, if_pos rfl]
        have hanchor' : x.anchor = .span i := hself ▸ hanchor
        exact .inl (hx i hanchor')
    · exact .inr (.inr hlive)

theorem marked {v : Tracker} (hs : Sound s)
    (htracked : ∀ j, j ∈ s.tracker.trackedSpans ∨ j = i → j ∈ v.trackedSpans) :
    Gains s (s.marked v i) where
  bookmarkBound := Nat.le_refl _
  markerBound := by simp [Margin.marked]
  anchor _ _ := rfl
  span n hn := by rw [marker_marked, if_neg (Nat.ne_of_lt hn)]
  stored _ _ := id
  live n hn hmem := by
    rcases List.mem_append.mp hmem with hmem | hmem
    · exact hmem
    · exact absurd hn (List.mem_singleton.mp hmem ▸ Nat.lt_irrefl _)
  marker _ _ := id
  tracked j hj := htracked j (.inl hj)
  uses j hj := by
    rcases hj with hstored | ⟨n, hn, hspan⟩
    · exact .inr (.inl hstored)
    · rw [marker_marked] at hspan
      rcases List.mem_append.mp hn with hn | hn
      · rw [if_neg (Nat.ne_of_lt (hs.liveMade n hn))] at hspan
        exact .inr (.inr ⟨n, hn, hspan⟩)
      · rw [if_pos (List.mem_singleton.mp hn)] at hspan
        exact .inl (htracked j (.inr hspan.symm))

theorem adopted (hfree : (s.bookmark b).marker = none) (m : MarkerId) (tooltip : Label → Label) :
    Gains s (s.adopted b m tooltip) where
  bookmarkBound := Registry.size_le_size_modify _ _ _
  markerBound := by
    have hpaired : s.markers.size ≤ (s.paired b m tooltip).markers.size :=
      Registry.size_le_size_modify _ _ _
    exact Nat.le_trans hpaired (Registry.size_le_size_modify _ _ _)
  anchor c _ := anchor_adopted s b c m tooltip
  span n _ := span_adopted s b m n tooltip
  stored _ _ := id
  live _ _ := id
  marker c n hn := by
    rw [marker_adopted]
    split
    · rename_i hbc
      rw [← hbc, hfree] at hn
      cases hn
    · exact hn
  tracked _ := id
  uses j hj := by
    refine .inr ?_
    unfold Uses at hj
    simp only [anchor_adopted, span_adopted] at hj
    exact hj

end Gains

namespace Loyal

theorem refl (hs : Followed s) : Loyal s s where
  bookmarkBound := Nat.le_refl _
  markerBound := Nat.le_refl _
  anchor _ _ := rfl
  span _ _ := rfl
  stored _ _ := id
  live _ _ := id
  marker _ _ _ _ := id
  tracked i hi := .inl (hs i hi)

theorem gain (hs : Sound s) (h : Loyal s t) (hg : Gains t u) : Loyal s u where
  bookmarkBound := Nat.le_trans h.bookmarkBound hg.bookmarkBound
  markerBound := Nat.le_trans h.markerBound hg.markerBound
  anchor b hb := (hg.anchor b (Nat.lt_of_lt_of_le hb h.bookmarkBound)).trans (h.anchor b hb)
  span m hm := (hg.span m (Nat.lt_of_lt_of_le hm h.markerBound)).trans (h.span m hm)
  stored b hb hu := h.stored b hb (hg.stored b (Nat.lt_of_lt_of_le hb h.bookmarkBound) hu)
  live m hm hu := h.live m hm (hg.live m (Nat.lt_of_lt_of_le hm h.markerBound) hu)
  marker b hb m hm hmarker := by
    have hlt := Nat.lt_of_lt_of_le (lt_size_of_marker hmarker) h.bookmarkBound
    have hmlt := Nat.lt_of_lt_of_le (hs.preset b m hmarker) h.markerBound
    exact hg.marker b m (h.marker b (hg.stored b hlt hb) m (hg.live m hmlt hm) hmarker)
  tracked i hi := by
    have hlater : s.Bereft t i → s.Bereft u i := by
      apply Bereft.later hs
      · exact fun b hb => hg.stored b (Nat.lt_of_lt_of_le hb h.bookmarkBound)
      · exact fun m hm => hg.live m (Nat.lt_of_lt_of_le hm h.markerBound)
    rcases hg.uses i hi with hi | hi
    · exact .inl hi
    · rcases h.tracked i hi with hi | hi
      · exact .inl (hg.tracked i hi)
      · exact .inr (hlater hi)

/-- Where no span is bereft and in use, all is as it should be. -/
theorem followed (h : Loyal s t) (hs : Followed s)
    (hkind : ∀ i ∈ s.tracker.trackedSpans, s.Bereft t i → ¬ t.Uses i) : Followed t := by
  intro i hi
  rcases h.tracked i hi with htracked | hbereft
  · exact htracked
  · exact absurd hi (hkind i (hs i hbereft.uses) hbereft)

end Loyal
end Relations

section Operations
variable [DecidableEq κ] {h : Reaction κ ω} {s t : Margin κ ω} {b : BookmarkId} {m : MarkerId}

omit [DecidableEq κ] in
theorem Eased.mem_live (ht : Eased m (s.unlived m) t) (n : MarkerId) :
    n ∈ t.live ↔ n ∈ s.live ∧ n ≠ m := by
  rw [ht.live]
  simp [unlived]

omit [DecidableEq κ] in
theorem Eased.uses {i : SpanId} (ht : Eased m (s.unlived m) t) (hi : t.Uses i) : s.Uses i := by
  rcases hi with ⟨b, hb, hbi⟩ | ⟨n, hn, hni⟩
  · have hstored : t.stored = s.stored := ht.stored
    exact .inl ⟨b, hstored ▸ hb, (ht.anchor b).symm.trans hbi⟩
  · exact .inr ⟨n, ((ht.mem_live n).mp hn).1, (ht.span n).symm.trans hni⟩

theorem removeMarker_sound (ha : Aloof h) (hs : Sound s) (m : MarkerId) :
    Sound (removeMarker h s m).1 := by
  by_cases hm : m ∈ s.live
  · exact (hs.unlived m).eased (removeMarker_eased ha hs hm).1
  · rwa [removeMarker_of_not_mem h hm]

theorem removeMarker_loyal (ha : Aloof h) (hs : Sound s) (ht : Sound t)
    (hold : m ∈ t.live → m < s.markers.size) (hl : Loyal s t) :
    Loyal s (removeMarker h t m).1 := by
  by_cases hlive : m ∈ t.live
  · have hm := hold hlive
    obtain ⟨heased, hfree⟩ := removeMarker_eased ha ht hlive
    generalize (removeMarker h t m).1 = u at heased hfree
    have hstored : u.stored = t.stored := heased.stored
    have hmem := heased.mem_live
    refine {
      bookmarkBound := heased.bookmarks.symm ▸ hl.bookmarkBound
      markerBound := heased.markers.symm ▸ hl.markerBound
      anchor := fun b hb => (heased.anchor b).trans (hl.anchor b hb)
      span := fun n hn => (heased.span n).trans (hl.span n hn)
      stored := fun b hb hu => hl.stored b hb (hstored ▸ hu)
      live := fun n hn hu => hl.live n hn ((hmem n).mp hu).1
      marker := ?_
      tracked := ?_ }
    · intro b hb n hn hmarker
      obtain ⟨hn, hne⟩ := (hmem n).mp hn
      have hkept := hl.marker b (hstored ▸ hb) n hn hmarker
      rcases heased.marker b with hsame | ⟨hshown, _⟩
      · exact hsame.trans hkept
      · exact absurd (Option.some_inj.mp (hkept.symm.trans hshown)) hne
    · intro i hi
      by_cases him : (t.marker m).span = i
      · by_cases hcover : ∃ b ∈ u.stored, (s.bookmark b).marker = some m ∧
            (s.bookmark b).anchor = .span i
        · -- a bookmark was shown by the marker, and had the span tracked again
          obtain ⟨b, hb, hmarker, hbi⟩ := hcover
          have hb' : b ∈ t.stored := hstored ▸ hb
          have hkept := hl.marker b hb' m hlive hmarker
          have hanchor' := (hl.anchor b (lt_size_of_marker hmarker)).trans hbi
          rcases heased.marker b with hsame | ⟨_, hnone⟩
          · exact absurd (hsame.trans hkept) (hfree b hb')
          · exact .inl (heased.again b hb' hkept hnone i hanchor')
        · refine .inr (.inr ⟨m, hl.live m hm hlive, ?_, ?_, ?_⟩)
          · exact fun hu => ((hmem m).mp hu).2 rfl
          · exact (hl.span m hm).symm.trans him
          · exact fun b hb hmarker hbi => hcover ⟨b, hb, hmarker, hbi⟩
      · rcases hl.tracked i (heased.uses hi) with htracked | hbereft
        · refine .inl (heased.tracked i ?_)
          refine (Tracker.mem_trackedSpans_untrack ht.once).mpr ⟨htracked, ?_⟩
          exact fun heq => him (Anchor.span.inj heq)
        · refine .inr (hbereft.later hs ?_ ?_)
          · exact fun b _ hb => hstored ▸ hb
          · exact fun n _ hn => ((hmem n).mp hn).1
  · rwa [removeMarker_of_not_mem h hlive]

omit [DecidableEq κ] in
theorem Loyal.without (hs : Sound s) (ht : Sound t) (hb : b ∈ t.stored)
    (hlt : b < s.bookmarks.size) (hl : Loyal s t) : Loyal s (t.without b) := by
  have hmem : ∀ c, c ∈ (t.without b).stored ↔ c ∈ t.stored ∧ c ≠ b := by
    intro c
    simp [Margin.without, modifyBookmark]
  refine {
    bookmarkBound := Nat.le_trans hl.bookmarkBound (Registry.size_le_size_modify _ _ _)
    markerBound := hl.markerBound
    anchor := ?_
    span := hl.span
    stored := fun c hc hu => hl.stored c hc ((hmem c).mp hu).1
    live := hl.live
    marker := ?_
    tracked := ?_ }
  · intro c hc
    rw [anchor_without]
    exact hl.anchor c hc
  · intro c hc n hn hmarker
    obtain ⟨hc, hcb⟩ := (hmem c).mp hc
    exact marker_without.mpr ⟨hl.marker c hc n hn hmarker, hcb⟩
  · intro i hi
    by_cases hbi : (t.bookmark b).anchor = .span i
    · refine .inr (.inl ⟨b, hl.stored b hlt hb, ?_, (hl.anchor b hlt).symm.trans hbi⟩)
      exact fun hu => ((hmem b).mp hu).2 rfl
    · have hused : t.Uses i := by
        rcases hi with ⟨c, hc, hci⟩ | hlive
        · rw [anchor_without] at hci
          exact .inl ⟨c, ((hmem c).mp hc).1, hci⟩
        · exact .inr hlive
      rcases hl.tracked i hused with htracked | hbereft
      · exact .inl ((Tracker.mem_trackedSpans_untrack ht.once).mpr ⟨htracked, hbi⟩)
      · exact .inr (hbereft.later hs (fun c _ hc => ((hmem c).mp hc).1) fun _ _ => id)

theorem discard_sound (ha : Aloof h) (hs : Sound s) (hb : b < s.bookmarks.size) :
    Sound (discard h s b) := by
  rw [discard_eq]
  split
  · exact removeMarker_sound ha (hs.without hb) _
  · exact hs.without hb

theorem discard_loyal (ha : Aloof h) (hs : Sound s) (ht : Sound t) (hb : b ∈ t.stored)
    (hlt : b < s.bookmarks.size) (hold : ∀ m, (t.bookmark b).marker = some m → m < s.markers.size)
    (hl : Loyal s t) : Loyal s (discard h t b) := by
  have hout := hl.without hs ht hb hlt
  rw [discard_eq]
  split
  · rename_i m hm
    exact removeMarker_loyal ha hs (ht.without (ht.known b hb)) (fun _ => hold m hm) hout
  · exact hout

omit [DecidableEq κ] in
/-- A new marker over a span has it tracked. -/
theorem marked_gains {u : Tracker} {i : SpanId} (hs : Sound s)
    (hu : s.tracker.track (.span i) = .ok u) :
    Sound (s.marked u i) ∧ Gains s (s.marked u i) := by
  refine ⟨hs.marked (Tracker.nodup_of_track hu hs.once) (hs.valid_of_track hu), .marked hs ?_⟩
  intro j hj
  rw [Tracker.mem_trackedSpans_of_track hu]
  exact hj.imp_right fun hji => congrArg Anchor.span hji.symm

/-- A parse error that has no marker gets one, and its span is tracked then if it was not. -/
theorem markParseError_gains (ha : Aloof h) (hs : Sound s) (hb : b < s.bookmarks.size)
    (hfree : (s.bookmark b).marker = none) :
    Sound (markParseError h s b).1 ∧ Gains s (markParseError h s b).1 ∧
      (markParseError h s b).1.stored = s.stored ∧
      ∀ c, b ≠ c → ((markParseError h s b).1.bookmark c).marker = (s.bookmark c).marker := by
  cases hanchor : (s.bookmark b).anchor with
  | line i =>
    rw [markParseError_of_line hanchor]
    exact ⟨hs, .alike (.refl s), rfl, fun _ _ => rfl⟩
  | span i =>
    obtain ⟨u, hu⟩ := Tracker.track_of_valid (hs.valid i)
    obtain ⟨hmarked, hgained⟩ := marked_gains hs hu
    have hmade : s.markers.size < (s.marked u i).markers.size := by
      simp [marked]
    have hlook : Alike
        ((s.marked u i).adopted b s.markers.size fun _ =>
          .text ((s.marked u i).bookmark b).message)
        (markParseError h s b).1 := by
      rw [markParseError_of_span hanchor, createMarkerOver_of_track hu]
      refine Alike.watch (setStyle_alike ha ?_ _ _) b _
      exact Nat.lt_of_lt_of_le hmade (Registry.size_le_size_modify _ _ _)
    have hgains := hgained.trans
      ((Gains.adopted (s := s.marked u i) hfree _ _).trans (.alike hlook))
    refine ⟨(hmarked.adopted hb hmade _).alike hlook, hgains, hlook.stored, ?_⟩
    intro c hbc
    rw [hlook.bookmark, marker_adopted, if_neg hbc]
    rfl

theorem marker_discard (ha : Aloof h) {c : BookmarkId} {n : MarkerId}
    (hn : ((discard h s b).bookmark c).marker = some n) : (s.bookmark c).marker = some n := by
  rw [discard_eq] at hn
  split at hn
  · exact (marker_without.mp ((removeMarker_leaves ha _ _).2.2 c n hn)).1
  · exact (marker_without.mp hn).1

/-- The parse errors that are still to be looked at are stored, and the markers that they have are
as old as they are. -/
theorem keepParseErrors_loyal (ha : Aloof h) (hs : Sound s) (hl : Loyal s s)
    {bs : List BookmarkId} (hn : bs.Nodup) (hbs : ∀ b ∈ bs, b ∈ s.stored)
    (wanted : List Finding) (flag : Bool) :
    Sound (keepParseErrors h bs wanted flag s).1 ∧
      Loyal s (keepParseErrors h bs wanted flag s).1 := by
  refine (keepParseErrors_induction (I := fun bs t => bs.Nodup ∧
    (∀ b ∈ bs, b ∈ t.stored ∧ b < s.bookmarks.size ∧
      ∀ m, (t.bookmark b).marker = some m → m < s.markers.size) ∧ Sound t ∧ Loyal s t)
    ?_ ?_ ?_ wanted flag ⟨hn, ?_, hs, hl⟩).2.2
  · rintro b bs t ⟨hn, hbs, ht⟩
    exact ⟨(List.nodup_cons.mp hn).2, fun c hc => hbs c (List.mem_cons_of_mem b hc), ht⟩
  · rintro b bs t hfree ⟨hn, hbs, ht, hlt⟩
    obtain ⟨hb, hn⟩ := List.nodup_cons.mp hn
    have hknown := ht.known b (hbs b List.mem_cons_self).1
    obtain ⟨hsound, hgains, hstored, hmarker⟩ := markParseError_gains ha ht hknown hfree
    refine ⟨hn, ?_, hsound, hlt.gain hs hgains⟩
    intro c hc
    obtain ⟨hcs, hcb, hold⟩ := hbs c (List.mem_cons_of_mem b hc)
    rw [hstored, hmarker c fun hbc => hb (hbc ▸ hc)]
    exact ⟨hcs, hcb, hold⟩
  · rintro b bs t ⟨hn, hbs, ht, hlt⟩
    obtain ⟨hb, hn⟩ := List.nodup_cons.mp hn
    obtain ⟨hbt, hbound, hold⟩ := hbs b List.mem_cons_self
    have htold := notifyChanged_alike ha (discard h t b) b true
    have hgone := discard_loyal ha hs ht hbt hbound hold hlt
    refine ⟨hn, ?_, (discard_sound ha ht (ht.known b hbt)).alike htold, hgone.gain hs (.alike htold)⟩
    intro c hc
    obtain ⟨hcs, hcb, hmade⟩ := hbs c (List.mem_cons_of_mem b hc)
    refine ⟨?_, hcb, ?_⟩
    · rw [htold.stored, stored_discard ha]
      exact List.mem_filter.mpr ⟨hcs, decide_eq_true fun hcb : c = b => hb (hcb ▸ hc)⟩
    · intro m hm
      rw [htold.bookmark] at hm
      exact hmade m (marker_discard ha hm)
  · intro b hb
    exact ⟨hbs b hb, hs.known b (hbs b hb), fun m hm => hs.preset b m hm⟩

omit [DecidableEq κ] in
theorem valid_newSpan {x : Span} (hx : x.Valid) (hs : Sound s) (i : SpanId) :
    ((s.tracker.newSpan x).1.span i).Valid := by
  change ((s.tracker.spans.push x).1.get i).Valid
  rw [Registry.get_push]
  split
  · exact hx
  · exact hs.valid i

theorem reported_gains (ha : Aloof h) {f : Finding} (hf : f.span.Valid) (hs : Sound s) :
    Sound (markParseError h (s.reported f) s.bookmarks.size).1 ∧
      Gains s (markParseError h (s.reported f) s.bookmarks.size).1 := by
  have hself := s.bookmark_reported f
  have hanchor := congrArg Bookmark.anchor hself
  obtain ⟨u, hu⟩ := Tracker.track_of_valid (valid_newSpan hf hs s.tracker.spans.size)
  have hmade : s.bookmarks.size < (s.bookmarks.push
      ⟨.parseError, .span s.tracker.spans.size, f.message, none⟩).1.size := by simp
  have hpushed : Sound (s.newBookmark .parseError (.span f.span) f.message none).1 := by
    rw [newBookmark_span]
    exact hs.push rfl (valid_newSpan hf hs) (by simp)
  have hsound : Sound { s.reported f with tracker := u } := by
    refine hpushed.stores (fun hb => Nat.lt_irrefl _ (hs.known _ hb)) hmade ?_ ?_
    · rw [← hu]
      exact congrArg _ hanchor
    · intro m hm
      have hnone : ((s.reported f).bookmark s.bookmarks.size).marker = some m := hm
      rw [hself] at hnone
      cases hnone
  have htracked : ∀ i, i ∈ u.trackedSpans ↔
      i ∈ s.tracker.trackedSpans ∨ i = s.tracker.spans.size :=
    fun i => Tracker.mem_trackedSpans_of_track_newSpan hu
  have hgains : Gains s { s.reported f with tracker := u } := by
    refine Gains.push hs ?_ fun i hi => (htracked i).mpr (.inl hi)
    intro c hc
    rcases List.mem_append.mp hc with hc | hc
    · exact .inl hc
    · refine .inr ⟨List.mem_singleton.mp hc, ?_⟩
      intro i hi
      exact (htracked i).mpr (.inr (Anchor.span.inj hi).symm)
  have hfree := congrArg Bookmark.marker hself
  rw [markParseError_of_track h hanchor hu]
  obtain ⟨hmarked, hmore, _⟩ := markParseError_gains ha hsound hmade hfree
  exact ⟨hmarked, hgains.trans hmore⟩

theorem addParseErrors_gains (ha : Aloof h) {fs : List Finding} (hfs : ∀ f ∈ fs, f.span.Valid)
    (hs : Sound s) : Sound (addParseErrors h fs s).1 ∧ Gains s (addParseErrors h fs s).1 := by
  induction fs generalizing s with
  | nil => exact ⟨hs, .alike (.refl s)⟩
  | cons f fs ih =>
    obtain ⟨hsound, hgains⟩ := reported_gains ha (hfs f List.mem_cons_self) hs
    rw [addParseErrors_cons]
    split
    · rename_i t ht
      rw [ht] at hsound hgains
      have htold := notifyChanged_alike ha t s.bookmarks.size false
      obtain ⟨hlast, hmore⟩ := ih (fun g hg => hfs g (List.mem_cons_of_mem f hg))
        (hsound.alike htold)
      exact ⟨hlast, hgains.trans ((Gains.alike htold).trans hmore)⟩
    · rename_i t e ht
      rw [ht] at hsound hgains
      exact ⟨hsound, hgains⟩

theorem replaceParseErrors_loyal (ha : Aloof h) {ds : List Diagnostic}
    (hds : ∀ d ∈ ds, d.finding.span.Valid) (hs : Sound s) (hl : Loyal s s) :
    Sound (replaceParseErrors h s ds).1 ∧ Loyal s (replaceParseErrors h s ds).1 := by
  refine replaceParseErrors_induction (I := fun t => Sound t ∧ Loyal s t) ⟨hs, hl⟩ ?_ ?_ ?_
  · exact keepParseErrors_loyal ha hs hl (nodup_bookmarksOf hs.storedOnce _)
      (fun b hb => (mem_bookmarksOf.mp hb).1) _ _
  · rintro fs t - - hfs ⟨ht, hlt⟩
    have hvalid : ∀ f ∈ fs, f.span.Valid := by
      intro f hf
      obtain ⟨d, hd, rfl⟩ := mem_findings (hfs f hf)
      exact hds d hd
    obtain ⟨hsound, hgains⟩ := addParseErrors_gains ha hvalid ht
    exact ⟨hsound, hlt.gain hs hgains⟩
  · rintro t ⟨ht, hlt⟩
    have htold := notifyRedraw_alike ha t
    exact ⟨ht.alike htold, hlt.gain hs (.alike htold)⟩

theorem remove_loyal (ha : Aloof h) (hs : Sound s) (hl : Loyal s s) (b : BookmarkId) :
    Sound (remove h s b).1 ∧ Loyal s (remove h s b).1 := by
  unfold remove
  split
  · rename_i hb
    have hlt := hs.known b hb
    have htold := (notifyRedraw_alike ha (discard h s b)).trans (notifyChanged_alike ha _ b true)
    have hgone := discard_loyal ha hs hs hb hlt (fun m => hs.preset b m) hl
    exact ⟨(discard_sound ha hs hlt).alike htold, hgone.gain hs (.alike htold)⟩
  · exact ⟨hs, hl⟩

/-- All markers that are picked are picked before the first of them is deleted. -/
theorem removeMarkersWhere_loyal (ha : Aloof h) (hs : Sound s) (hl : Loyal s s)
    (test : MarkerView → Bool) :
    Sound (removeMarkersWhere h s test).1 ∧ Loyal s (removeMarkersWhere h s test).1 := by
  unfold removeMarkersWhere
  dsimp only
  refine List.foldlRecOn (motive := fun t => Sound t ∧ Loyal s t) _ _ ⟨hs, hl⟩ ?_
  rintro t ⟨ht, hlt⟩ m hm
  have hmade := hs.liveMade m (List.mem_filter.mp hm).1
  exact ⟨removeMarker_sound ha ht m, removeMarker_loyal ha hs ht (fun _ => hmade) hlt⟩

end Operations

end Margin

end Scriptorium
