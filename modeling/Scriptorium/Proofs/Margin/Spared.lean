import Scriptorium.Proofs.Margin.Consistent

/-!
What an operation leaves alone. `Spares K s t` says that of the bookmarks of `s` those in `K` are in
`t` what they were, with their markers, and that nothing at all was done to lines, to spans or to
the way a marker looks. The bookmarks outside of `K` may have lost or gained a marker or be gone.

The margin from which things are looked at, `s`, stays fixed while the operations go on, so each
lemma carries `Spares K s` over one part of an operation. Runs of operations are put together by
`Spares.trans`, after `K` was narrowed to what all of them spare.
-/

namespace Scriptorium
set_option autoImplicit false

/-- A bookmark but for the marker by which it is shown. -/
def Bookmark.unshown (x : Bookmark) : Bookmark := { x with marker := none }

/-- A marker but for those who listen to it. -/
def Marker.unheard {κ : Type} (x : Marker κ) : Marker κ := { x with deleted := .named "" }

namespace Margin
variable {κ ω : Type}

structure Spares (K : BookmarkId → Prop) [DecidablePred K] (s t : Margin κ ω) : Prop where
  bookmarkBound : s.bookmarks.size ≤ t.bookmarks.size
  markerBound : s.markers.size ≤ t.markers.size
  spanBound : s.tracker.spans.size ≤ t.tracker.spans.size
  lines : t.tracker.lines = s.tracker.lines
  trackedLines : t.tracker.trackedLines = s.tracker.trackedLines
  span : ∀ i < s.tracker.spans.size, t.tracker.span i = s.tracker.span i
  nature : ∀ b < s.bookmarks.size, (t.bookmark b).unshown = (s.bookmark b).unshown
  bookmark : ∀ b, K b → t.bookmark b = s.bookmark b
  stored : t.stored.filter K = s.stored.filter K
  marker : ∀ m < s.markers.size, (t.marker m).unheard = (s.marker m).unheard
  live : ∀ b m, K b → (s.bookmark b).marker = some m → m ∈ s.live → m ∈ t.live
  dead : ∀ m < s.markers.size, m ∈ t.live → m ∈ s.live

namespace Spares
variable {K L : BookmarkId → Prop} [DecidablePred K] [DecidablePred L]
variable {s t u : Margin κ ω} {b : BookmarkId} {m : MarkerId}

theorem refl (K : BookmarkId → Prop) [DecidablePred K] (s : Margin κ ω) : Spares K s s where
  bookmarkBound := Nat.le_refl _
  markerBound := Nat.le_refl _
  spanBound := Nat.le_refl _
  lines := rfl
  trackedLines := rfl
  span _ _ := rfl
  nature _ _ := rfl
  bookmark _ _ := rfl
  stored := rfl
  marker _ _ := rfl
  live _ _ _ _ := id
  dead _ _ := id

theorem trans (hst : Spares K s t) (htu : Spares K t u) : Spares K s u where
  bookmarkBound := Nat.le_trans hst.bookmarkBound htu.bookmarkBound
  markerBound := Nat.le_trans hst.markerBound htu.markerBound
  spanBound := Nat.le_trans hst.spanBound htu.spanBound
  lines := htu.lines.trans hst.lines
  trackedLines := htu.trackedLines.trans hst.trackedLines
  span i hi := (htu.span i (Nat.lt_of_lt_of_le hi hst.spanBound)).trans (hst.span i hi)
  nature b hb := (htu.nature b (Nat.lt_of_lt_of_le hb hst.bookmarkBound)).trans (hst.nature b hb)
  bookmark b hb := (htu.bookmark b hb).trans (hst.bookmark b hb)
  stored := htu.stored.trans hst.stored
  marker m hm := (htu.marker m (Nat.lt_of_lt_of_le hm hst.markerBound)).trans (hst.marker m hm)
  live b m hb hm hl := htu.live b m hb (hst.bookmark b hb ▸ hm) (hst.live b m hb hm hl)
  dead m hm hl := hst.dead m hm (htu.dead m (Nat.lt_of_lt_of_le hm hst.markerBound) hl)

theorem narrow (h : Spares K s t) (hLK : ∀ b, L b → K b) : Spares L s t :=
  { h with
    bookmark := fun b hb => h.bookmark b (hLK b hb)
    live := fun b m hb => h.live b m (hLK b hb)
    stored := by
      have hboth : ∀ l : List BookmarkId, l.filter L = (l.filter K).filter L := by
        intro l
        rw [List.filter_filter]
        apply List.filter_congr
        intro b _
        by_cases hb : L b
        · simp [hb, hLK b hb]
        · simp [hb]
      rw [hboth, h.stored, ← hboth] }

theorem kind (h : Spares K s t) (hb : b < s.bookmarks.size) :
    (t.bookmark b).kind = (s.bookmark b).kind := by
  have := congrArg Bookmark.kind (h.nature b hb)
  exact this

theorem anchor (h : Spares K s t) (hb : b < s.bookmarks.size) :
    (t.bookmark b).anchor = (s.bookmark b).anchor := by
  have := congrArg Bookmark.anchor (h.nature b hb)
  exact this

theorem message (h : Spares K s t) (hb : b < s.bookmarks.size) :
    (t.bookmark b).message = (s.bookmark b).message := by
  have := congrArg Bookmark.message (h.nature b hb)
  exact this

theorem log (h : Spares K s t) (e : Entry) : Spares K s (t.log e) := { h with }

theorem edit (h : Spares K s t) {v : Tracker} (hlines : v.lines = t.tracker.lines)
    (htracked : v.trackedLines = t.tracker.trackedLines)
    (hbound : t.tracker.spans.size ≤ v.spans.size)
    (hspan : ∀ i < t.tracker.spans.size, v.span i = t.tracker.span i) :
    Spares K s { t with tracker := v } :=
  { h with
    lines := hlines.trans h.lines
    trackedLines := htracked.trans h.trackedLines
    spanBound := Nat.le_trans h.spanBound hbound
    span := fun i hi => (hspan i (Nat.lt_of_lt_of_le hi h.spanBound)).trans (h.span i hi) }

/-- A marker that was not there before may be changed in any way, others in whom they tell. -/
theorem modifyMarker (h : Spares K s t) {f : Marker κ → Marker κ}
    (hf : s.markers.size ≤ m ∨ ∀ x, (f x).unheard = x.unheard) :
    Spares K s (t.modifyMarker m f) :=
  { h with
    markerBound := Nat.le_trans h.markerBound (Registry.size_le_size_modify _ _ _)
    marker := by
      intro n hn
      rw [marker_modifyMarker]
      split
      · rename_i hmn
        rcases hf with hnew | hsame
        · exact absurd hn (Nat.not_lt.mpr (hmn ▸ hnew))
        · rw [hsame]
          exact h.marker n hn
      · exact h.marker n hn }

theorem modifyBookmark (h : Spares K s t) {f : Bookmark → Bookmark} (hb : ¬ K b)
    (hf : ∀ x, (f x).unshown = x.unshown) : Spares K s (t.modifyBookmark b f) :=
  { h with
    bookmarkBound := Nat.le_trans h.bookmarkBound (Registry.size_le_size_modify _ _ _)
    nature := by
      intro c hc
      rw [bookmark_modifyBookmark]
      split
      · rw [hf]
        exact h.nature c hc
      · exact h.nature c hc
    bookmark := by
      intro c hc
      rw [bookmark_modifyBookmark, if_neg]
      · exact h.bookmark c hc
      · intro hbc
        exact hb (hbc ▸ hc) }

theorem unlived (h : Spares K s t) (hm : ∀ b, K b → (t.bookmark b).marker ≠ some m) :
    Spares K s (t.unlived m) :=
  { h with
    live := by
      intro b n hb hn hl
      apply List.mem_filter.mpr
      refine ⟨h.live b n hb hn hl, ?_⟩
      apply decide_eq_true
      intro hnm
      apply hm b hb
      rw [h.bookmark b hb, hn, hnm]
    dead := fun n hn hl => h.dead n hn (List.mem_filter.mp hl).1 }

theorem without (h : Spares K s t) {i : SpanId} (hb : ¬ K b)
    (ha : (t.bookmark b).anchor = .span i) : Spares K s (t.without b) := by
  have hmoved : Spares K s { t with tracker := t.tracker.untrack (.span i) } :=
    h.edit rfl rfl (Nat.le_refl _) fun _ _ => rfl
  have hforgot := hmoved.modifyBookmark hb (f := fun x => { x with marker := none }) fun _ => rfl
  rw [← ha] at hforgot
  exact { hforgot with
    stored := by
      rw [← h.stored]
      change (t.stored.filter (· ≠ b)).filter K = t.stored.filter K
      rw [List.filter_filter]
      apply List.filter_congr
      intro c _
      by_cases hc : K c
      · have hcb : c ≠ b := fun heq => hb (heq ▸ hc)
        simp [hc, hcb]
      · simp [hc] }

theorem marked (h : Spares K s t) (i : SpanId) : Spares K s (t.marked t.tracker i) :=
  { h with
    markerBound := by
      change s.markers.size ≤ (t.markers.push _).1.size
      rw [Registry.size_push]
      exact Nat.le_succ_of_le h.markerBound
    marker := by
      intro m hm
      have hlt := Nat.lt_of_lt_of_le hm h.markerBound
      rw [marker_marked, if_neg (Nat.ne_of_lt hlt)]
      exact h.marker m hm
    live := fun b m hb hm hl => List.mem_append_left _ (h.live b m hb hm hl)
    dead := by
      intro m hm hl
      rcases List.mem_append.mp hl with hl | hl
      · exact h.dead m hm hl
      · have hnew := List.mem_singleton.mp hl
        exact absurd h.markerBound (Nat.not_le.mpr (hnew ▸ hm)) }

theorem reported (h : Spares K s t) (hK : ∀ b, K b → b < s.bookmarks.size) (f : Finding) :
    Spares K s (t.reported f) := by
  have hold : ∀ b < s.bookmarks.size, (t.reported f).bookmark b = t.bookmark b := by
    intro b hb
    have hlt := Nat.lt_of_lt_of_le hb h.bookmarkBound
    exact (Registry.get_push t.bookmarks _ b).trans (if_neg (Nat.ne_of_lt hlt))
  have hmoved : Spares K s { t with tracker := (t.tracker.newSpan f.span).1 } := by
    refine h.edit rfl rfl ?_ ?_
    · change t.tracker.spans.size ≤ (t.tracker.spans.push f.span).1.size
      rw [Registry.size_push]
      exact Nat.le_succ _
    · intro i hi
      exact (Registry.get_push t.tracker.spans _ i).trans (if_neg (Nat.ne_of_lt hi))
  exact { hmoved with
    bookmarkBound := by
      change s.bookmarks.size ≤ (t.bookmarks.push _).1.size
      rw [Registry.size_push]
      exact Nat.le_succ_of_le h.bookmarkBound
    nature := by
      intro b hb
      rw [hold b hb]
      exact h.nature b hb
    bookmark := by
      intro b hb
      rw [hold b (hK b hb)]
      exact h.bookmark b hb
    stored := by
      have hnew : ¬ K t.bookmarks.size := by
        intro hk
        exact Nat.not_lt.mpr h.bookmarkBound (hK _ hk)
      change (t.stored ++ [t.bookmarks.size]).filter K = s.stored.filter K
      rw [List.filter_append, h.stored]
      simp [hnew] }

theorem watch (h : Spares K s t) (b : BookmarkId) (m : MarkerId) : Spares K s (t.watch b m) :=
  h.modifyMarker (.inr fun _ => rfl)

theorem paired (h : Spares K s t) (hb : ¬ K b) (hm : s.markers.size ≤ m)
    (tooltip : Label → Label) : Spares K s (t.paired b m tooltip) :=
  (h.modifyMarker (.inl hm)).modifyBookmark hb fun _ => rfl

theorem aside [DecidableEq κ] (h : Spares K s t) (ha : Aside t u) : Spares K s u := by
  cases ha with
  | share w => exact { h with }
  | subscribe k c _ =>
    cases c with
    | markerDeleted m => exact h.modifyMarker (.inr fun _ => rfl)
    | _ => exact { h with }
  | unsubscribe k c _ =>
    cases c with
    | markerDeleted m => exact h.modifyMarker (.inr fun _ => rfl)
    | _ => exact { h with }

end Spares

section Operations
variable [DecidableEq κ] {h : Reaction κ ω} {K : BookmarkId → Prop} [DecidablePred K]
variable {τ : Prop} {s t : Margin κ ω} {b : BookmarkId} {m : MarkerId}

theorem Aloof.heeds_spares (ha : Aloof h) (K : BookmarkId → Prop) [DecidablePred K]
    (s : Margin κ ω) : Heeds h (Spares K s) :=
  heeds_of_aloof ha fun _ _ hstep ht => ht.aside hstep

theorem notifyChanged_spares (ha : Aloof h) (b : BookmarkId) (removed : Bool)
    (ht : Spares K s t) : Spares K s (notifyChanged h t b removed) :=
  notifyChanged_keeps (ha.heeds_spares K s) (fun _ e ht => ht.log e) b removed ht

theorem setStyle_spares (ha : Aloof h) (hm : s.markers.size ≤ m) (p : StyleProperty)
    (v : Option String) (ht : Spares K s t) : Spares K s (setStyle h t m p v) := by
  unfold setStyle
  split
  · exact ht
  · apply notifyMarkerRedraw_keeps (ha.heeds_spares K s) fun _ e ht => ht.log e
    exact ht.modifyMarker (.inl hm)

/-- A marker that no bookmark has is deleted without any of them taking notice. -/
theorem removeMarker_spares (ha : Aloof h) (hl : m ∈ t.live)
    (hm : ∀ b, (t.bookmark b).marker ≠ some m) (ht : Spares K s t) :
    Spares K s (removeMarker h t m).1 := by
  have hn : Heeds h fun u => Spares K s u ∧ ∀ b, (u.bookmark b).marker ≠ some m := by
    refine heeds_of_aloof ha ?_
    rintro u v hstep ⟨hu, hfree⟩
    exact ⟨hu.aside hstep, fun b => (Alike.aside hstep).bookmark b ▸ hfree b⟩
  have hlog : ∀ (u : Margin κ ω) (e : Entry),
      (Spares K s u ∧ ∀ b, (u.bookmark b).marker ≠ some m) →
      Spares K s (u.log e) ∧ ∀ b, ((u.log e).bookmark b).marker ≠ some m :=
    fun u e hu => ⟨hu.1.log e, hu.2⟩
  rw [removeMarker_of_mem h hl]
  refine (notifyDeleted_keeps hn hlog m ?_ ?_).1
  · rintro u b ⟨hu, hfree⟩
    rw [release, if_neg (hfree b)]
    exact ⟨hu, hfree⟩
  · apply notifyMarkerRedraw_keeps hn hlog
    exact ⟨(ht.unlived fun b _ => hm b).log _, hm⟩

theorem discard_spares (ha : Aloof h) {i : SpanId} (hb : ¬ K b)
    (hanchor : (t.bookmark b).anchor = .span i) (hw : Woven τ [] none t) (ht : Spares K s t) :
    Spares K s (discard h t b) := by
  have hwithout := ht.without hb hanchor
  rw [discard_eq]
  split
  · rename_i m hm
    have hlive : m ∈ (t.without b).live := hw.shows hm
    refine removeMarker_spares ha hlive ?_ hwithout
    intro c hc
    obtain ⟨hc, hcb⟩ := marker_without.mp hc
    exact hcb (hw.sole c b m hc hm)
  · exact hwithout

/-- The marker of a bookmark goes with it. -/
theorem live_discard (ha : Aloof h) (hm : (s.bookmark b).marker = some m) :
    m ∉ (discard h s b).live := by
  rw [discard_eq, hm]
  dsimp only
  rw [(removeMarker_leaves ha _ _).2.1]
  simp

/-- A stored parse error is shown by a new marker, over its own anchor. -/
theorem markParseError_spares (ha : Aloof h) {i : SpanId} (hb : ¬ K b)
    (hanchor : (t.bookmark b).anchor = .span i) (hi : i ∈ t.tracker.trackedSpans)
    (ht : Spares K s t) :
    Spares K s (markParseError h t b).1 ∧ (markParseError h t b).2 = .ok () ∧
      (markParseError h t b).1.stored = t.stored ∧
      ((markParseError h t b).1.bookmark b).marker = some t.markers.size := by
  have htrack : t.tracker.track (.span i) = .ok t.tracker := Tracker.track_of_isTracked hi
  have hnew : t.markers.size < (t.marked t.tracker i).markers.size := by
    simp [marked]
  rw [markParseError_of_span hanchor, createMarkerOver_of_track htrack]
  have hpaired := (ht.marked i).paired hb ht.markerBound
    fun _ => .text ((t.marked t.tracker i).bookmark b).message
  have hlook := setStyle_alike ha (s := (t.marked t.tracker i).paired b t.markers.size
      fun _ => .text ((t.marked t.tracker i).bookmark b).message)
    (Nat.lt_of_lt_of_le hnew (Registry.size_le_size_modify _ _ _)) Kind.parseError.look.1
    (some Kind.parseError.look.2)
  refine ⟨(setStyle_spares ha ht.markerBound _ _ hpaired).watch b _, rfl, hlook.stored, ?_⟩
  change (Margin.bookmark (setStyle h _ _ _ _) b).marker = _
  rw [hlook.bookmark, Margin.paired, bookmark_modifyBookmark, if_pos rfl]

end Operations

end Margin

end Scriptorium
