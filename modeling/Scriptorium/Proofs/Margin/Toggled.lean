import Mathlib.Data.Finset.SymmDiff
import Scriptorium.Proofs.Margin.Refused
import Scriptorium.Proofs.Session.Reparse

/-!
Toggling a breakpoint is the symmetric difference of the lines with a breakpoint and the one line:
it is taken out if it is among them, and put in if it is not and the script has such a line. That a
line has one breakpoint at most is what both directions rest on, since the margin takes out all that
it finds there, and refuses a second one.

The rest of the margin takes no part in it. What is taken out may be shown by a marker, which goes
as well (`Parted`); who shared that marker, or stood on its span, has lost it, and nobody else has
lost anything. A bookmark that was made with an anchor and a marker of its own shares neither.
-/

namespace Scriptorium
set_option autoImplicit false

/-- Tracking one anchor gives up no other. -/
theorem Tracker.isTracked_of_track_of_isTracked {t u : Tracker} {a x : Anchor}
    (hu : t.track a = .ok u) (hx : t.IsTracked x) : u.IsTracked x := by
  rcases Tracker.track_cases hu with ⟨-, rfl⟩ | ⟨i, -, -, -, rfl⟩ | ⟨i, -, -, -, rfl⟩
  · exact hx
  · cases x with
    | line j => exact List.mem_append_left _ hx
    | span j => exact hx
  · cases x with
    | line j => exact hx
    | span j => exact List.mem_append_left _ hx

theorem Tracker.isTracked_untrack {t : Tracker} {a x : Anchor} (hx : t.IsTracked x) (hne : x ≠ a) :
    (t.untrack a).IsTracked x := by
  cases a with
  | line i =>
    cases x with
    | line j => exact (List.mem_erase_of_ne fun hji => hne (congrArg Anchor.line hji)).mpr hx
    | span j => exact hx
  | span i =>
    cases x with
    | line j => exact hx
    | span j => exact (List.mem_erase_of_ne fun hji => hne (congrArg Anchor.span hji)).mpr hx

theorem Tracker.lines_of_track {t u : Tracker} {a : Anchor} (hu : t.track a = .ok u) :
    u.lines = t.lines := by
  rcases Tracker.track_cases hu with ⟨-, rfl⟩ | ⟨_, -, -, -, rfl⟩ | ⟨_, -, -, -, rfl⟩ <;> rfl

theorem Tracker.track_of_one_le {t : Tracker} {i : LineId} (h : 1 ≤ t.line i) :
    ∃ u, t.track (.line i) = .ok u := by
  by_cases ht : t.IsTracked (.line i)
  · exact ⟨t, Tracker.track_of_isTracked ht⟩
  · refine ⟨{ t with trackedLines := t.trackedLines ++ [i] }, ?_⟩
    simp only [Tracker.track, if_neg ht, if_neg (Int.not_lt.mpr h)]

theorem Marker.span_of_unheard {κ : Type} {x y : Marker κ} (h : x.unheard = y.unheard) :
    x.span = y.span := by
  have hspan := congrArg Marker.span h
  exact hspan

namespace Margin
variable {κ ω : Type} {s t u : Margin κ ω} {b c : BookmarkId} {m : MarkerId} {line : Int}

/-! ### The lines with a breakpoint -/

theorem mem_breakpointLines :
    line ∈ s.breakpointLines ↔ ∃ b ∈ s.stored, s.IsAt .breakpoint line b := by
  unfold breakpointLines
  simp only [List.mem_mergeSort, List.mem_filterMap, mem_bookmarksOf, IsAt, and_assoc]

/-- Lists of lines in strictly increasing order are told by their members. -/
theorem eq_of_increasing {l k : List Int} (hl : l.Pairwise (· < ·)) (hk : k.Pairwise (· < ·))
    (h : ∀ x, x ∈ l ↔ x ∈ k) : l = k := by
  have hperm : l.Perm k :=
    (List.perm_ext_iff_of_nodup (hl.imp Int.ne_of_lt) (hk.imp Int.ne_of_lt)).mpr h
  exact hperm.eq_of_pairwise (fun a b _ _ hab hba => absurd hba (Int.lt_asymm hab)) hl hk

section Ordered
variable (hs : s.ruling.Ordered [] 0)
include hs

theorem eq_of_isAt (hb : b ∈ s.stored) (hc : c ∈ s.stored) (hbl : s.IsAt .breakpoint line b)
    (hcl : s.IsAt .breakpoint line c) : b = c :=
  hs.apart b hb c hc List.not_mem_nil List.not_mem_nil hbl.1 hcl.1 (hbl.2.trans hcl.2.symm)

theorem breakpointLines_increasing : s.breakpointLines.Pairwise (· < ·) := by
  have hle : s.breakpointLines.Pairwise fun a b => decide (a ≤ b) = true := by
    refine List.pairwise_mergeSort (fun a b c => ?_) (fun a b => ?_) _
    · simp only [decide_eq_true_eq]
      exact Int.le_trans
    · simpa using Int.le_total a b
  have hne : s.breakpointLines.Nodup := by
    rw [breakpointLines, (List.mergeSort_perm _ _).nodup_iff]
    refine List.pairwise_filterMap.mpr
      (List.Pairwise.imp_of_mem ?_ (nodup_bookmarksOf hs.storedNodup .breakpoint))
    intro b c hb hc hbc l hbl k hcl hlk
    obtain ⟨hb, hbk⟩ := mem_bookmarksOf.mp hb
    obtain ⟨hc, hck⟩ := mem_bookmarksOf.mp hc
    exact hbc (eq_of_isAt hs hb hc ⟨hbk, hbl⟩ ⟨hck, hlk ▸ hcl⟩)
  exact (hle.and hne).imp fun ⟨hab, hne⟩ => Int.lt_iff_le_and_ne.mpr ⟨of_decide_eq_true hab, hne⟩

/-- All that is found on a line is its one breakpoint. -/
theorem filter_isAt (hb : b ∈ s.stored) (hbl : s.IsAt .breakpoint line b) :
    s.stored.filter (fun c => s.IsAt .breakpoint line c) = [b] := by
  refine List.perm_singleton.mp ((List.perm_ext_iff_of_nodup (hs.storedNodup.filter _)
    (List.nodup_singleton b)).mpr fun c => ?_)
  rw [List.mem_filter, decide_eq_true_eq, List.mem_singleton]
  constructor
  · rintro ⟨hc, hcl⟩
    exact eq_of_isAt hs hc hb hcl hbl
  · rintro rfl
    exact ⟨hb, hbl⟩

end Ordered

/-! ### What stays as it was -/

/-- The margins differ at most in who listens, in what the listeners share and in the journal. -/
structure Unmoved (s t : Margin κ ω) : Prop where
  tracker : t.tracker = s.tracker
  live : t.live = s.live
  bookmarks : t.bookmarks = s.bookmarks
  stored : t.stored = s.stored
  lineCount : t.lineCount = s.lineCount
  look : ∀ m, (t.marker m).unheard = (s.marker m).unheard

namespace Unmoved

theorem refl (s : Margin κ ω) : Unmoved s s := ⟨rfl, rfl, rfl, rfl, rfl, fun _ => rfl⟩

theorem trans (hst : Unmoved s t) (htu : Unmoved t u) : Unmoved s u where
  tracker := htu.tracker.trans hst.tracker
  live := htu.live.trans hst.live
  bookmarks := htu.bookmarks.trans hst.bookmarks
  stored := htu.stored.trans hst.stored
  lineCount := htu.lineCount.trans hst.lineCount
  look m := (htu.look m).trans (hst.look m)

theorem log (s : Margin κ ω) (e : Entry) : Unmoved s (s.log e) :=
  ⟨rfl, rfl, rfl, rfl, rfl, fun _ => rfl⟩

theorem bookmark (hst : Unmoved s t) (b : BookmarkId) : t.bookmark b = s.bookmark b := by
  rw [Margin.bookmark, hst.bookmarks]
  rfl

theorem lineNumber? (hst : Unmoved s t) (b : BookmarkId) : t.lineNumber? b = s.lineNumber? b := by
  rw [Margin.lineNumber?, hst.bookmark, hst.tracker]
  rfl

theorem modifyMarker (s : Margin κ ω) (m : MarkerId) {f : Marker κ → Marker κ}
    (hf : ∀ x, (f x).unheard = x.unheard) : Unmoved s (s.modifyMarker m f) := by
  refine ⟨rfl, rfl, rfl, rfl, rfl, fun n => ?_⟩
  rw [marker_modifyMarker]
  split
  · exact hf _
  · rfl

theorem aside [DecidableEq κ] (ha : Aside s t) : Unmoved s t := by
  cases ha with
  | share w => exact ⟨rfl, rfl, rfl, rfl, rfl, fun _ => rfl⟩
  | subscribe k c =>
    cases c with
    | markerDeleted m => exact modifyMarker s m fun _ => rfl
    | _ => exact ⟨rfl, rfl, rfl, rfl, rfl, fun _ => rfl⟩
  | unsubscribe k c =>
    cases c with
    | markerDeleted m => exact modifyMarker s m fun _ => rfl
    | _ => exact ⟨rfl, rfl, rfl, rfl, rfl, fun _ => rfl⟩

end Unmoved

/-- The bookmark is stored, it is what it was, and it stands where it stood. -/
structure Stands (c : BookmarkId) (s t : Margin κ ω) : Prop where
  stored : c ∈ t.stored
  nature : (t.bookmark c).unshown = (s.bookmark c).unshown
  line : t.lineNumber? c = s.lineNumber? c
  span : t.span? c = s.span? c

/-- The bookmark is shown as it was, too, and it goes on following the text. -/
structure Remains (c : BookmarkId) (s t : Margin κ ω) : Prop extends Stands c s t where
  same : t.bookmark c = s.bookmark c
  tracked : s.tracker.IsTracked (s.bookmark c).anchor → t.tracker.IsTracked (t.bookmark c).anchor
  shown : ∀ m, (s.bookmark c).marker = some m → (m ∈ t.live ↔ m ∈ s.live) ∧
    (t.marker m).unheard = (s.marker m).unheard ∧ t.markerSpan m = s.markerSpan m

/-- The bookmark shares no marker with a breakpoint of the line, and stands on the span of none. -/
def Apart (s : Margin κ ω) (line : Int) (c : BookmarkId) : Prop :=
  ∀ b ∈ s.stored, s.IsAt .breakpoint line b → ∀ m, (s.bookmark b).marker = some m →
    (s.bookmark c).marker ≠ some m ∧ (s.bookmark c).anchor ≠ .span (s.marker m).span

/-- Bookmark `b` has been taken out, and its marker with it. Who had the same marker may have lost
it, and what stood on its span may be tracked no longer. -/
structure Parted (b : BookmarkId) (s t : Margin κ ω) : Prop where
  stored : t.stored = s.stored.filter (· ≠ b)
  lines : t.tracker.lines = s.tracker.lines
  spans : t.tracker.spans = s.tracker.spans
  lineCount : t.lineCount = s.lineCount
  nature : ∀ c, (t.bookmark c).unshown = (s.bookmark c).unshown
  marker : ∀ c, (t.bookmark c).marker = (s.bookmark c).marker ∨
    (t.bookmark c).marker = none ∧ (s.bookmark c).marker = (s.bookmark b).marker
  look : ∀ m, (t.marker m).unheard = (s.marker m).unheard
  live : ∀ m, (s.bookmark b).marker ≠ some m → (m ∈ t.live ↔ m ∈ s.live)
  tracked : ∀ a, s.tracker.IsTracked a → a ≠ (s.bookmark b).anchor →
    (∀ m, (s.bookmark b).marker = some m → a ≠ .span (s.marker m).span) → t.tracker.IsTracked a

namespace Parted

theorem without (s : Margin κ ω) (b : BookmarkId) : Parted b s (s.without b) where
  stored := rfl
  lines := by
    change (s.tracker.untrack _).lines = _
    cases (s.bookmark b).anchor <;> rfl
  spans := Tracker.spans_untrack
  lineCount := rfl
  nature c := by
    change (Margin.bookmark (modifyBookmark _ b _) c).unshown = _
    rw [bookmark_modifyBookmark]
    split <;> rfl
  marker c := by
    by_cases hbc : b = c
    · refine .inr ⟨?_, congrArg (fun d => (s.bookmark d).marker) hbc.symm⟩
      rw [Margin.without, marker_setMarker, if_pos hbc]
    · refine .inl ?_
      rw [Margin.without, marker_setMarker, if_neg hbc]
      rfl
  look _ := rfl
  live _ _ := Iff.rfl
  tracked _ ha hne _ := Tracker.isTracked_untrack ha hne

theorem unmoved (h : Parted b s t) (hu : Unmoved t u) : Parted b s u where
  stored := hu.stored.trans h.stored
  lines := (congrArg Tracker.lines hu.tracker).trans h.lines
  spans := (congrArg Tracker.spans hu.tracker).trans h.spans
  lineCount := hu.lineCount.trans h.lineCount
  nature c := hu.bookmark c ▸ h.nature c
  marker c := hu.bookmark c ▸ h.marker c
  look m := (hu.look m).trans (h.look m)
  live := hu.live ▸ h.live
  tracked := hu.tracker ▸ h.tracked

theorem unlived (h : Parted b s t) (hm : (s.bookmark b).marker = some m) :
    Parted b s (t.unlived m) :=
  { h with
    live := by
      intro n hn
      rw [← h.live n hn]
      have hnm : n ≠ m := fun heq => hn (heq ▸ hm)
      simp [Margin.unlived, hnm]
    tracked := by
      intro a ha hne hspan
      refine Tracker.isTracked_untrack (h.tracked a ha hne hspan) ?_
      have hsame : (t.marker m).span = (s.marker m).span := Marker.span_of_unheard (h.look m)
      rw [hsame]
      exact hspan m hm }

/-- A bookmark that had the marker lets go of it, whatever it has tracked again. -/
theorem forget {v : Tracker} (h : Parted b s t) (hc : (t.bookmark c).marker = some m)
    (hm : (s.bookmark b).marker = some m) (hlines : v.lines = t.tracker.lines)
    (hspans : v.spans = t.tracker.spans) (hkept : ∀ a, t.tracker.IsTracked a → v.IsTracked a) :
    Parted b s ({ t with tracker := v }.modifyBookmark c fun x => { x with marker := none }) :=
  { h with
    lines := hlines.trans h.lines
    spans := hspans.trans h.spans
    nature := by
      intro d
      rw [bookmark_modifyBookmark]
      split
      · exact h.nature d
      · exact h.nature d
    marker := by
      intro d
      rw [marker_setMarker]
      split
      · rename_i hcd
        subst hcd
        refine .inr ⟨rfl, ?_⟩
        rcases h.marker c with hsame | ⟨hnone, _⟩
        · rw [← hsame, hc, hm]
        · rw [hnone] at hc
          cases hc
      · exact h.marker d
    tracked := fun a ha hne hspan => hkept a (h.tracked a ha hne hspan) }

theorem release (h : Parted b s t) (hm : (s.bookmark b).marker = some m) (c : BookmarkId) :
    Parted b s (t.release c m).1 := by
  unfold Margin.release
  split
  · rename_i hc
    have hplain : Parted b s (t.modifyBookmark c fun x => { x with marker := none }) :=
      h.forget hc hm rfl rfl fun _ => id
    dsimp only
    split
    · split
      · rename_i v hv
        exact h.forget hc hm (Tracker.lines_of_track hv) (Tracker.spans_of_track hv)
          fun _ => Tracker.isTracked_of_track_of_isTracked hv
      · exact hplain
    · exact hplain
  · exact h

theorem stands (h : Parted b s t) (hc : c ∈ s.stored) (hcb : c ≠ b) : Stands c s t := by
  have hanchor : (t.bookmark c).anchor = (s.bookmark c).anchor := by
    have hnature := congrArg Bookmark.anchor (h.nature c)
    exact hnature
  refine ⟨?_, h.nature c, ?_, ?_⟩
  · rw [h.stored]
    exact List.mem_filter.mpr ⟨hc, decide_eq_true hcb⟩
  · unfold lineNumber? Tracker.line
    rw [hanchor, h.lines]
  · unfold span? Tracker.span
    rw [hanchor, h.spans]

theorem remains (h : Parted b s t) (hb : b ∈ s.stored) (hbl : s.IsAt .breakpoint line b)
    (hc : c ∈ s.stored) (hcb : c ≠ b) (hanchor : (s.bookmark c).anchor ≠ (s.bookmark b).anchor)
    (hapart : s.Apart line c) : Remains c s t := by
  have hmarker : (t.bookmark c).marker = (s.bookmark c).marker := by
    rcases h.marker c with hsame | ⟨hnone, hshared⟩
    · exact hsame
    · cases hm : (s.bookmark b).marker with
      | none => rw [hnone, hshared, hm]
      | some m => exact absurd (hshared.trans hm) (hapart b hb hbl m hm).1
  have hsame : t.bookmark c = s.bookmark c := by
    have hnature := h.nature c
    cases hx : t.bookmark c
    cases hy : s.bookmark c
    simp_all [Bookmark.unshown]
  refine { h.stands hc hcb with same := hsame, tracked := fun ha => ?_, shown := fun m hm => ?_ }
  · rw [hsame]
    exact h.tracked _ ha hanchor fun m hm => (hapart b hb hbl m hm).2
  · have hspan : (t.marker m).span = (s.marker m).span := Marker.span_of_unheard (h.look m)
    refine ⟨h.live m fun hbm => (hapart b hb hbl m hbm).1 hm, h.look m, ?_⟩
    rw [markerSpan, markerSpan, Tracker.span, Tracker.span, hspan, h.spans]

end Parted

section Operations
variable [DecidableEq κ] {h : Reaction κ ω} (ha : Aloof h)
include ha

theorem Aloof.heeds_unmoved (s : Margin κ ω) : Heeds h (Unmoved s) :=
  heeds_of_aloof ha fun _ _ hstep ht => ht.trans (.aside hstep)

theorem notifyRedraw_unmoved (s : Margin κ ω) : Unmoved s (notifyRedraw h s) :=
  notifyRedraw_keeps (ha.heeds_unmoved s) (fun t e ht => ht.trans (.log t e)) (.refl s)

theorem notifyChanged_unmoved (s : Margin κ ω) (b : BookmarkId) (removed : Bool) :
    Unmoved s (notifyChanged h s b removed) :=
  notifyChanged_keeps (ha.heeds_unmoved s) (fun t e ht => ht.trans (.log t e)) b removed (.refl s)

theorem removeMarker_parted (hm : (s.bookmark b).marker = some m) (ht : Parted b s t) :
    Parted b s (removeMarker h t m).1 := by
  have hn : Heeds h (Parted b s) :=
    heeds_of_aloof ha fun _ _ hstep hu => hu.unmoved (.aside hstep)
  have hlog : ∀ u e, Parted b s u → Parted b s (u.log e) := fun u e hu => hu.unmoved (.log u e)
  by_cases hlive : m ∈ t.live
  · rw [removeMarker_of_mem h hlive]
    refine notifyDeleted_keeps hn hlog m (fun u c hu => hu.release hm c) ?_
    exact notifyMarkerRedraw_keeps hn hlog m (hlog _ _ (ht.unlived hm))
  · rwa [removeMarker_of_not_mem h hlive]

theorem discard_parted (s : Margin κ ω) (b : BookmarkId) : Parted b s (discard h s b) := by
  rw [discard_eq]
  split
  · rename_i m hm
    exact removeMarker_parted ha hm (.without s b)
  · exact .without s b

end Operations

/-! ### Putting a breakpoint in -/

namespace Unaltered

theorem lineNumber? (h : Unaltered s t) (hs : s.ruling.Ordered [] 0) (hb : b < s.bookmarks.size) :
    t.lineNumber? b = s.lineNumber? b := by
  unfold Margin.lineNumber?
  rw [h.bookmark b hb]
  cases ha : (s.bookmark b).anchor with
  | line i => exact congrArg some (h.line i (hs.made b i hb ha))
  | span i => rfl

theorem span? (h : Unaltered s t) (hb : b < s.bookmarks.size) : t.span? b = s.span? b := by
  unfold Margin.span? Tracker.span
  rw [h.bookmark b hb, h.spans]

theorem remains (h : Unaltered s t) (hs : s.ruling.Ordered [] 0) (hc : c ∈ s.stored) :
    Remains c s t := by
  have hlt := hs.known c hc
  refine {
    stored := h.stored ▸ hc
    nature := congrArg Bookmark.unshown (h.bookmark c hlt)
    line := h.lineNumber? hs hlt
    span := h.span? hlt
    same := h.bookmark c hlt
    tracked := ?_
    shown := ?_ }
  · rw [h.bookmark c hlt]
    unfold Tracker.IsTracked
    rw [h.trackedLines, h.trackedSpans]
    exact id
  · intro m _
    have hmarker : t.marker m = s.marker m := by
      rw [Margin.marker, h.markers]
      rfl
    rw [h.live, markerSpan, Tracker.span, hmarker, h.spans]
    exact ⟨Iff.rfl, rfl, rfl⟩

end Unaltered

theorem Remains.unmoved (h : Remains c s t) (hu : Unmoved t u) : Remains c s u where
  stored := hu.stored ▸ h.stored
  nature := hu.bookmark c ▸ h.nature
  line := (hu.lineNumber? c).trans h.line
  span := by
    rw [← h.span, span?, hu.bookmark, hu.tracker]
    rfl
  same := (hu.bookmark c).trans h.same
  tracked := by
    rw [hu.bookmark, hu.tracker]
    exact h.tracked
  shown := by
    intro m hm
    obtain ⟨hlive, hlook, hspan⟩ := h.shown m hm
    refine ⟨hu.live ▸ hlive, (hu.look m).trans hlook, ?_⟩
    rw [← hspan, markerSpan, Marker.span_of_unheard (hu.look m), hu.tracker]
    rfl

theorem lineNumber?_of_track {v : Tracker} {a : Anchor} (hv : t.tracker.track a = .ok v)
    (bs : List BookmarkId) (c : BookmarkId) :
    ({ t with tracker := v, stored := bs } : Margin κ ω).lineNumber? c = t.lineNumber? c := by
  unfold lineNumber? Tracker.line
  rw [Tracker.lines_of_track hv]
  rfl

/-- Another bookmark is stored, and its anchor tracked. -/
theorem Remains.enter {v : Tracker} {a : Anchor} (h : Remains c s t)
    (hv : t.tracker.track a = .ok v) (b : BookmarkId) :
    Remains c s { t with tracker := v, stored := t.stored ++ [b] } where
  stored := List.mem_append_left _ h.stored
  nature := h.nature
  line := (lineNumber?_of_track hv _ c).trans h.line
  span := by
    rw [← h.span]
    unfold span? Tracker.span
    rw [Tracker.spans_of_track hv]
    rfl
  same := h.same
  tracked ha := Tracker.isTracked_of_track_of_isTracked hv (h.tracked ha)
  shown := by
    intro m hm
    obtain ⟨hlive, hlook, hspan⟩ := h.shown m hm
    refine ⟨hlive, hlook, ?_⟩
    rw [← hspan]
    unfold markerSpan Tracker.span
    rw [Tracker.spans_of_track hv]
    rfl

/-- Bookmark `b` is new, and it is on the line; the others have not changed. -/
structure Joined (kind : Kind) (line : Int) (b : BookmarkId) (s t : Margin κ ω) : Prop where
  fresh : b ∉ s.stored
  stored : t.stored = s.stored ++ [b]
  placed : t.IsAt kind line b
  lineCount : t.lineCount = s.lineCount
  remains : ∀ c ∈ s.stored, Remains c s t

theorem Joined.unmoved {kind : Kind} (h : Joined kind line b s t) (hu : Unmoved t u) :
    Joined kind line b s u where
  fresh := h.fresh
  stored := hu.stored.trans h.stored
  placed := by
    unfold IsAt
    rw [hu.bookmark, hu.lineNumber?]
    exact h.placed
  lineCount := hu.lineCount.trans h.lineCount
  remains c hc := (h.remains c hc).unmoved hu

section Fresh
variable {kind : Kind}

theorem placed_newBookmark (s : Margin κ ω) (kind : Kind) (line : Int) :
    (s.newBookmark kind (.line line) "" none).1.bookmark s.bookmarks.size =
        ⟨kind, .line s.tracker.lines.size, "", none⟩ ∧
      (s.newBookmark kind (.line line) "" none).1.lineNumber? s.bookmarks.size = some line := by
  have hself : (s.newBookmark kind (.line line) "" none).1.bookmark s.bookmarks.size =
      ⟨kind, .line s.tracker.lines.size, "", none⟩ :=
    (Registry.get_push s.bookmarks _ _).trans (if_pos rfl)
  refine ⟨hself, ?_⟩
  rw [lineNumber?, hself]
  exact congrArg some ((Registry.get_push s.tracker.lines line _).trans (if_pos rfl))

theorem refusal_of_inRange (hs : s.ruling.Ordered [] 0) (hline : s.InRange line)
    (hfree : ∀ c ∈ s.stored, ¬ s.IsAt .breakpoint line c) :
    (s.newBookmark kind (.line line) "" none).1.refusal? s.bookmarks.size = none := by
  have hsame := Unaltered.newBookmark_line s kind line "" none
  obtain ⟨hself, hnumber⟩ := s.placed_newBookmark kind line
  generalize (s.newBookmark kind (.line line) "" none).1 = t at hsame hself hnumber ⊢
  have hfound : t.find? .breakpoint line = none := by
    refine List.find?_eq_none.mpr fun c hc hat => ?_
    rw [hsame.stored] at hc
    have hlt := hs.known c hc
    have hat := of_decide_eq_true hat
    rw [IsAt, hsame.bookmark c hlt, hsame.lineNumber? hs hlt] at hat
    exact hfree c hc hat
  have hrange : t.InRange line := by
    unfold InRange
    rw [hsame.lineCount]
    exact hline
  rw [refusal?, hnumber]
  simp [hrange, hfound]

theorem add_of_taken (h : Reaction κ ω) {v : Tracker} (hnew : b ∉ s.stored)
    (hr : s.refusal? b = none) (hv : s.tracker.track (s.bookmark b).anchor = .ok v) :
    add h s b = (notifyChanged h (notifyRedraw h (s.taken b v)) b false, .ok true) := by
  rw [add, if_neg hnew, hr]
  dsimp only
  rw [hv]
  rfl

/-- A bookmark that was just made, on a line from the first one on, is taken in. -/
theorem add_joined [DecidableEq κ] {h : Reaction κ ω} (ha : Aloof h) (hs : s.ruling.Ordered [] 0)
    (hone : 1 ≤ line) (hsame : Unaltered s t)
    (hself : t.bookmark s.bookmarks.size = ⟨kind, .line s.tracker.lines.size, "", none⟩)
    (hnumber : t.lineNumber? s.bookmarks.size = some line)
    (hrefusal : t.refusal? s.bookmarks.size = none) :
    ∃ u, add h t s.bookmarks.size = (u, .ok true) ∧ Joined kind line s.bookmarks.size s u := by
  have hnew : s.bookmarks.size ∉ s.stored := fun hmem => Nat.lt_irrefl _ (hs.known _ hmem)
  have hplace : 1 ≤ t.tracker.line s.tracker.lines.size := by
    rw [lineNumber?, hself] at hnumber
    exact Option.some_inj.mp hnumber ▸ hone
  obtain ⟨v, hv⟩ := Tracker.track_of_one_le hplace
  have htrack : t.tracker.track (t.bookmark s.bookmarks.size).anchor = .ok v := by
    rw [hself]
    exact hv
  have hmarker : (t.bookmark s.bookmarks.size).marker = none := by rw [hself]
  rw [add_of_taken h (hsame.stored.symm ▸ hnew) hrefusal htrack, taken_of_marker hmarker]
  refine ⟨_, rfl, ?_⟩
  have htaken : Joined kind line s.bookmarks.size s
      { t with tracker := v, stored := t.stored ++ [s.bookmarks.size] } := {
    fresh := hnew
    stored := congrArg (· ++ [s.bookmarks.size]) hsame.stored
    placed := ⟨congrArg Bookmark.kind hself, (lineNumber?_of_track hv _ _).trans hnumber⟩
    lineCount := hsame.lineCount
    remains := fun c hc => (hsame.remains hs hc).enter hv _ }
  exact htaken.unmoved ((notifyRedraw_unmoved ha _).trans (notifyChanged_unmoved ha _ _ _))

/-- A line of the script that is free gets its bookmark. -/
theorem addOnLine_joined [DecidableEq κ] {h : Reaction κ ω} (ha : Aloof h)
    (hs : s.ruling.Ordered [] 0) (hline : s.InRange line)
    (hfree : ∀ c ∈ s.stored, ¬ s.IsAt .breakpoint line c) :
    ∃ t, addOnLine h s kind line = (t, .ok (some s.bookmarks.size)) ∧
      Joined kind line s.bookmarks.size s t := by
  obtain ⟨hself, hnumber⟩ := s.placed_newBookmark kind line
  obtain ⟨u, hu, hjoined⟩ := add_joined ha hs hline.1 (.newBookmark_line s kind line "" none) hself
    hnumber (refusal_of_inRange hs hline hfree)
  refine ⟨u, ?_, hjoined⟩
  unfold addOnLine
  rw [newBookmark_line] at hu ⊢
  dsimp only at hu ⊢
  rw [hu]

end Fresh

/-! ### Toggling -/

/-- What toggling leaves: the breakpoint that was on the line is gone, or `new` is there if it was
none and the script has the line. The others stand where they stood, in the order they had. -/
structure Toggled (line : Int) (s t : Margin κ ω) (new : Option BookmarkId) : Prop where
  stored : t.stored = s.stored.filter (fun c => ¬ s.IsAt .breakpoint line c) ++ new.toList
  placed : ∀ b, new = some b → b ∉ s.stored ∧ t.IsAt .breakpoint line b
  given : new = none ↔ line ∈ s.breakpointLines ∨ ¬ s.InRange line
  lineCount : t.lineCount = s.lineCount
  stands : ∀ c ∈ s.stored, ¬ s.IsAt .breakpoint line c → Stands c s t
  remains : ∀ c ∈ s.stored, ¬ s.IsAt .breakpoint line c → s.Apart line c → Remains c s t

theorem Stands.isAt_iff {kind : Kind} (h : Stands c s t) :
    t.IsAt kind line c ↔ s.IsAt kind line c := by
  have hkind : (t.bookmark c).kind = (s.bookmark c).kind := by
    have hnature := congrArg Bookmark.kind h.nature
    exact hnature
  unfold IsAt
  rw [hkind, h.line]

namespace Toggled
variable {new : Option BookmarkId} {k : Int}

theorem mem_breakpointLines (h : Toggled line s t new) :
    k ∈ t.breakpointLines ↔ k ∈ s.breakpointLines ∧ k ≠ line ∨ k = line ∧ new ≠ none := by
  rw [Margin.mem_breakpointLines, Margin.mem_breakpointLines]
  constructor
  · rintro ⟨b, hb, hbk⟩
    rw [h.stored, List.mem_append, List.mem_filter, decide_eq_true_eq, Option.mem_toList] at hb
    rcases hb with ⟨hb, hbl⟩ | hb
    · have hsk := (h.stands b hb hbl).isAt_iff.mp hbk
      exact .inl ⟨⟨b, hb, hsk⟩, fun hkl => hbl (hkl ▸ hsk)⟩
    · have hbl := (h.placed b hb).2
      exact .inr ⟨Option.some_inj.mp (hbk.2.symm.trans hbl.2), fun hnone => by cases hnone ▸ hb⟩
  · rintro (⟨⟨b, hb, hbk⟩, hkl⟩ | ⟨rfl, hnew⟩)
    · have hbl : ¬ s.IsAt .breakpoint line b :=
        fun hbl => hkl (Option.some_inj.mp (hbk.2.symm.trans hbl.2))
      have hstands := h.stands b hb hbl
      exact ⟨b, hstands.stored, hstands.isAt_iff.mpr hbk⟩
    · obtain ⟨b, rfl⟩ := Option.ne_none_iff_exists'.mp hnew
      refine ⟨b, ?_, (h.placed b rfl).2⟩
      rw [h.stored]
      exact List.mem_append_right _ List.mem_cons_self

theorem toFinset (h : Toggled line s t new) (hline : line ∈ s.breakpointLines ∨ s.InRange line) :
    t.breakpointLines.toFinset = symmDiff s.breakpointLines.toFinset {line} := by
  have hnew : new ≠ none ↔ line ∉ s.breakpointLines := by
    rw [Ne, h.given]
    tauto
  ext k
  rw [Finset.mem_symmDiff, List.mem_toFinset, List.mem_toFinset, Finset.mem_singleton,
    h.mem_breakpointLines, hnew]
  constructor
  · rintro (⟨hk, hkl⟩ | ⟨rfl, hk⟩)
    · exact .inl ⟨hk, hkl⟩
    · exact .inr ⟨rfl, hk⟩
  · rintro (⟨hk, hkl⟩ | ⟨rfl, hk⟩)
    · exact .inl ⟨hk, hkl⟩
    · exact .inr ⟨rfl, hk⟩

theorem unchanged (h : Toggled line s t new) (hs : s.breakpointLines.Pairwise (· < ·))
    (ht : t.breakpointLines.Pairwise (· < ·)) (hfree : line ∉ s.breakpointLines)
    (hline : ¬ s.InRange line) : t.breakpointLines = s.breakpointLines := by
  refine eq_of_increasing ht hs fun k => ?_
  rw [h.mem_breakpointLines]
  constructor
  · rintro (⟨hk, -⟩ | ⟨-, hnew⟩)
    · exact hk
    · exact absurd (h.given.mpr (.inr hline)) hnew
  · exact fun hk => .inl ⟨hk, fun hkl => hfree (hkl ▸ hk)⟩

end Toggled

theorem removeAt_of_isAt (h : Reaction κ ω) (hs : s.ruling.Ordered [] 0) (hb : b ∈ s.stored)
    (hbl : s.IsAt .breakpoint line b) :
    removeAt h s .breakpoint line =
      (notifyRedraw h (notifyChanged h (discard h s b) b true), 1) := by
  rw [removeAt, filter_isAt hs hb hbl]
  rfl

theorem filter_of_free (hfree : ∀ c ∈ s.stored, ¬ s.IsAt .breakpoint line c) :
    s.stored.filter (fun c => ¬ s.IsAt .breakpoint line c) = s.stored :=
  List.filter_eq_self.mpr fun c hc => decide_eq_true (hfree c hc)

theorem apart_of_woven {τ : Prop} (hw : Woven τ [] none s) (hc : c ∈ s.stored)
    (hcl : ¬ s.IsAt .breakpoint line c) : s.Apart line c := by
  intro b _ hbl m hm
  have hsole : (s.bookmark c).marker ≠ some m := fun hcm => hcl (hw.sole b c m hm hcm ▸ hbl)
  exact ⟨hsole, fun hanchor => hsole (hw.apart m (hw.shows hm) c (hw.known c hc) hanchor)⟩

section Operations
variable [DecidableEq κ] {h : Reaction κ ω}

/-- One operation, whichever of the three things it comes to. -/
theorem toggleBreakpoint_toggled (ha : Aloof h) (hs : s.ruling.Ordered [] 0) (line : Int) :
    ∃ t new, toggleBreakpoint h s line = (t, .ok new) ∧ Toggled line s t new := by
  by_cases htaken : line ∈ s.breakpointLines
  · obtain ⟨b, hb, hbl⟩ := mem_breakpointLines.mp htaken
    have hparted : Parted b s (notifyRedraw h (notifyChanged h (discard h s b) b true)) :=
      ((discard_parted ha s b).unmoved (notifyChanged_unmoved ha _ b true)).unmoved
        (notifyRedraw_unmoved ha _)
    have hother : ∀ c, ¬ s.IsAt .breakpoint line c → c ≠ b := fun c hcl hcb => hcl (hcb ▸ hbl)
    refine ⟨_, none, by rw [toggleBreakpoint, removeAt_of_isAt h hs hb hbl], ?_⟩
    exact {
      stored := by
        rw [hparted.stored, Option.toList_none, List.append_nil]
        refine List.filter_congr fun c hc => decide_eq_decide.mpr ?_
        exact ⟨fun hcb hcl => hcb (eq_of_isAt hs hc hb hcl hbl), hother c⟩
      placed := fun _ hb => by cases hb
      given := ⟨fun _ => .inl htaken, fun _ => rfl⟩
      lineCount := hparted.lineCount
      stands := fun c hc hcl => hparted.stands hc (hother c hcl)
      remains := by
        intro c hc hcl hapart
        refine hparted.remains hb hbl hc (hother c hcl) (fun hanchor => ?_) hapart
        -- the breakpoint is on a line, and no other bookmark is on the same anchor
        obtain ⟨i, hi, -⟩ := anchor_of_lineNumber hbl.2
        exact hother c hcl (hs.own c b i (hs.known c hc) (hs.known b hb) (hanchor.trans hi) hi) }
  · have hfree : ∀ c ∈ s.stored, ¬ s.IsAt .breakpoint line c :=
      fun c hc hcl => htaken (mem_breakpointLines.mpr ⟨c, hc, hcl⟩)
    by_cases hline : s.InRange line
    · obtain ⟨t, ht, hjoined⟩ := addOnLine_joined ha hs hline hfree
      have hrun : toggleBreakpoint h s line = addOnLine h s .breakpoint line := by
        rw [toggleBreakpoint, removeAt_of_free h hfree]
      refine ⟨t, some s.bookmarks.size, hrun.trans ht, ?_⟩
      exact {
        stored := by
          rw [hjoined.stored, filter_of_free hfree]
          rfl
        placed := by
          rintro b ⟨⟩
          exact ⟨hjoined.fresh, hjoined.placed⟩
        given := ⟨fun hnew => absurd hnew (Option.some_ne_none _),
          fun hor => absurd hor (not_or.mpr ⟨htaken, not_not.mpr hline⟩)⟩
        lineCount := hjoined.lineCount
        stands := fun c hc _ => (hjoined.remains c hc).toStands
        remains := fun c hc _ _ => hjoined.remains c hc }
    · have hsame := Unaltered.newBookmark_line s .breakpoint line "" none
      refine ⟨_, none, toggleBreakpoint_of_not_inRange h hline hfree, ?_⟩
      exact {
        stored := by
          rw [hsame.stored, filter_of_free hfree, Option.toList_none, List.append_nil]
        placed := fun _ hb => by cases hb
        given := ⟨fun _ => .inr hline, fun _ => rfl⟩
        lineCount := hsame.lineCount
        stands := fun c hc _ => (hsame.remains hs hc).toStands
        remains := fun c hc _ _ => hsame.remains hs hc }

/-- Whatever happened before, toggling a line under listeners that do not call back takes the line
out of those with a breakpoint, or puts it in. Twice is not at all, on a line of the script. No
other bookmark is touched, unless it has the marker of the one taken out or stands on its span; in a
margin whose bookmarks were all made with an anchor and a marker of their own, none does. -/
theorem breakpoint_toggled (ha : Aloof h) {lineCount : Option Int} {w : ω}
    (hr : Run Command.Sensible Aside h (empty lineCount w) s) (line : Int) :
    ∃ t new, toggleBreakpoint h s line = (t, .ok new) ∧ Toggled line s t new ∧
      t.breakpointLines.Pairwise (· < ·) ∧
      (line ∈ s.breakpointLines ∨ s.InRange line →
        t.breakpointLines.toFinset = symmDiff s.breakpointLines.toFinset {line}) ∧
      (line ∉ s.breakpointLines → ¬ s.InRange line → t.breakpointLines = s.breakpointLines) ∧
      (s.InRange line → ∃ u again, toggleBreakpoint h t line = (u, .ok again) ∧
        u.breakpointLines = s.breakpointLines) ∧
      (Run Command.Proper Beside h (empty lineCount w) s →
        ∀ c ∈ s.stored, ¬ s.IsAt .breakpoint line c → Remains c s t) := by
  have hlawful : Lawful Command.Sensible h := .aloof ha
  have hs := ordered_of_run hlawful hr
  have hordered : ∀ {u v r}, toggleBreakpoint h u line = (v, .ok r) → u.ruling.Ordered [] 0 →
      v.ruling.Ordered [] 0 := by
    intro u v r hv hu
    have hv' : (perform h u (.toggleBreakpoint line)).1 = v := congrArg Prod.fst hv
    exact hv' ▸ perform_ordered (ordered_of_lawful hlawful) trivial hu
  obtain ⟨t, new, ht, htoggled⟩ := toggleBreakpoint_toggled ha hs line
  have hts := hordered ht hs
  have hincreasing := breakpointLines_increasing hs
  have htincreasing := breakpointLines_increasing hts
  refine ⟨t, new, ht, htoggled, htincreasing, htoggled.toFinset,
    htoggled.unchanged hincreasing htincreasing, fun hline => ?_, fun hproper c hc hcl => ?_⟩
  · obtain ⟨u, again, hu, hback⟩ := toggleBreakpoint_toggled ha hts line
    refine ⟨u, again, hu, ?_⟩
    have hrange : t.InRange line := by
      unfold InRange
      rw [htoggled.lineCount]
      exact hline
    refine eq_of_increasing (breakpointLines_increasing (hordered hu hts)) hincreasing fun k => ?_
    rw [← List.mem_toFinset, ← List.mem_toFinset, hback.toFinset (.inr hrange),
      htoggled.toFinset (.inr hline), symmDiff_symmDiff_cancel_right]
  · have hw := woven_of_proper_run ha hproper
    exact htoggled.remains c hc hcl (apart_of_woven hw hc hcl)

end Operations

/-- Breakpoints on the third, the fifth and the seventh of nine lines, the debug point on the
seventh, where a marker shows the breakpoint, and a parse error beside it. Then the script is cut
down to five lines, while the breakpoints stay. -/
def shrunk : Margin Bool (List Sighting) :=
  performAll scribe ((empty (some 9) []).subscribe true .changed)
    [.toggleBreakpoint 7, .toggleBreakpoint 3, .toggleBreakpoint 5, .setDebugPoint 7,
      .attachMarker 0 ⟨4, 2⟩, .replaceParseErrors [⟨4, 1, 2, "Unexpected 'x'"⟩],
      .setLineCount (some 5)]

/-- The breakpoint is below the end of the script by now, and goes at the first touch; the line
after it gets none. The fourth line is free, and the second touch takes back what the first one
did. -/
theorem breakpoint_toggled_shrunk :
    Run Command.Proper Beside scribe (empty (some 9) []) shrunk ∧
    shrunk.breakpointLines = [3, 5, 7] ∧ ¬ shrunk.InRange 7 ∧ shrunk.InRange 4 ∧
    (∃ t, toggleBreakpoint scribe shrunk 7 = (t, .ok none) ∧
      t.breakpointLines.toFinset = {3, 5} ∧ Remains 3 shrunk t) ∧
    (∃ t, toggleBreakpoint scribe shrunk 8 = (t, .ok none) ∧ t.breakpointLines = [3, 5, 7]) ∧
    ∃ t u, toggleBreakpoint scribe shrunk 4 = (t, .ok (some 5)) ∧
      t.breakpointLines.Pairwise (· < ·) ∧ t.breakpointLines.toFinset = {3, 4, 5, 7} ∧
      (toggleBreakpoint scribe t 4).1 = u ∧ u.breakpointLines = [3, 5, 7] := by
  have hproper : Run Command.Proper Beside scribe (empty (some 9) []) shrunk := by
    refine .head (.aside (.aside (.subscribe _ true .changed trivial))) (run_performAll _ _ ?_)
    simp [Command.Proper, Command.Regular, Diagnostic.finding, Span.Valid]
  have hrun : Run Command.Sensible Aside scribe (empty (some 9) []) shrunk := by
    refine .head (.aside (.subscribe _ true .changed trivial)) (run_performAll _ _ ?_)
    simp [Command.Sensible]
  have hlines : shrunk.breakpointLines = [3, 5, 7] := by
    have hfound : (shrunk.bookmarksOf .breakpoint).filterMap shrunk.lineNumber? = [7, 3, 5] := by
      decide +kernel
    have hordered := ordered_of_run (.aloof records_scribe.aloof) hrun
    refine eq_of_increasing (breakpointLines_increasing hordered) (by decide) fun k => ?_
    rw [breakpointLines, List.mem_mergeSort, hfound]
    simp only [List.mem_cons, List.not_mem_nil, or_false]
    tauto
  have hshort : ¬ shrunk.InRange 7 := by decide +kernel
  have hline : shrunk.InRange 4 := by decide +kernel
  refine ⟨hproper, hlines, hshort, hline, ?_, ?_, ?_⟩
  · obtain ⟨t, new, ht, htoggled, -, hset, -, -, hremains⟩ :=
      breakpoint_toggled records_scribe.aloof hrun 7
    have hmem : 7 ∈ shrunk.breakpointLines := by simp [hlines]
    obtain rfl := htoggled.given.mpr (.inl hmem)
    refine ⟨t, ht, ?_, hremains hproper 3 (by decide +kernel) (by decide +kernel)⟩
    rw [hset (.inl hmem), hlines]
    decide
  · obtain ⟨t, new, ht, htoggled, -, -, hunchanged, -, -⟩ :=
      breakpoint_toggled records_scribe.aloof hrun 8
    have hbelow : ¬ shrunk.InRange 8 := by decide +kernel
    obtain rfl := htoggled.given.mpr (.inr hbelow)
    exact ⟨t, ht, (hunchanged (by simp [hlines]) hbelow).trans hlines⟩
  · obtain ⟨t, new, ht, htoggled, hincreasing, hset, -, htwice, -⟩ :=
      breakpoint_toggled records_scribe.aloof hrun 4
    obtain ⟨u, again, hu, hback⟩ := htwice hline
    have hanswer : (toggleBreakpoint scribe shrunk 4).2 = .ok (some 5) := by decide +kernel
    rw [ht] at hanswer
    obtain rfl := Except.ok.inj hanswer
    refine ⟨t, u, ht, hincreasing, ?_, congrArg Prod.fst hu, hback.trans hlines⟩
    rw [hset (.inr hline), hlines]
    decide

end Margin

end Scriptorium
