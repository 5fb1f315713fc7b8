import Scriptorium.Proofs.Margin.Woven

/-!
Markers come into the weave on a span of their own, made with them, or on that of the stored parse
error that they are to show. In the second case the weave has a hole until the bookmark is tied to
its marker. What hangs on the spans alone (`Anchored`) is whole in between, so the two steps are
taken apart there, and the ties between bookmarks and markers are looked at once, after both. The
bookmark does not listen to its marker yet (`Woven.paired`); when it does is for the operation to
say (`Woven.heard`).
-/

namespace Scriptorium
set_option autoImplicit false

namespace Margin
variable {κ ω : Type}

/-- The margin with a new marker over the anchor, which `t` tracks. -/
def marked (s : Margin κ ω) (t : Tracker) (i : SpanId) : Margin κ ω :=
  { s with
    tracker := t
    markers := (s.markers.push (.new i)).1
    live := s.live ++ [s.markers.size] }

theorem createMarkerOver_of_track {s : Margin κ ω} {t : Tracker} {i : SpanId}
    (ht : s.tracker.track (.span i) = .ok t) :
    s.createMarkerOver i = .ok (s.marked t i, s.markers.size) := by
  rw [createMarkerOver, ht]
  rfl

theorem createMarker_cases {s u : Margin κ ω} {x : Span} {m : MarkerId}
    (hu : s.createMarker x = .ok (u, m)) :
    ∃ t, (s.tracker.newSpan x).1.track (.span s.tracker.spans.size) = .ok t ∧
      u = s.marked t s.tracker.spans.size ∧ m = s.markers.size := by
  unfold createMarker Tracker.trackSpan at hu
  cases ht : (s.tracker.newSpan x).1.track (.span (s.tracker.newSpan x).2) with
  | error e => simp [ht, bind, Except.bind] at hu
  | ok t =>
    simp only [ht, bind, Except.bind, pure, Except.pure] at hu
    have hagain : t.track (.span (s.tracker.newSpan x).2) = .ok t :=
      Tracker.track_of_isTracked (Tracker.isTracked_of_track ht)
    rw [createMarkerOver_of_track hagain] at hu
    cases hu
    exact ⟨t, ht, rfl, rfl⟩

theorem marker_marked (s : Margin κ ω) (t : Tracker) (i : SpanId) (n : MarkerId) :
    (s.marked t i).marker n = if n = s.markers.size then .new i else s.marker n :=
  Registry.get_push s.markers _ n

/-- The margin in which the bookmark is shown by the marker and listens to it. -/
def adopted (s : Margin κ ω) (b : BookmarkId) (m : MarkerId) (tooltip : Label → Label) :
    Margin κ ω := (s.paired b m tooltip).watch b m

section Adopted
variable (s : Margin κ ω) (b c : BookmarkId) (m n : MarkerId) (tooltip : Label → Label)

theorem span_paired : ((s.paired b m tooltip).marker n).span = (s.marker n).span := by
  simp only [paired, marker_modifyMarker, marker_modifyBookmark]
  split <;> rfl

theorem tag_paired : ((s.paired b m tooltip).marker n).tag =
    if m = n then .bookmark b else (s.marker n).tag := by
  simp only [paired, marker_modifyMarker, marker_modifyBookmark]
  split <;> rfl

theorem deleted_paired : ((s.paired b m tooltip).marker n).deleted = (s.marker n).deleted := by
  simp only [paired, marker_modifyMarker, marker_modifyBookmark]
  split <;> rfl

theorem kind_paired : ((s.paired b m tooltip).bookmark c).kind = (s.bookmark c).kind :=
  kind_setMarker _ b c (some m)

theorem anchor_paired : ((s.paired b m tooltip).bookmark c).anchor = (s.bookmark c).anchor :=
  anchor_setMarker _ b c (some m)

theorem marker_paired : ((s.paired b m tooltip).bookmark c).marker =
    if b = c then some m else (s.bookmark c).marker := marker_setMarker _ b c (some m)

theorem span_watch : ((s.watch b m).marker n).span = (s.marker n).span := by
  simp only [watch, marker_modifyMarker]
  split <;> rfl

theorem tag_watch : ((s.watch b m).marker n).tag = (s.marker n).tag := by
  simp only [watch, marker_modifyMarker]
  split <;> rfl

theorem listeners_watch : ((s.watch b m).marker n).deleted.listeners =
    if m = n then (s.marker n).deleted.listeners ++ [.owner b]
    else (s.marker n).deleted.listeners := by
  simp only [watch, marker_modifyMarker]
  split <;> rfl

theorem anchor_adopted : ((s.adopted b m tooltip).bookmark c).anchor = (s.bookmark c).anchor :=
  s.anchor_paired b c m tooltip

theorem marker_adopted : ((s.adopted b m tooltip).bookmark c).marker =
    if b = c then some m else (s.bookmark c).marker := s.marker_paired b c m tooltip

theorem span_adopted : ((s.adopted b m tooltip).marker n).span = (s.marker n).span := by
  rw [adopted, span_watch, span_paired]

theorem listeners_adopted : ((s.adopted b m tooltip).marker n).deleted.listeners =
    if m = n then (s.marker n).deleted.listeners ++ [.owner b]
    else (s.marker n).deleted.listeners := by
  rw [adopted, listeners_watch, deleted_paired]

end Adopted

theorem Anchored.paired {s : Margin κ ω} {b : BookmarkId} {m : MarkerId} (hs : Anchored s)
    (hb : b < s.bookmarks.size) (hm : m < s.markers.size) (tooltip : Label → Label) :
    Anchored (s.paired b m tooltip) := by
  have hsize : (s.paired b m tooltip).bookmarks.size = s.bookmarks.size :=
    Registry.size_modify_of_lt _ hb _
  have hmarkers : (s.paired b m tooltip).markers.size = s.markers.size :=
    Registry.size_modify_of_lt _ hm _
  exact {
    once := hs.once
    storedOnce := hs.storedOnce
    known := fun c hc => hsize.symm ▸ hs.known c hc
    kinds := by simpa only [hsize, kind_paired, anchor_paired] using hs.kinds
    onSpan := by
      intro c hc j hj
      rw [anchor_paired] at hj
      rw [kind_paired]
      exact hs.onSpan c hc j hj
    made := by
      intro c hc j hj
      rw [hsize] at hc
      rw [anchor_paired] at hj
      exact hs.made c hc j hj
    own := by simpa only [hsize, anchor_paired] using hs.own
    liveMade := by
      intro n hn
      rw [hmarkers, span_paired]
      exact hs.liveMade n hn
    distinct := by
      intro n hn p hp heq
      rw [span_paired, span_paired] at heq
      exact hs.distinct n hn p hp heq
    followed := by
      intro n hn
      rw [span_paired]
      exact hs.followed n hn
    needed := by
      intro j hj
      simp only [anchor_paired, span_paired]
      exact hs.needed j hj }

/-- A marker is not raw any more when its bookmark, and no other is shown by it, listens to it. By
then it must not have been deleted, unless the bookmark is gone as well. -/
theorem Woven.heard {τ : Prop} {gone : List MarkerId} {s : Margin κ ω} {b : BookmarkId}
    {m : MarkerId} (hs : Woven τ gone (some m) s) (hm : m < s.markers.size)
    (hshows : ∀ c, (s.bookmark c).marker = some m → c = b ∧ m ∈ s.live) :
    Woven τ gone none (s.watch b m) := by
  have hmarkers : (s.watch b m).markers.size = s.markers.size := Registry.size_modify_of_lt _ hm _
  exact {
    once := hs.once
    storedOnce := hs.storedOnce
    known := hs.known
    kinds := hs.kinds
    onSpan := hs.onSpan
    made := hs.made
    own := hs.own
    liveMade := by
      intro n hn
      rw [hmarkers, span_watch]
      exact hs.liveMade n hn
    dead := hs.dead
    distinct := by
      intro n hn p hp heq
      rw [span_watch, span_watch] at heq
      exact hs.distinct n hn p hp heq
    followed := by
      intro n hn
      rw [span_watch]
      exact hs.followed n hn
    covered := hs.covered
    needed := by
      intro i hi
      simp only [span_watch]
      exact hs.needed i hi
    apart := by
      intro n hn c hc hanchor
      rw [span_watch] at hanchor
      exact hs.apart n hn c hc hanchor
    tagged := by
      intro hτ n hn c htag
      rw [tag_watch] at htag
      exact hs.tagged hτ n hn c htag
    shown := by
      intro c n hn
      obtain ⟨hc, htag, hheard⟩ := hs.shown c n hn
      rw [tag_watch, listeners_watch]
      refine ⟨hc, htag, fun _ => ?_⟩
      split
      · rename_i hmn
        obtain ⟨rfl, hlive⟩ := hshows c (hmn ▸ hn)
        exact ⟨List.mem_append_right _ (List.mem_singleton_self _), .inl (hmn ▸ hlive)⟩
      · rename_i hmn
        exact hheard fun heq => hmn (Option.some_inj.mp heq)
    sole := hs.sole }

section Marked
variable {τ : Prop} {s : Margin κ ω} {t : Tracker} {i : SpanId} {b : BookmarkId}
variable (hgrow : s.tracker.spans.size ≤ t.spans.size)
variable (hkept : ∀ j < s.tracker.spans.size, t.span j = s.tracker.span j)
variable (honce : t.trackedSpans.Nodup)
variable (htracked : ∀ j, j ∈ t.trackedSpans ↔ j ∈ s.tracker.trackedSpans ∨ j = i)
variable (hi : i < t.spans.size)
include hgrow hkept honce htracked hi

/-- A marker may be put on a span on which no other stands. -/
theorem Anchored.marked (hs : Anchored s) (halone : ∀ n ∈ s.live, (s.marker n).span ≠ i) :
    Anchored (s.marked t i) := by
  have hlive : ∀ n, n ∈ (s.marked t i).live ↔ n ∈ s.live ∨ n = s.markers.size := by
    simp [Margin.marked]
  have hold : ∀ n ∈ s.live, (s.marked t i).marker n = s.marker n := by
    intro n hn
    rw [marker_marked, if_neg (Nat.ne_of_lt (hs.liveMade n hn).1)]
  have hself : ((s.marked t i).marker s.markers.size).span = i := by
    rw [marker_marked, if_pos rfl]
    rfl
  refine {
    once := honce
    storedOnce := hs.storedOnce
    known := hs.known
    kinds := hs.kinds
    onSpan := hs.onSpan
    made := ?_
    own := hs.own
    liveMade := ?_
    distinct := ?_
    followed := ?_
    needed := ?_ }
  · intro c hc j hj
    obtain ⟨hlt, hvalid⟩ := hs.made c hc j hj
    exact ⟨Nat.lt_of_lt_of_le hlt hgrow, (hkept j hlt).symm ▸ hvalid⟩
  · intro n hn
    have hsize : (s.marked t i).markers.size = s.markers.size + 1 := Registry.size_push _ _
    rw [hsize]
    rcases (hlive n).mp hn with hn | rfl
    · rw [hold n hn]
      obtain ⟨hmade, hcover⟩ := hs.liveMade n hn
      exact ⟨Nat.lt_succ_of_lt hmade, Nat.lt_of_lt_of_le hcover hgrow⟩
    · rw [hself]
      exact ⟨Nat.lt_succ_self _, hi⟩
  · intro n hn p hp heq
    rcases (hlive n).mp hn with hn | rfl <;> rcases (hlive p).mp hp with hp | rfl
    · rw [hold n hn, hold p hp] at heq
      exact hs.distinct n hn p hp heq
    · rw [hold n hn, hself] at heq
      exact absurd heq (halone n hn)
    · rw [hold p hp, hself] at heq
      exact absurd heq.symm (halone p hp)
    · rfl
  · intro n hn
    rcases (hlive n).mp hn with hn | rfl
    · rw [hold n hn]
      exact (htracked _).mpr (.inl (hs.followed n hn))
    · rw [hself]
      exact (htracked i).mpr (.inr rfl)
  · intro j hj
    rcases (htracked j).mp hj with hj | rfl
    · rcases hs.needed j hj with hb | ⟨n, hn, hnj⟩
      · exact .inl hb
      · exact .inr ⟨n, (hlive n).mpr (.inl hn), by rw [hold n hn]; exact hnj⟩
    · exact .inr ⟨s.markers.size, (hlive _).mpr (.inr rfl), hself⟩

theorem Woven.marked (hs : Woven τ [] none s) (hnew : s.tracker.spans.size ≤ i) :
    Woven τ [] none (s.marked t i) := by
  have hlive : ∀ n, n ∈ (s.marked t i).live ↔ n ∈ s.live ∨ n = s.markers.size := by
    simp [Margin.marked]
  have hne : ∀ n ∈ s.live, n ≠ s.markers.size := fun n hn => Nat.ne_of_lt (hs.liveMade n hn).1
  have halone : ∀ n ∈ s.live, (s.marker n).span ≠ i := by
    intro n hn heq
    exact Nat.not_lt.mpr hnew (heq ▸ (hs.liveMade n hn).2)
  refine { hs.toAnchored.marked hgrow hkept honce htracked hi halone with
    dead := fun _ _ => List.not_mem_nil
    covered := fun c hc j hj => .inl ((htracked j).mpr (.inl (hs.tracks hc hj)))
    apart := ?_
    tagged := ?_
    shown := ?_
    sole := hs.sole }
  · intro n hn c hc hanchor
    rw [marker_marked] at hanchor
    rcases (hlive n).mp hn with hn | rfl
    · rw [if_neg (hne n hn)] at hanchor
      exact hs.apart n hn c hc hanchor
    · rw [if_pos rfl] at hanchor
      exact absurd (hs.made c hc i hanchor).1 (Nat.not_lt.mpr hnew)
  · intro hτ n hn c htag
    rw [marker_marked] at htag
    rcases (hlive n).mp hn with hn | rfl
    · rw [if_neg (hne n hn)] at htag
      exact hs.tagged hτ n hn c htag
    · rw [if_pos rfl] at htag
      cases htag
  · intro c n hn
    obtain ⟨hc, htag, hheard⟩ := hs.shown c n hn
    have hl := hs.shows hn
    rw [marker_marked, if_neg (hne n hl)]
    exact ⟨hc, htag, fun hraw => ⟨(hheard hraw).1, .inl ((hlive n).mpr (.inl hl))⟩⟩

/-- A bookmark that has no marker gets one, on a span on which nothing else stands. -/
theorem Woven.paired (hs : Woven τ [] none s) (hb : b ∈ s.stored) (hfree : (s.bookmark b).marker = none)
    (halone : ∀ n ∈ s.live, (s.marker n).span ≠ i)
    (hown : ∀ c < s.bookmarks.size, (s.bookmark c).anchor = .span i → c = b)
    (tooltip : Label → Label) :
    Woven τ [] (some s.markers.size) ((s.marked t i).paired b s.markers.size tooltip) := by
  have hlive : ∀ n, n ∈ (s.marked t i).live ↔ n ∈ s.live ∨ n = s.markers.size := by
    simp [Margin.marked]
  have hne : ∀ n ∈ s.live, s.markers.size ≠ n :=
    fun n hn heq => Nat.lt_irrefl _ (heq ▸ (hs.liveMade n hn).1)
  have hold : ∀ n ∈ s.live, (s.marked t i).marker n = s.marker n := by
    intro n hn
    rw [marker_marked, if_neg (Ne.symm (hne n hn))]
  have hmade : s.markers.size < (s.marked t i).markers.size := by
    simp [Margin.marked]
  have hsize : ((s.marked t i).paired b s.markers.size tooltip).bookmarks.size =
      s.bookmarks.size := Registry.size_modify_of_lt _ (hs.known b hb) _
  have hmarked := hs.toAnchored.marked hgrow hkept honce htracked hi halone
  -- a bookmark that had a marker is another one
  have hother : ∀ c n, (s.bookmark c).marker = some n → b ≠ c := by
    intro c n hn hbc
    rw [← hbc, hfree] at hn
    cases hn
  refine { hmarked.paired (hs.known b hb) hmade tooltip with
    dead := fun _ _ => List.not_mem_nil
    covered := ?_
    apart := ?_
    tagged := ?_
    shown := ?_
    sole := ?_ }
  · intro c hc j hj
    rw [anchor_paired] at hj
    exact .inl ((htracked j).mpr (.inl (hs.tracks hc hj)))
  · intro n hn c hc hanchor
    rw [hsize] at hc
    rw [anchor_paired, span_paired] at hanchor
    rw [marker_paired]
    rcases (hlive n).mp hn with hn | rfl
    · rw [hold n hn] at hanchor
      have hmarker := hs.apart n hn c hc hanchor
      rw [if_neg (hother c n hmarker)]
      exact hmarker
    · rw [marker_marked, if_pos rfl] at hanchor
      rw [if_pos (hown c hc hanchor).symm]
  · intro hτ n hn c htag
    rw [tag_paired] at htag
    rw [marker_paired]
    rcases (hlive n).mp hn with hn | rfl
    · rw [if_neg (hne n hn), hold n hn] at htag
      have hmarker := hs.tagged hτ n hn c htag
      rw [if_neg (hother c n hmarker)]
      exact hmarker
    · rw [if_pos rfl] at htag
      rw [if_pos (Label.bookmark.inj htag)]
  · intro c n hn
    rw [marker_paired] at hn
    rw [tag_paired, deleted_paired]
    split at hn
    · rename_i hbc
      obtain rfl := Option.some_inj.mp hn
      rw [if_pos rfl, ← hbc]
      exact ⟨hb, fun _ => rfl, fun hraw => absurd rfl hraw⟩
    · obtain ⟨hc, htag, hheard⟩ := hs.shown c n hn
      have hl := hs.shows hn
      rw [if_neg (hne n hl), hold n hl]
      exact ⟨hc, htag, fun _ => ⟨(hheard nofun).1, .inl ((hlive n).mpr (.inl hl))⟩⟩
  · -- the new marker was nobody's before
    have hnobody : ∀ c, (s.bookmark c).marker ≠ some s.markers.size :=
      fun c hc => hne _ (hs.shows hc) rfl
    intro c d n hc hd
    rw [marker_paired] at hc hd
    by_cases hbc : b = c <;> by_cases hbd : b = d
    · exact hbc.symm.trans hbd
    · rw [if_pos hbc] at hc
      rw [if_neg hbd, ← Option.some_inj.mp hc] at hd
      exact absurd hd (hnobody d)
    · rw [if_pos hbd] at hd
      rw [if_neg hbc, ← Option.some_inj.mp hd] at hc
      exact absurd hc (hnobody c)
    · rw [if_neg hbc] at hc
      rw [if_neg hbd] at hd
      exact hs.sole c d n hc hd

end Marked

end Margin

end Scriptorium
