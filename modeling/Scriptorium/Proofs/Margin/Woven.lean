import Scriptorium.Proofs.Margin.Stable
import Scriptorium.Proofs.Tracker.Spans

/-!
Bookmarks, markers and the tracked spans hang together: a span is tracked as long as a stored
parse error or a live marker stands on it, and a bookmark and the marker that shows it know of
each other. `Woven` says so. It is kept by each of the parts that the operations on bookmarks and
markers are made of, and none of them looks at lines.

There are moments at which the weave has a hole. A marker that is deleted takes its span along,
which a parse error may stand on as well; only when the bookmark is told does it let go of the
marker and has the span tracked again. `gone` are the markers of which bookmarks still have to hear;
there are several when a listener that is told of one deletes another. And a new marker may be shown
to listeners before its bookmark is one of them: it is `raw` until then, and if it is deleted, its
bookmark does not hear of it.
-/

namespace Scriptorium
set_option autoImplicit false

namespace Margin
variable {κ ω : Type}

/-- Each live marker is on a tracked span of its own, and a span is tracked, once, only if something
stands on it that is stored or live. -/
structure Anchored (s : Margin κ ω) : Prop where
  once : s.tracker.trackedSpans.Nodup
  storedOnce : s.stored.Nodup
  known : ∀ b ∈ s.stored, b < s.bookmarks.size
  kinds : ∀ b < s.bookmarks.size,
    (s.bookmark b).kind = .parseError → ∃ i, (s.bookmark b).anchor = .span i
  onSpan : ∀ b ∈ s.stored, ∀ i, (s.bookmark b).anchor = .span i →
    (s.bookmark b).kind = .parseError
  made : ∀ b < s.bookmarks.size, ∀ i, (s.bookmark b).anchor = .span i →
    i < s.tracker.spans.size ∧ (s.tracker.span i).Valid
  own : ∀ b < s.bookmarks.size, ∀ c < s.bookmarks.size, ∀ i,
    (s.bookmark b).anchor = .span i → (s.bookmark c).anchor = .span i → b = c
  liveMade : ∀ m ∈ s.live, m < s.markers.size ∧ (s.marker m).span < s.tracker.spans.size
  distinct : ∀ m ∈ s.live, ∀ n ∈ s.live, (s.marker m).span = (s.marker n).span → m = n
  followed : ∀ m ∈ s.live, (s.marker m).span ∈ s.tracker.trackedSpans
  needed : ∀ i ∈ s.tracker.trackedSpans,
    (∃ b ∈ s.stored, (s.bookmark b).anchor = .span i) ∨ ∃ m ∈ s.live, (s.marker m).span = i

/-- The span of a stored bookmark is tracked as well, unless its marker is not live any more. A
bookmark and the marker that shows it know of each other, and no other marker is on the span of a
bookmark. If `τ` holds, the tags of the markers say so too; anyone may write a tag, so nothing
is known of them otherwise. -/
structure Woven (τ : Prop) (gone : List MarkerId) (raw : Option MarkerId) (s : Margin κ ω) : Prop
    extends Anchored s where
  dead : ∀ m ∈ s.live, m ∉ gone
  covered : ∀ b ∈ s.stored, ∀ i, (s.bookmark b).anchor = .span i →
    i ∈ s.tracker.trackedSpans ∨ ∃ m, (s.bookmark b).marker = some m ∧ m ∉ s.live
  apart : ∀ m ∈ s.live, ∀ b < s.bookmarks.size,
    (s.bookmark b).anchor = .span (s.marker m).span → (s.bookmark b).marker = some m
  tagged : τ → ∀ m ∈ s.live, ∀ b, (s.marker m).tag = .bookmark b → (s.bookmark b).marker = some m
  shown : ∀ b m, (s.bookmark b).marker = some m →
    b ∈ s.stored ∧ (τ → (s.marker m).tag = .bookmark b) ∧
      (raw ≠ some m → .owner b ∈ (s.marker m).deleted.listeners ∧ (m ∈ s.live ∨ m ∈ gone))
  sole : ∀ b c m, (s.bookmark b).marker = some m → (s.bookmark c).marker = some m → b = c

/-- Without a hole the marker of a bookmark is live. -/
theorem Woven.shows {τ : Prop} {s : Margin κ ω} {b : BookmarkId} {m : MarkerId}
    (hs : Woven τ [] none s) (hm : (s.bookmark b).marker = some m) : m ∈ s.live := by
  obtain ⟨_, _, hheard⟩ := hs.shown b m hm
  exact (hheard nofun).2.resolve_right List.not_mem_nil

/-- Without a hole the span of each stored parse error is tracked. -/
theorem Woven.tracks {τ : Prop} {s : Margin κ ω} {b : BookmarkId} {i : SpanId}
    (hs : Woven τ [] none s) (hb : b ∈ s.stored) (hi : (s.bookmark b).anchor = .span i) :
    i ∈ s.tracker.trackedSpans := by
  rcases hs.covered b hb i hi with ht | ⟨m, hm, hdead⟩
  · exact ht
  · exact absurd (hs.shows hm) hdead

theorem Anchored.not_hasLineError {s : Margin κ ω} (hs : Anchored s) : ¬ s.HasLineError := by
  rintro ⟨b, hb, hkind, hline⟩
  obtain ⟨i, hi⟩ := hs.kinds b (hs.known b hb) hkind
  rw [span?, hi] at hline
  cases hline

/-- Margins that differ in nothing that the weave is made of. -/
structure Alike (s t : Margin κ ω) : Prop where
  spans : t.tracker.spans = s.tracker.spans
  tracked : t.tracker.trackedSpans = s.tracker.trackedSpans
  stored : t.stored = s.stored
  bookmarks : t.bookmarks = s.bookmarks
  live : t.live = s.live
  made : t.markers.size = s.markers.size
  span : ∀ m, (t.marker m).span = (s.marker m).span
  tag : ∀ m, (t.marker m).tag = (s.marker m).tag
  owners : ∀ m b, .owner b ∈ (t.marker m).deleted.listeners ↔
    .owner b ∈ (s.marker m).deleted.listeners

namespace Alike
variable {s t u : Margin κ ω}

theorem refl (s : Margin κ ω) : Alike s s :=
  ⟨rfl, rfl, rfl, rfl, rfl, rfl, fun _ => rfl, fun _ => rfl, fun _ _ => Iff.rfl⟩

theorem trans (hst : Alike s t) (htu : Alike t u) : Alike s u where
  spans := htu.spans.trans hst.spans
  tracked := htu.tracked.trans hst.tracked
  stored := htu.stored.trans hst.stored
  bookmarks := htu.bookmarks.trans hst.bookmarks
  live := htu.live.trans hst.live
  made := htu.made.trans hst.made
  span m := (htu.span m).trans (hst.span m)
  tag m := (htu.tag m).trans (hst.tag m)
  owners m b := (htu.owners m b).trans (hst.owners m b)

theorem log (s : Margin κ ω) (e : Entry) : Alike s (s.log e) :=
  ⟨rfl, rfl, rfl, rfl, rfl, rfl, fun _ => rfl, fun _ => rfl, fun _ _ => Iff.rfl⟩

theorem tracker (s : Margin κ ω) {u : Tracker} (hspans : u.spans = s.tracker.spans)
    (htracked : u.trackedSpans = s.tracker.trackedSpans) : Alike s { s with tracker := u } :=
  ⟨hspans, htracked, rfl, rfl, rfl, rfl, fun _ => rfl, fun _ => rfl, fun _ _ => Iff.rfl⟩

theorem bookmark (hst : Alike s t) (b : BookmarkId) : t.bookmark b = s.bookmark b := by
  rw [Margin.bookmark, hst.bookmarks]
  rfl

theorem modifyMarker (s : Margin κ ω) {m : MarkerId} (hm : m < s.markers.size)
    {f : Marker κ → Marker κ} (hspan : ∀ x, (f x).span = x.span) (htag : ∀ x, (f x).tag = x.tag)
    (howner : ∀ x b, .owner b ∈ (f x).deleted.listeners ↔ .owner b ∈ x.deleted.listeners) :
    Alike s (s.modifyMarker m f) where
  spans := rfl
  tracked := rfl
  stored := rfl
  bookmarks := rfl
  live := rfl
  made := Registry.size_modify_of_lt _ hm f
  span n := by
    rw [marker_modifyMarker]
    split
    · exact hspan _
    · rfl
  tag n := by
    rw [marker_modifyMarker]
    split
    · exact htag _
    · rfl
  owners n b := by
    rw [marker_modifyMarker]
    split
    · exact howner _ b
    · exact Iff.rfl

theorem aside [DecidableEq κ] (ha : Aside s t) : Alike s t := by
  cases ha with
  | share w => exact ⟨rfl, rfl, rfl, rfl, rfl, rfl, fun _ => rfl, fun _ => rfl, fun _ _ => Iff.rfl⟩
  | subscribe k c hc =>
    cases c with
    | markerDeleted m => exact modifyMarker s hc (fun _ => rfl) (fun _ => rfl) fun x b => by simp
    | _ => exact ⟨rfl, rfl, rfl, rfl, rfl, rfl, fun _ => rfl, fun _ => rfl, fun _ _ => Iff.rfl⟩
  | unsubscribe k c hc =>
    cases c with
    | markerDeleted m =>
      refine modifyMarker s hc (fun _ => rfl) (fun _ => rfl) fun x b => ?_
      exact List.mem_erase_of_ne (by simp)
    | _ => exact ⟨rfl, rfl, rfl, rfl, rfl, rfl, fun _ => rfl, fun _ => rfl, fun _ _ => Iff.rfl⟩

theorem watch (hst : Alike s t) (b : BookmarkId) (m : MarkerId) :
    Alike (s.watch b m) (t.watch b m) where
  spans := hst.spans
  tracked := hst.tracked
  stored := hst.stored
  bookmarks := hst.bookmarks
  live := hst.live
  made := by
    rw [Margin.watch, Margin.watch, Margin.modifyMarker, Margin.modifyMarker]
    simp only [Registry.modify, Registry.size_set, hst.made]
  span n := by
    have := hst.span n
    simp only [Margin.watch, marker_modifyMarker]
    split <;> exact this
  tag n := by
    have := hst.tag n
    simp only [Margin.watch, marker_modifyMarker]
    split <;> exact this
  owners n c := by
    have := hst.owners n c
    simp only [Margin.watch, marker_modifyMarker]
    split
    · simp only [Signal.listeners_subscribe, List.mem_append, this]
    · exact this

end Alike

namespace Woven
variable {τ : Prop} {gone : List MarkerId} {raw : Option MarkerId} {s t : Margin κ ω}
variable {b : BookmarkId} {m : MarkerId}

theorem alike (hs : Woven τ gone raw s) (ht : Alike s t) : Woven τ gone raw t where
  once := ht.tracked ▸ hs.once
  storedOnce := ht.stored ▸ hs.storedOnce
  known := by simpa only [ht.stored, ht.bookmarks] using hs.known
  kinds := by simpa only [ht.bookmark, ht.bookmarks] using hs.kinds
  onSpan := by simpa only [ht.stored, ht.bookmark] using hs.onSpan
  made := by simpa only [Tracker.span, ht.bookmark, ht.bookmarks, ht.spans] using hs.made
  own := by simpa only [ht.bookmark, ht.bookmarks] using hs.own
  liveMade := by simpa only [ht.live, ht.made, ht.span, ht.spans] using hs.liveMade
  dead := by simpa only [ht.live] using hs.dead
  distinct := by simpa only [ht.live, ht.span] using hs.distinct
  apart := by simpa only [ht.live, ht.bookmark, ht.bookmarks, ht.span] using hs.apart
  tagged := by simpa only [ht.live, ht.bookmark, ht.tag] using hs.tagged
  shown := by simpa only [ht.live, ht.stored, ht.bookmark, ht.tag, ht.owners] using hs.shown
  sole := by simpa only [ht.bookmark] using hs.sole
  followed := by simpa only [ht.live, ht.span, ht.tracked] using hs.followed
  covered := by simpa only [ht.live, ht.stored, ht.bookmark, ht.tracked] using hs.covered
  needed := by simpa only [ht.live, ht.stored, ht.bookmark, ht.span, ht.tracked] using hs.needed

/-- Once no bookmark that was to hear of it has the marker any more, the hole is closed. -/
theorem close (hs : Woven τ (m :: gone) raw s)
    (hm : raw ≠ some m → ∀ b, (s.bookmark b).marker ≠ some m) : Woven τ gone raw s :=
  { hs with
    dead := fun n hn hgone => hs.dead n hn (List.mem_cons_of_mem m hgone)
    shown := by
      intro b n hn
      obtain ⟨hb, htag, hheard⟩ := hs.shown b n hn
      refine ⟨hb, htag, fun hraw => ?_⟩
      obtain ⟨howner, hlive⟩ := hheard hraw
      refine ⟨howner, hlive.imp id (List.mem_of_ne_of_mem ?_)⟩
      rintro rfl
      exact hm hraw b hn }

end Woven

/-- The margin without the marker, before anyone is told. -/
def unlived (s : Margin κ ω) (m : MarkerId) : Margin κ ω :=
  { s with
    live := s.live.filter (· ≠ m)
    tracker := s.tracker.untrack (.span (s.marker m).span) }

namespace Woven
variable {τ : Prop} {gone : List MarkerId} {raw : Option MarkerId} {s t : Margin κ ω}
variable {b : BookmarkId} {m : MarkerId}

theorem unlived (hs : Woven τ gone raw s) (hm : m ∈ s.live) :
    Woven τ (m :: gone) raw (s.unlived m) := by
  have hlive : ∀ n, n ∈ (s.unlived m).live ↔ n ∈ s.live ∧ n ≠ m := by
    simp [Margin.unlived]
  have htracked : ∀ i, i ∈ (s.unlived m).tracker.trackedSpans ↔
      i ∈ s.tracker.trackedSpans ∧ Anchor.span (s.marker m).span ≠ .span i :=
    fun i => Tracker.mem_trackedSpans_untrack hs.once
  exact {
    once := Tracker.nodup_untrack hs.once
    storedOnce := hs.storedOnce
    known := hs.known
    kinds := hs.kinds
    onSpan := hs.onSpan
    made := hs.made
    own := hs.own
    liveMade := fun n hn => hs.liveMade n ((hlive n).mp hn).1
    dead := by
      intro n hn hgone
      obtain ⟨hn, hnm⟩ := (hlive n).mp hn
      exact hs.dead n hn (List.mem_of_ne_of_mem hnm hgone)
    distinct := fun n hn p hp => hs.distinct n ((hlive n).mp hn).1 p ((hlive p).mp hp).1
    apart := fun n hn => hs.apart n ((hlive n).mp hn).1
    tagged := fun hτ n hn => hs.tagged hτ n ((hlive n).mp hn).1
    shown := by
      intro b n hn
      obtain ⟨hb, htag, hheard⟩ := hs.shown b n hn
      refine ⟨hb, htag, fun hraw => ?_⟩
      obtain ⟨howner, hn' | hn'⟩ := hheard hraw
      · refine ⟨howner, ?_⟩
        by_cases hnm : n = m
        · exact .inr (hnm ▸ List.mem_cons_self)
        · exact .inl ((hlive n).mpr ⟨hn', hnm⟩)
      · exact ⟨howner, .inr (List.mem_cons_of_mem m hn')⟩
    sole := hs.sole
    followed := by
      intro n hn
      obtain ⟨hn, hne⟩ := (hlive n).mp hn
      refine (htracked _).mpr ⟨hs.followed n hn, ?_⟩
      intro heq
      exact hne (hs.distinct n hn m hm (Anchor.span.inj heq).symm)
    covered := by
      intro b hb i hi
      by_cases him : (s.marker m).span = i
      · refine .inr ⟨m, hs.apart m hm b (hs.known b hb) (him ▸ hi), ?_⟩
        exact fun hmem => ((hlive m).mp hmem).2 rfl
      · rcases hs.covered b hb i hi with ht | ⟨n, hn, hdead⟩
        · exact .inl ((htracked i).mpr ⟨ht, fun heq => him (Anchor.span.inj heq)⟩)
        · exact .inr ⟨n, hn, fun hmem => hdead ((hlive n).mp hmem).1⟩
    needed := by
      intro i hi
      obtain ⟨hi, hne⟩ := (htracked i).mp hi
      rcases hs.needed i hi with hb | ⟨n, hn, hni⟩
      · exact .inl hb
      · exact .inr ⟨n, (hlive n).mpr ⟨hn, fun hnm => hne (by rw [← hni, hnm])⟩, hni⟩ }

end Woven

theorem kind_without (s : Margin κ ω) (b c : BookmarkId) :
    ((s.without b).bookmark c).kind = (s.bookmark c).kind := kind_setMarker _ b c none

theorem anchor_without (s : Margin κ ω) (b c : BookmarkId) :
    ((s.without b).bookmark c).anchor = (s.bookmark c).anchor := anchor_setMarker _ b c none

/-- Whoever has a marker after a bookmark let go of its own had it before. -/
theorem marker_forget {s : Margin κ ω} {b c : BookmarkId} {m : MarkerId} :
    ((s.modifyBookmark b fun x => { x with marker := none }).bookmark c).marker = some m ↔
      (s.bookmark c).marker = some m ∧ c ≠ b := by
  rw [marker_setMarker]
  split
  · rename_i hbc
    simp [hbc]
  · rename_i hbc
    simp [Ne.symm hbc]

theorem marker_without {s : Margin κ ω} {b c : BookmarkId} {m : MarkerId} :
    ((s.without b).bookmark c).marker = some m ↔ (s.bookmark c).marker = some m ∧ c ≠ b :=
  marker_forget

/-- A bookmark can be taken out before its marker or after it. -/
theorem without_unlived (s : Margin κ ω) (b : BookmarkId) (m : MarkerId) :
    (s.without b).unlived m = (s.unlived m).without b := by
  have htracker : (s.tracker.untrack (s.bookmark b).anchor).untrack (.span (s.marker m).span) =
      (s.tracker.untrack (.span (s.marker m).span)).untrack (s.bookmark b).anchor := by
    cases (s.bookmark b).anchor with
    | line i => rfl
    | span i => simp only [Tracker.untrack, List.erase_comm]
  exact congrArg (fun t => { s.without b with
    live := s.live.filter (· ≠ m)
    tracker := t }) htracker

theorem release_of_stored {s : Margin κ ω} {b : BookmarkId} {m : MarkerId}
    (hm : (s.bookmark b).marker = some m) (hb : b ∈ s.stored) :
    s.release b m = match s.tracker.track (s.bookmark b).anchor with
      | .ok u =>
        ({ s with tracker := u }.modifyBookmark b fun x => { x with marker := none }, false)
      | .error _ => (s.modifyBookmark b fun x => { x with marker := none }, true) := by
  have hstays : b ∈ (s.modifyBookmark b fun x => { x with marker := none }).stored := hb
  rw [release, if_pos hm]
  dsimp only
  rw [if_pos hstays, anchor_setMarker]
  rfl

namespace Woven
variable {τ : Prop} {gone : List MarkerId} {raw : Option MarkerId} {s t : Margin κ ω}
variable {b : BookmarkId} {m : MarkerId}

/-- A bookmark can be taken out as soon as its marker is not live any more. -/
theorem without (hs : Woven τ gone raw s) (hb : b < s.bookmarks.size)
    (hlost : ∀ m ∈ s.live, (s.bookmark b).marker ≠ some m) : Woven τ gone raw (s.without b) := by
  have hsize : (s.without b).bookmarks.size = s.bookmarks.size :=
    Registry.size_modify_of_lt _ hb _
  have hstored : ∀ c, c ∈ (s.without b).stored ↔ c ∈ s.stored ∧ c ≠ b := by
    intro c
    simp [Margin.without, modifyBookmark]
  have htracked : ∀ i, i ∈ (s.without b).tracker.trackedSpans ↔
      i ∈ s.tracker.trackedSpans ∧ (s.bookmark b).anchor ≠ .span i :=
    fun i => Tracker.mem_trackedSpans_untrack hs.once
  have hspans : (s.without b).tracker.spans = s.tracker.spans := Tracker.spans_untrack
  refine {
    once := Tracker.nodup_untrack hs.once
    storedOnce := hs.storedOnce.filter _
    known := ?_
    kinds := by simpa only [hsize, kind_without, anchor_without] using hs.kinds
    onSpan := ?_
    made := by
      simpa only [hsize, anchor_without, Tracker.span, hspans] using hs.made
    own := by simpa only [hsize, anchor_without] using hs.own
    liveMade := ?_
    distinct := hs.distinct
    followed := ?_
    needed := ?_
    dead := hs.dead
    covered := ?_
    apart := ?_
    tagged := ?_
    shown := ?_
    sole := ?_ }
  · intro c hc
    rw [hsize]
    exact hs.known c ((hstored c).mp hc).1
  · intro c hc i hi
    rw [anchor_without] at hi
    rw [kind_without]
    exact hs.onSpan c ((hstored c).mp hc).1 i hi
  · intro n hn
    obtain ⟨hmade, hcover⟩ := hs.liveMade n hn
    exact ⟨hmade, hspans ▸ hcover⟩
  · intro n hn
    refine (htracked _).mpr ⟨hs.followed n hn, ?_⟩
    exact fun hanchor => hlost n hn (hs.apart n hn b hb hanchor)
  · intro i hi
    obtain ⟨hi, hne⟩ := (htracked i).mp hi
    rcases hs.needed i hi with ⟨c, hc, hci⟩ | hlive
    · refine .inl ⟨c, (hstored c).mpr ⟨hc, fun hcb => hne (hcb ▸ hci)⟩, ?_⟩
      rwa [anchor_without]
    · exact .inr hlive
  · intro c hc i hi
    obtain ⟨hc, hcb⟩ := (hstored c).mp hc
    rw [anchor_without] at hi
    rcases hs.covered c hc i hi with ht | ⟨n, hn, hdead⟩
    · refine .inl ((htracked i).mpr ⟨ht, ?_⟩)
      exact fun hbi => hcb (hs.own c (hs.known c hc) b hb i hi hbi)
    · exact .inr ⟨n, marker_without.mpr ⟨hn, hcb⟩, hdead⟩
  · intro n hn c hc hanchor
    rw [hsize] at hc
    rw [anchor_without] at hanchor
    have hmarker := hs.apart n hn c hc hanchor
    exact marker_without.mpr ⟨hmarker, fun hcb => hlost n hn (hcb ▸ hmarker)⟩
  · intro hτ n hn c htag
    have hmarker := hs.tagged hτ n hn c htag
    exact marker_without.mpr ⟨hmarker, fun hcb => hlost n hn (hcb ▸ hmarker)⟩
  · intro c n hn
    obtain ⟨hmarker, hcb⟩ := marker_without.mp hn
    obtain ⟨hc, hrest⟩ := hs.shown c n hmarker
    exact ⟨(hstored c).mpr ⟨hc, hcb⟩, hrest⟩
  · intro c d n hc hd
    exact hs.sole c d n (marker_without.mp hc).1 (marker_without.mp hd).1

theorem marker_eq_none (hs : Woven τ gone raw s) (hb : b ∉ s.stored) :
    (s.bookmark b).marker = none := by
  cases hm : (s.bookmark b).marker with
  | none => rfl
  | some m => exact absurd (hs.shown b m hm).1 hb

/-- The anchor of a bookmark is tracked if it was not, and the bookmark is among the stored ones
from then on. -/
theorem follow {u : Tracker} {stored : List BookmarkId} (hs : Woven τ gone raw s)
    (hb : b < s.bookmarks.size)
    (hkind : ∀ i, (s.bookmark b).anchor = .span i → (s.bookmark b).kind = .parseError)
    (hn : stored.Nodup)
    (hmem : ∀ c, c ∈ stored ↔ c ∈ s.stored ∨ c = b)
    (hu : s.tracker.track (s.bookmark b).anchor = .ok u) :
    Woven τ gone raw { s with tracker := u, stored := stored } := by
  have hspans : u.spans = s.tracker.spans := Tracker.spans_of_track hu
  have htracked : ∀ i, i ∈ u.trackedSpans ↔
      i ∈ s.tracker.trackedSpans ∨ (s.bookmark b).anchor = .span i :=
    fun i => Tracker.mem_trackedSpans_of_track hu
  exact { hs with
    once := Tracker.nodup_of_track hu hs.once
    storedOnce := hn
    known := by
      intro c hc
      rcases (hmem c).mp hc with hc | rfl
      · exact hs.known c hc
      · exact hb
    onSpan := by
      intro c hc
      rcases (hmem c).mp hc with hc | rfl
      · exact hs.onSpan c hc
      · exact hkind
    made := by
      intro c hc i hi
      obtain ⟨hlt, hvalid⟩ := hs.made c hc i hi
      refine ⟨hspans ▸ hlt, ?_⟩
      rw [Tracker.span, hspans]
      exact hvalid
    liveMade := by
      intro n hn
      obtain ⟨hmade, hcover⟩ := hs.liveMade n hn
      exact ⟨hmade, hspans ▸ hcover⟩
    followed := fun n hn => (htracked _).mpr (.inl (hs.followed n hn))
    covered := by
      intro c hc i hi
      rcases (hmem c).mp hc with hc | rfl
      · rcases hs.covered c hc i hi with ht | hhole
        · exact .inl ((htracked i).mpr (.inl ht))
        · exact .inr hhole
      · exact .inl ((htracked i).mpr (.inr hi))
    needed := by
      intro i hi
      rcases (htracked i).mp hi with hi | hi
      · rcases hs.needed i hi with ⟨c, hc, hci⟩ | hlive
        · exact .inl ⟨c, (hmem c).mpr (.inl hc), hci⟩
        · exact .inr hlive
      · exact .inl ⟨b, (hmem b).mpr (.inr rfl), hi⟩
    shown := by
      intro c n hn
      obtain ⟨hc, hrest⟩ := hs.shown c n hn
      exact ⟨(hmem c).mpr (.inl hc), hrest⟩ }

theorem taken {u : Tracker} (hs : Woven τ [] none s) (hnew : b ∉ s.stored)
    (hb : b < s.bookmarks.size)
    (hkind : ∀ i, (s.bookmark b).anchor = .span i → (s.bookmark b).kind = .parseError)
    (hu : s.tracker.track (s.bookmark b).anchor = .ok u) :
    Woven τ [] none (s.taken b u) := by
  rw [taken_of_marker (hs.marker_eq_none hnew)]
  refine hs.follow hb hkind ?_ ?_ hu
  · simpa using hs.storedOnce.concat hnew
  · intro c
    rw [List.mem_append, List.mem_singleton]

theorem retracked {u : Tracker} (hs : Woven τ gone raw s) (hb : b ∈ s.stored)
    (hu : s.tracker.track (s.bookmark b).anchor = .ok u) :
    Woven τ gone raw { s with tracker := u } := by
  refine hs.follow (hs.known b hb) (hs.onSpan b hb) hs.storedOnce ?_ hu
  intro c
  exact ⟨.inl, fun hc => hc.elim id fun hcb => hcb ▸ hb⟩

/-- A bookmark lets go of the marker that is gone, as soon as its own anchor is tracked. -/
theorem forget (hs : Woven τ gone raw s) (hm : (s.bookmark b).marker = some m) (hgone : m ∈ gone)
    (htracked : ∀ i, (s.bookmark b).anchor = .span i → i ∈ s.tracker.trackedSpans) :
    Woven τ gone raw (s.modifyBookmark b fun x => { x with marker := none }) := by
  have hsize : (s.modifyBookmark b fun x => { x with marker := none }).bookmarks.size =
      s.bookmarks.size := Registry.size_modify_of_lt _ (lt_size_of_marker hm) _
  -- the marker that is let go of is not live
  have hlost : ∀ n ∈ s.live, (s.bookmark b).marker ≠ some n :=
    fun n hn hbn => hs.dead n hn (Option.some_inj.mp (hm.symm.trans hbn) ▸ hgone)
  refine {
    once := hs.once
    storedOnce := hs.storedOnce
    known := fun c hc => hsize.symm ▸ hs.known c hc
    kinds := by simpa only [hsize, kind_setMarker, anchor_setMarker] using hs.kinds
    onSpan := by
      intro c hc i hi
      rw [anchor_setMarker] at hi
      rw [kind_setMarker]
      exact hs.onSpan c hc i hi
    made := ?_
    own := by simpa only [hsize, anchor_setMarker] using hs.own
    liveMade := hs.liveMade
    distinct := hs.distinct
    followed := hs.followed
    needed := ?_
    dead := hs.dead
    covered := ?_
    apart := ?_
    tagged := ?_
    shown := ?_
    sole := ?_ }
  · intro c hc i hi
    rw [hsize] at hc
    rw [anchor_setMarker] at hi
    exact hs.made c hc i hi
  · intro i hi
    simp only [anchor_setMarker]
    exact hs.needed i hi
  · intro c hc i hi
    rw [anchor_setMarker] at hi
    by_cases hcb : c = b
    · exact .inl (htracked i (hcb ▸ hi))
    · rcases hs.covered c hc i hi with ht | ⟨n, hn, hdead⟩
      · exact .inl ht
      · exact .inr ⟨n, marker_forget.mpr ⟨hn, hcb⟩, hdead⟩
  · intro n hn c hc hanchor
    rw [hsize] at hc
    rw [anchor_setMarker] at hanchor
    have hmarker := hs.apart n hn c hc hanchor
    exact marker_forget.mpr ⟨hmarker, fun hcb => hlost n hn (hcb ▸ hmarker)⟩
  · intro hτ n hn c htag
    have hmarker := hs.tagged hτ n hn c htag
    exact marker_forget.mpr ⟨hmarker, fun hcb => hlost n hn (hcb ▸ hmarker)⟩
  · intro c n hn
    exact hs.shown c n (marker_forget.mp hn).1
  · intro c d n hc hd
    exact hs.sole c d n (marker_forget.mp hc).1 (marker_forget.mp hd).1

/-- The answer of a bookmark to the loss of its marker. Where its anchor cannot be tracked, it is on
a line. -/
theorem release (hs : Woven τ gone raw s) (b : BookmarkId) (hgone : m ∈ gone) :
    Woven τ gone raw (s.release b m).1 ∧ ((s.release b m).1.bookmark b).marker ≠ some m := by
  by_cases hm : (s.bookmark b).marker = some m
  · have hb := (hs.shown b m hm).1
    -- whatever became of the tracker, the bookmark has let go
    have hlet : ∀ t : Margin κ ω, Woven τ gone raw t → (∀ c, t.bookmark c = s.bookmark c) →
        (∀ i, (t.bookmark b).anchor = .span i → i ∈ t.tracker.trackedSpans) →
        ∀ u : Margin κ ω, u = (t.modifyBookmark b fun x => { x with marker := none }) →
        Woven τ gone raw u ∧ (u.bookmark b).marker ≠ some m := by
      rintro t ht hsame htracked u rfl
      refine ⟨ht.forget ((hsame b).symm ▸ hm) hgone htracked, ?_⟩
      exact fun heq => (marker_forget.mp heq).2 rfl
    cases hu : s.tracker.track (s.bookmark b).anchor with
    | ok u =>
      refine hlet _ (hs.retracked hb hu) (fun _ => rfl) ?_ _ ?_
      · exact fun i hi => (Tracker.mem_trackedSpans_of_track hu).mpr (.inr hi)
      · rw [release_of_stored hm hb, hu]
    | error e =>
      refine hlet s hs (fun _ => rfl) ?_ _ ?_
      · intro i hi
        obtain ⟨_, hvalid⟩ := hs.made b (hs.known b hb) i hi
        obtain ⟨u, hok⟩ := Tracker.track_of_valid hvalid
        rw [hi, hok] at hu
        cases hu
      · rw [release_of_stored hm hb, hu]
  · have hrelease : (s.release b m).1 = s := by
      rw [Margin.release, if_neg hm]
    rw [hrelease]
    exact ⟨hs, hm⟩

theorem push {u : Tracker} {x : Bookmark} (hs : Woven τ [] none s)
    (htracked : u.trackedSpans = s.tracker.trackedSpans)
    (hgrow : s.tracker.spans.size ≤ u.spans.size)
    (hkept : ∀ i < s.tracker.spans.size, u.span i = s.tracker.span i)
    (hmarker : x.marker = none) (hkind : x.kind = .parseError → ∃ i, x.anchor = .span i)
    (hnew : ∀ i, x.anchor = .span i →
      s.tracker.spans.size ≤ i ∧ i < u.spans.size ∧ (u.span i).Valid) :
    Woven τ [] none { s with tracker := u, bookmarks := (s.bookmarks.push x).1 } := by
  have hold : ∀ c < s.bookmarks.size, (s.bookmarks.push x).1.get c = s.bookmark c := by
    intro c hc
    rw [Registry.get_push, if_neg (Nat.ne_of_lt hc)]
    rfl
  have hself : (s.bookmarks.push x).1.get s.bookmarks.size = x := by
    rw [Registry.get_push, if_pos rfl]
  have hcases : ∀ c < s.bookmarks.size + 1, c < s.bookmarks.size ∨ c = s.bookmarks.size :=
    fun c hc => Nat.lt_succ_iff_lt_or_eq.mp hc
  have hlast : ∀ c m, ((s.bookmarks.push x).1.get c).marker = some m →
      (s.bookmark c).marker = some m ∧ c < s.bookmarks.size := by
    intro c m hm
    by_cases hc : c = s.bookmarks.size
    · rw [hc, hself, hmarker] at hm
      cases hm
    · rw [Registry.get_push, if_neg hc] at hm
      exact ⟨hm, lt_size_of_marker hm⟩
  refine {
    once := by simpa only [htracked] using hs.once
    storedOnce := hs.storedOnce
    known := ?_
    kinds := ?_
    onSpan := ?_
    made := ?_
    own := ?_
    liveMade := ?_
    distinct := hs.distinct
    followed := fun n hn => htracked.symm ▸ hs.followed n hn
    needed := ?_
    dead := hs.dead
    covered := ?_
    apart := ?_
    tagged := ?_
    shown := ?_
    sole := ?_ }
  all_goals simp only [Margin.bookmark, Registry.size_push]
  · exact fun c hc => Nat.lt_succ_of_lt (hs.known c hc)
  · intro c hc
    rcases hcases c hc with hc | rfl
    · rw [hold c hc]
      exact hs.kinds c hc
    · rw [hself]
      exact hkind
  · intro c hc
    rw [hold c (hs.known c hc)]
    exact hs.onSpan c hc
  · intro c hc i hi
    rcases hcases c hc with hc | rfl
    · rw [hold c hc] at hi
      obtain ⟨hlt, hvalid⟩ := hs.made c hc i hi
      exact ⟨Nat.lt_of_lt_of_le hlt hgrow, (hkept i hlt).symm ▸ hvalid⟩
    · rw [hself] at hi
      exact (hnew i hi).2
  · intro b hb c hc i hbi hci
    rcases hcases b hb with hb | rfl <;> rcases hcases c hc with hc | rfl
    · rw [hold b hb] at hbi
      rw [hold c hc] at hci
      exact hs.own b hb c hc i hbi hci
    · rw [hold b hb] at hbi
      rw [hself] at hci
      exact absurd (hs.made b hb i hbi).1 (Nat.not_lt.mpr (hnew i hci).1)
    · rw [hself] at hbi
      rw [hold c hc] at hci
      exact absurd (hs.made c hc i hci).1 (Nat.not_lt.mpr (hnew i hbi).1)
    · rfl
  · intro n hn
    obtain ⟨hmade, hcover⟩ := hs.liveMade n hn
    exact ⟨hmade, Nat.lt_of_lt_of_le hcover hgrow⟩
  · intro i hi
    rw [htracked] at hi
    rcases hs.needed i hi with ⟨c, hc, hci⟩ | hlive
    · exact .inl ⟨c, hc, by rw [hold c (hs.known c hc)]; exact hci⟩
    · exact .inr hlive
  · intro c hc i hi
    rw [hold c (hs.known c hc)] at hi ⊢
    rw [htracked]
    exact hs.covered c hc i hi
  · intro n hn c hc hanchor
    rcases hcases c hc with hc | rfl
    · rw [hold c hc] at hanchor ⊢
      exact hs.apart n hn c hc hanchor
    · rw [hself] at hanchor
      exact absurd (hs.liveMade n hn).2 (Nat.not_lt.mpr (hnew _ hanchor).1)
  · intro hτ n hn c htag
    have hm := hs.tagged hτ n hn c htag
    rw [hold c (lt_size_of_marker hm)]
    exact hm
  · intro c n hn
    exact hs.shown c n (hlast c n hn).1
  · intro c d n hc hd
    exact hs.sole c d n (hlast c n hc).1 (hlast d n hd).1

end Woven

theorem Woven.edit {τ : Prop} {s : Margin κ ω} {u : Tracker} (hs : Woven τ [] none s)
    (htracked : u.trackedSpans = s.tracker.trackedSpans)
    (hgrow : s.tracker.spans.size ≤ u.spans.size)
    (hvalid : ∀ i, (s.tracker.span i).Valid → (u.span i).Valid) :
    Woven τ [] none { s with tracker := u } :=
  { hs with
    once := htracked.symm ▸ hs.once
    made := by
      intro c hc i hi
      obtain ⟨hlt, hin⟩ := hs.made c hc i hi
      exact ⟨Nat.lt_of_lt_of_le hlt hgrow, hvalid i hin⟩
    liveMade := by
      intro n hn
      obtain ⟨hmade, hcover⟩ := hs.liveMade n hn
      exact ⟨hmade, Nat.lt_of_lt_of_le hcover hgrow⟩
    followed := fun n hn => htracked.symm ▸ hs.followed n hn
    covered := fun c hc i hi => htracked.symm ▸ hs.covered c hc i hi
    needed := fun i hi => hs.needed i (htracked ▸ hi) }

end Margin

end Scriptorium
