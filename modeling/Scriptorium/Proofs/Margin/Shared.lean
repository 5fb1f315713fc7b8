import Scriptorium.Proofs.Margin.Consistent

/-!
Spans that are shared. Any number of markers and bookmarks may stand on one span, and whoever leaves
it takes it out of the tracker. Only a bookmark that is told of the loss of its marker, and stays, has
its span tracked again.

`Sound` is what is true of a margin in whatever way its spans are shared. The deletion of a marker is
taken apart here: it is first out of the margin (`unlived`), and what its listeners then make of that
is `Eased`.
-/

namespace Scriptorium
set_option autoImplicit false

namespace Margin
variable {κ ω : Type}

/-- Something that is stored or live stands on the span. -/
def Uses (s : Margin κ ω) (i : SpanId) : Prop :=
  (∃ b ∈ s.stored, (s.bookmark b).anchor = .span i) ∨ ∃ m ∈ s.live, (s.marker m).span = i

instance (s : Margin κ ω) (i : SpanId) : Decidable (s.Uses i) := by
  unfold Uses; infer_instance

/-- Each span on which something stands is tracked. -/
def Followed (s : Margin κ ω) : Prop := ∀ i, s.Uses i → i ∈ s.tracker.trackedSpans

/-- Each stored bookmark that has a marker listens to it, and nothing is stored, live or pointed at
before it was made. -/
structure Sound (s : Margin κ ω) : Prop where
  once : s.tracker.trackedSpans.Nodup
  valid : ∀ i, (s.tracker.span i).Valid
  storedOnce : s.stored.Nodup
  known : ∀ b ∈ s.stored, b < s.bookmarks.size
  liveMade : ∀ m ∈ s.live, m < s.markers.size
  preset : ∀ b m, (s.bookmark b).marker = some m → m < s.markers.size
  heard : ∀ b ∈ s.stored, ∀ m, (s.bookmark b).marker = some m →
    .owner b ∈ (s.marker m).deleted.listeners

/-- The margin `t` is `s` after some listeners of the marker were told that it is gone: bookmarks let
go of it, and those that are stored have their span tracked again. -/
structure Eased (m : MarkerId) (s t : Margin κ ω) : Prop where
  spans : t.tracker.spans = s.tracker.spans
  stored : t.stored = s.stored
  live : t.live = s.live
  bookmarks : t.bookmarks.size = s.bookmarks.size
  markers : t.markers.size = s.markers.size
  anchor : ∀ b, (t.bookmark b).anchor = (s.bookmark b).anchor
  span : ∀ n, (t.marker n).span = (s.marker n).span
  owners : ∀ n b, .owner b ∈ (t.marker n).deleted.listeners ↔
    .owner b ∈ (s.marker n).deleted.listeners
  once : t.tracker.trackedSpans.Nodup
  tracked : ∀ i ∈ s.tracker.trackedSpans, i ∈ t.tracker.trackedSpans
  only : ∀ i ∈ t.tracker.trackedSpans, i ∈ s.tracker.trackedSpans ∨
    ∃ b ∈ s.stored, (s.bookmark b).marker = some m ∧ (s.bookmark b).anchor = .span i
  marker : ∀ b, (t.bookmark b).marker = (s.bookmark b).marker ∨
    (s.bookmark b).marker = some m ∧ (t.bookmark b).marker = none
  again : ∀ b ∈ s.stored, (s.bookmark b).marker = some m → (t.bookmark b).marker = none →
    ∀ i, (s.bookmark b).anchor = .span i → i ∈ t.tracker.trackedSpans

namespace Sound
variable {s t : Margin κ ω} {b : BookmarkId} {m : MarkerId}

theorem alike (hs : Sound s) (ht : Alike s t) : Sound t where
  once := ht.tracked ▸ hs.once
  valid := by simpa only [Tracker.span, ht.spans] using hs.valid
  storedOnce := ht.stored ▸ hs.storedOnce
  known := by simpa only [ht.stored, ht.bookmarks] using hs.known
  liveMade := by simpa only [ht.live, ht.made] using hs.liveMade
  preset := by simpa only [ht.bookmark, ht.made] using hs.preset
  heard := by simpa only [ht.stored, ht.bookmark, ht.owners] using hs.heard

theorem valid_of_track {u : Tracker} {a : Anchor} (hs : Sound s) (hu : s.tracker.track a = .ok u)
    (i : SpanId) : (u.span i).Valid := by
  rw [Tracker.span, Tracker.spans_of_track hu]
  exact hs.valid i

theorem edit {u : Tracker} (hs : Sound s) (honce : u.trackedSpans.Nodup)
    (hvalid : ∀ i, (u.span i).Valid) : Sound { s with tracker := u } :=
  { hs with
    once := honce
    valid := hvalid }

theorem eased (hs : Sound s) (ht : Eased m s t) : Sound t := by
  have hmarker : ∀ b n, (t.bookmark b).marker = some n → (s.bookmark b).marker = some n := by
    intro b n hn
    rcases ht.marker b with hsame | ⟨_, hnone⟩
    · rwa [← hsame]
    · rw [hnone] at hn
      cases hn
  refine ⟨ht.once, ?_, ht.stored ▸ hs.storedOnce, ?_, ?_, ?_, ?_⟩
  · intro i
    rw [Tracker.span, ht.spans]
    exact hs.valid i
  · intro b hb
    rw [ht.bookmarks]
    exact hs.known b (ht.stored ▸ hb)
  · intro n hn
    rw [ht.markers]
    exact hs.liveMade n (ht.live ▸ hn)
  · intro b n hn
    rw [ht.markers]
    exact hs.preset b n (hmarker b n hn)
  · intro b hb n hn
    rw [ht.owners]
    exact hs.heard b (ht.stored ▸ hb) n (hmarker b n hn)

theorem unlived (hs : Sound s) (m : MarkerId) : Sound (s.unlived m) :=
  { hs with
    once := Tracker.nodup_untrack hs.once
    liveMade := fun n hn => hs.liveMade n (List.mem_filter.mp hn).1 }

theorem without (hs : Sound s) (hb : b < s.bookmarks.size) : Sound (s.without b) := by
  have hsize : (s.without b).bookmarks.size = s.bookmarks.size :=
    Registry.size_modify_of_lt _ hb _
  have hspans : (s.without b).tracker.spans = s.tracker.spans := Tracker.spans_untrack
  refine ⟨Tracker.nodup_untrack hs.once, ?_, hs.storedOnce.filter _, ?_, hs.liveMade, ?_, ?_⟩
  · intro i
    rw [Tracker.span, hspans]
    exact hs.valid i
  · intro c hc
    rw [hsize]
    exact hs.known c (List.mem_filter.mp hc).1
  · intro c n hn
    exact hs.preset c n (marker_without.mp hn).1
  · intro c hc n hn
    exact hs.heard c (List.mem_filter.mp hc).1 n (marker_without.mp hn).1

theorem push {u : Tracker} {x : Bookmark} (hs : Sound s)
    (htracked : u.trackedSpans = s.tracker.trackedSpans) (hvalid : ∀ i, (u.span i).Valid)
    (hx : ∀ m, x.marker = some m → m < s.markers.size) :
    Sound { s with tracker := u, bookmarks := (s.bookmarks.push x).1 } := by
  have hold : ∀ c < s.bookmarks.size, (s.bookmarks.push x).1.get c = s.bookmark c := by
    intro c hc
    rw [Registry.get_push, if_neg (Nat.ne_of_lt hc)]
    rfl
  refine ⟨htracked ▸ hs.once, hvalid, hs.storedOnce, ?_, hs.liveMade, ?_, ?_⟩
  all_goals simp only [bookmark, Registry.size_push]
  · exact fun c hc => Nat.lt_succ_of_lt (hs.known c hc)
  · intro c m hm
    rw [Registry.get_push] at hm
    split at hm
    · exact hx m hm
    · exact hs.preset c m hm
  · intro c hc m hm
    rw [hold c (hs.known c hc)] at hm
    exact hs.heard c hc m hm

theorem watch (hs : Sound s) (hm : m < s.markers.size) : Sound (s.watch b m) := by
  have hsize : (s.watch b m).markers.size = s.markers.size := Registry.size_modify_of_lt _ hm _
  refine ⟨hs.once, hs.valid, hs.storedOnce, hs.known, ?_, ?_, ?_⟩
  · intro n hn
    rw [hsize]
    exact hs.liveMade n hn
  · intro c n hn
    rw [hsize]
    exact hs.preset c n hn
  · intro c hc n hn
    have hheard := hs.heard c hc n hn
    simp only [Margin.watch, marker_modifyMarker]
    split
    · exact List.mem_append_left _ hheard
    · exact hheard

theorem stores {u : Tracker} (hs : Sound s) (hnew : b ∉ s.stored) (hb : b < s.bookmarks.size)
    (hu : s.tracker.track (s.bookmark b).anchor = .ok u)
    (hheard : ∀ m, (s.bookmark b).marker = some m →
      .owner b ∈ (s.marker m).deleted.listeners) :
    Sound { s with tracker := u, stored := s.stored ++ [b] } := by
  refine ⟨Tracker.nodup_of_track hu hs.once, hs.valid_of_track hu, ?_, ?_, hs.liveMade, hs.preset,
    ?_⟩
  · simpa using hs.storedOnce.concat hnew
  · intro c hc
    rcases List.mem_append.mp hc with hc | hc
    · exact hs.known c hc
    · rwa [List.mem_singleton.mp hc]
  · intro c hc
    rcases List.mem_append.mp hc with hc | hc
    · exact hs.heard c hc
    · rw [List.mem_singleton.mp hc]
      exact hheard

/-- A bookmark that is taken in listens to the marker that it brings along. -/
theorem taken {u : Tracker} (hs : Sound s) (hnew : b ∉ s.stored) (hb : b < s.bookmarks.size)
    (hu : s.tracker.track (s.bookmark b).anchor = .ok u) : Sound (s.taken b u) := by
  cases hm : (s.bookmark b).marker with
  | none =>
    rw [taken_of_marker hm]
    apply hs.stores hnew hb hu
    intro m hm'
    exact absurd (hm.symm.trans hm') (Option.some_ne_none m).symm
  | some m =>
    have heq : s.taken b u =
        { s.watch b m with tracker := u, stored := s.stored ++ [b] } := by
      have hm' : (({ s with tracker := u, stored := s.stored ++ [b] } : Margin κ ω).bookmark
          b).marker = some m := hm
      unfold Margin.taken
      dsimp only
      rw [hm']
      rfl
    rw [heq]
    apply (hs.watch (hs.preset b m hm)).stores hnew hb hu
    intro n hn
    obtain rfl := Option.some_inj.mp (hm.symm.trans hn)
    simp [Margin.watch]

theorem marked {u : Tracker} {i : SpanId} (hs : Sound s) (honce : u.trackedSpans.Nodup)
    (hvalid : ∀ j, (u.span j).Valid) : Sound (s.marked u i) := by
  have hsize : (s.marked u i).markers.size = s.markers.size + 1 := Registry.size_push _ _
  refine ⟨honce, hvalid, hs.storedOnce, hs.known, ?_, ?_, ?_⟩
  · intro n hn
    rw [hsize]
    rcases List.mem_append.mp hn with hn | hn
    · exact Nat.lt_succ_of_lt (hs.liveMade n hn)
    · rw [List.mem_singleton.mp hn]
      exact Nat.lt_succ_self _
  · intro b n hn
    rw [hsize]
    exact Nat.lt_succ_of_lt (hs.preset b n hn)
  · intro b hb n hn
    rw [marker_marked, if_neg (Nat.ne_of_lt (hs.preset b n hn))]
    exact hs.heard b hb n hn

theorem adopted (hs : Sound s) (hb : b < s.bookmarks.size) (hm : m < s.markers.size)
    (tooltip : Label → Label) : Sound (s.adopted b m tooltip) := by
  have hsize : (s.adopted b m tooltip).bookmarks.size = s.bookmarks.size :=
    Registry.size_modify_of_lt _ hb _
  have hpaired : s.markers.size ≤ (s.paired b m tooltip).markers.size :=
    Registry.size_le_size_modify _ _ _
  have hmarkers : s.markers.size ≤ (s.adopted b m tooltip).markers.size :=
    Nat.le_trans hpaired (Registry.size_le_size_modify _ _ _)
  refine ⟨hs.once, hs.valid, hs.storedOnce, ?_, ?_, ?_, ?_⟩
  · intro c hc
    rw [hsize]
    exact hs.known c hc
  · intro n hn
    exact Nat.lt_of_lt_of_le (hs.liveMade n hn) hmarkers
  · intro c n hn
    apply Nat.lt_of_lt_of_le _ hmarkers
    rw [marker_adopted] at hn
    split at hn
    · rwa [← Option.some_inj.mp hn]
    · exact hs.preset c n hn
  · intro c hc n hn
    rw [marker_adopted] at hn
    rw [listeners_adopted]
    split at hn
    · rename_i hbc
      rw [if_pos (Option.some_inj.mp hn), hbc]
      exact List.mem_append_right _ (List.mem_singleton_self _)
    · have hheard := hs.heard c hc n hn
      split
      · exact List.mem_append_left _ hheard
      · exact hheard

end Sound

namespace Eased
variable {s t u : Margin κ ω} {b : BookmarkId} {m : MarkerId}

theorem refl (hs : Sound s) (m : MarkerId) : Eased m s s where
  spans := rfl
  stored := rfl
  live := rfl
  bookmarks := rfl
  markers := rfl
  anchor _ := rfl
  span _ := rfl
  owners _ _ := Iff.rfl
  once := hs.once
  tracked _ := id
  only _ := .inl
  marker _ := .inl rfl
  again _ _ hm hnone := absurd (hm.symm.trans hnone) (Option.some_ne_none m)

theorem alike (ht : Eased m s t) (hu : Alike t u) : Eased m s u where
  spans := hu.spans.trans ht.spans
  stored := hu.stored.trans ht.stored
  live := hu.live.trans ht.live
  bookmarks := hu.bookmarks ▸ ht.bookmarks
  markers := hu.made.trans ht.markers
  anchor b := hu.bookmark b ▸ ht.anchor b
  span n := (hu.span n).trans (ht.span n)
  owners n b := (hu.owners n b).trans (ht.owners n b)
  once := hu.tracked ▸ ht.once
  tracked i hi := hu.tracked ▸ ht.tracked i hi
  only i hi := ht.only i (hu.tracked ▸ hi)
  marker b := hu.bookmark b ▸ ht.marker b
  again b := hu.bookmark b ▸ hu.tracked ▸ ht.again b

/-- The bookmark lets go of the marker, and the tracker `v` has its span if it has to. -/
theorem forget {v : Tracker} (ht : Eased m s t) (hm : (t.bookmark b).marker = some m)
    (hspans : v.spans = t.tracker.spans) (honce : v.trackedSpans.Nodup)
    (htracked : ∀ i ∈ t.tracker.trackedSpans, i ∈ v.trackedSpans)
    (honly : ∀ i ∈ v.trackedSpans, i ∈ t.tracker.trackedSpans ∨
      b ∈ s.stored ∧ (s.bookmark b).anchor = .span i)
    (hagain : b ∈ s.stored → ∀ i, (s.bookmark b).anchor = .span i → i ∈ v.trackedSpans) :
    Eased m s ({ t with tracker := v }.modifyBookmark b fun x => { x with marker := none }) := by
  have hmarker : (s.bookmark b).marker = some m := by
    rcases ht.marker b with hsame | ⟨_, hnone⟩
    · rwa [← hsame]
    · rw [hm] at hnone
      cases hnone
  refine {
    spans := hspans.trans ht.spans
    stored := ht.stored
    live := ht.live
    bookmarks := ?_
    markers := ht.markers
    anchor := ?_
    span := ht.span
    owners := ht.owners
    once := honce
    tracked := fun i hi => htracked i (ht.tracked i hi)
    only := ?_
    marker := ?_
    again := ?_ }
  · exact (Registry.size_modify_of_lt _ (lt_size_of_marker hm) _).trans ht.bookmarks
  · intro c
    rw [anchor_setMarker]
    exact ht.anchor c
  · intro i hi
    rcases honly i hi with hi | ⟨hb, hanchor⟩
    · exact ht.only i hi
    · exact .inr ⟨b, hb, hmarker, hanchor⟩
  · intro c
    rw [marker_setMarker]
    split
    · rename_i hbc
      exact .inr ⟨hbc ▸ hmarker, rfl⟩
    · exact ht.marker c
  · intro c hc hcm hnone i hi
    by_cases hbc : b = c
    · subst hbc
      exact hagain hc i hi
    · rw [marker_setMarker, if_neg hbc] at hnone
      exact htracked i (ht.again c hc hcm hnone i hi)

/-- The answer of a bookmark that listens to the marker. Only on a line its anchor may be refused. -/
theorem release (hs : Sound s) (ht : Eased m s t) (b : BookmarkId) :
    Eased m s (t.release b m).1 ∧ ((t.release b m).1.bookmark b).marker ≠ some m := by
  have hlet : ∀ u : Margin κ ω,
      ((u.modifyBookmark b fun x => { x with marker := none }).bookmark b).marker ≠ some m := by
    intro u heq
    exact (marker_forget.mp heq).2 rfl
  by_cases hm : (t.bookmark b).marker = some m
  · by_cases hb : b ∈ t.stored
    · rw [release_of_stored hm hb]
      cases hv : t.tracker.track (t.bookmark b).anchor with
      | ok v =>
        have hmem : ∀ i, i ∈ v.trackedSpans ↔
            i ∈ t.tracker.trackedSpans ∨ (t.bookmark b).anchor = .span i :=
          fun i => Tracker.mem_trackedSpans_of_track hv
        refine ⟨ht.forget hm (Tracker.spans_of_track hv) (Tracker.nodup_of_track hv ht.once) ?_ ?_
          ?_, hlet _⟩
        · exact fun i hi => (hmem i).mpr (.inl hi)
        · intro i hi
          refine ((hmem i).mp hi).imp_right fun hi => ?_
          exact ⟨ht.stored ▸ hb, (ht.anchor b).symm.trans hi⟩
        · exact fun _ i hi => (hmem i).mpr (.inr ((ht.anchor b).trans hi))
      | error e =>
        refine ⟨ht.forget (v := t.tracker) hm rfl ht.once (fun _ => id) (fun _ => .inl) ?_, hlet _⟩
        intro _ i hi
        have hvalid : (t.tracker.span i).Valid := by
          rw [Tracker.span, ht.spans]
          exact hs.valid i
        obtain ⟨v, hok⟩ := Tracker.track_of_valid hvalid
        rw [ht.anchor, hi, hok] at hv
        cases hv
    · have hstays : b ∉ (t.modifyBookmark b fun x => { x with marker := none }).stored := hb
      rw [Margin.release, if_pos hm]
      dsimp only
      rw [if_neg hstays]
      refine ⟨ht.forget (v := t.tracker) hm rfl ht.once (fun _ => id) (fun _ => .inl) ?_, hlet _⟩
      exact fun hbs => absurd (ht.stored ▸ hbs) hb
  · have hrelease : (t.release b m).1 = t := by
      rw [Margin.release, if_neg hm]
    rw [hrelease]
    exact ⟨ht, hm⟩

/-- Whom a marker is not shown by stays without it. -/
theorem marker_ne (ht : Eased m s t) (hm : (s.bookmark b).marker ≠ some m) :
    (t.bookmark b).marker ≠ some m := by
  rcases ht.marker b with hsame | ⟨hm', _⟩
  · rwa [hsame]
  · exact absurd hm' hm

theorem trans (hst : Eased m s t) (htu : Eased m t u) : Eased m s u where
  spans := htu.spans.trans hst.spans
  stored := htu.stored.trans hst.stored
  live := htu.live.trans hst.live
  bookmarks := htu.bookmarks.trans hst.bookmarks
  markers := htu.markers.trans hst.markers
  anchor b := (htu.anchor b).trans (hst.anchor b)
  span n := (htu.span n).trans (hst.span n)
  owners n b := (htu.owners n b).trans (hst.owners n b)
  once := htu.once
  tracked i hi := htu.tracked i (hst.tracked i hi)
  only i hi := by
    rcases htu.only i hi with hi | ⟨b, hb, hm, hanchor⟩
    · exact hst.only i hi
    · rcases hst.marker b with hsame | ⟨hm', _⟩
      · exact .inr ⟨b, hst.stored ▸ hb, hsame ▸ hm, (hst.anchor b).symm.trans hanchor⟩
      · exact .inr ⟨b, hst.stored ▸ hb, hm', (hst.anchor b).symm.trans hanchor⟩
  marker b := by
    rcases hst.marker b with hsame | ⟨hm, hnone⟩
    · rw [← hsame]
      exact htu.marker b
    · rcases htu.marker b with hsame | ⟨hm', _⟩
      · exact .inr ⟨hm, hsame.trans hnone⟩
      · rw [hnone] at hm'
        cases hm'
  again b hb hm hnone i hi := by
    rcases hst.marker b with hsame | ⟨_, hnone'⟩
    · exact htu.again b (hst.stored ▸ hb) (hsame.trans hm) hnone i ((hst.anchor b).trans hi)
    · exact htu.tracked i (hst.again b hb hm hnone' i hi)

end Eased

section Removal
variable [DecidableEq κ] {h : Reaction κ ω} {s t : Margin κ ω} {b : BookmarkId} {m : MarkerId}

theorem Aloof.heeds_eased (ha : Aloof h) (m : MarkerId) (s : Margin κ ω) : Heeds h (Eased m s) :=
  heeds_of_aloof ha fun _ _ hstep ht => ht.alike (.aside hstep)

/-- Once all who listen to it were told of it, no stored bookmark has the marker any more. -/
theorem notifyDeleted_eased (ha : Aloof h) (hs : Sound s) (m : MarkerId) :
    Eased m s (notifyDeleted h s m) ∧
      ∀ b ∈ s.stored, ((notifyDeleted h s m).bookmark b).marker ≠ some m := by
  have hcall : ∀ x ∈ (s.marker m).deleted.listeners, ∀ t, Eased m s t →
      Eased m s (callWatcher h m x t).1 := by
    intro x _ t ht
    cases x with
    | owner b => exact (ht.release hs b).1
    | outside k => exact ha.heeds_eased m s k _ t ht
  have hreport : ∀ (f : Margin κ ω → Entry) (t : Margin κ ω), Eased m s t →
      Eased m s (t.log (f t)) := fun f t ht => ht.alike (.log t (f t))
  have heased : Eased m s (notifyDeleted h s m) :=
    deliver_induction (callWatcher h m) _ hcall (hreport _) (.refl hs m)
  refine ⟨heased, ?_⟩
  have htold : ∀ x ∈ (s.marker m).deleted.listeners, ∀ b, x = .owner b →
      ((notifyDeleted h s m).bookmark b).marker ≠ some m := by
    refine deliver_each (P := fun x t => ∀ b, x = .owner b → (t.bookmark b).marker ≠ some m)
      (callWatcher h m) _ hcall (hreport _) ?_ ?_ (fun _ _ => id) (.refl hs m)
    · rintro x _ t ht b rfl
      exact (ht.release hs b).2
    · rintro x y _ t ht hx b rfl
      have hkept : Eased m t (callWatcher h m y t).1 := by
        cases y with
        | owner c => exact ((Eased.refl (hs.eased ht) m).release (hs.eased ht) c).1
        | outside k => exact ha.heeds_eased m t k _ t (.refl (hs.eased ht) m)
      exact hkept.marker_ne (hx b rfl)
  intro b hb
  by_cases hm : (s.bookmark b).marker = some m
  · exact htold _ (hs.heard b hb m hm) b rfl
  · exact heased.marker_ne hm

/-- A live marker that is deleted leaves the margin first, and its listeners hear of it then. -/
theorem removeMarker_eased (ha : Aloof h) (hs : Sound s) (hm : m ∈ s.live) :
    Eased m (s.unlived m) (removeMarker h s m).1 ∧
      ∀ b ∈ s.stored, ((removeMarker h s m).1.bookmark b).marker ≠ some m := by
  have hout : Alike (s.unlived m)
      (notifyMarkerRedraw h ((s.unlived m).log ((s.unlived m).removalEntry m)) m) :=
    (Alike.log _ _).trans (notifyMarkerRedraw_alike ha _ m)
  have hgone := (Eased.refl (hs.unlived m) m).alike hout
  obtain ⟨heased, hfree⟩ := notifyDeleted_eased ha ((hs.unlived m).alike hout) m
  rw [removeMarker_of_mem h hm]
  refine ⟨hgone.trans heased, ?_⟩
  intro b hb
  exact hfree b (hout.stored.symm ▸ hb)

end Removal

end Margin

end Scriptorium
