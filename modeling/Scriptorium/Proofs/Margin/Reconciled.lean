import Scriptorium.Proofs.Margin.Sifted

/-!
What reconciling the parse errors with the diagnostics of a parse comes to as a whole: there is just
one parse error for each finding, and it is the first that was there, if there was one. Lines, their
bookmarks and the markers of these are left alone.

The parse errors are gone through by their offset. Two with the same finding are at the same offset,
and the sort is stable, so that the first of them in this order is the first in the margin.
-/

namespace Scriptorium
set_option autoImplicit false

theorem filter_mergeSort {α : Type} {le : α → α → Bool} {p : α → Bool} {l : List α}
    (htrans : ∀ a b c, le a b → le b c → le a c) (htotal : ∀ a b, le a b || le b a)
    (htied : ∀ a b, p a → p b → le a b) : (l.mergeSort le).filter p = l.filter p := by
  have hsorted : (l.filter p).Pairwise fun a b => le a b := by
    apply List.Pairwise.imp_of_mem _ (List.pairwise_of_forall (R := fun _ _ => True) fun _ _ => trivial)
    intro a b ha hb _
    exact htied a b (List.mem_filter.mp ha).2 (List.mem_filter.mp hb).2
  have hsub := (List.sublist_mergeSort htrans htotal hsorted List.filter_sublist).filter p
  rw [List.filter_filter] at hsub
  simp only [Bool.and_self] at hsub
  exact (hsub.eq_of_length ((List.mergeSort_perm l le).filter p).length_eq.symm).symm

namespace Margin
variable {κ ω : Type}

theorem offset_findingOf (s : Margin κ ω) (b : BookmarkId) :
    ((s.span? b).map Span.offset).getD 0 = (s.findingOf b).span.offset := by
  unfold findingOf
  cases s.span? b <;> rfl

/-- The first parse error with a finding, by the order of the margin. -/
theorem find_bookmarksOf (s : Margin κ ω) (f : Finding) :
    (s.bookmarksOf .parseError).find? (fun b => s.findingOf b = f) =
      s.stored.find? fun b => (s.bookmark b).kind = .parseError ∧ s.findingOf b = f := by
  unfold bookmarksOf
  dsimp only
  rw [if_pos rfl, ← List.head?_filter, ← List.head?_filter, filter_mergeSort]
  · rw [List.filter_filter]
    congr 1
    apply List.filter_congr
    intro b _
    rw [← Bool.decide_and, decide_eq_decide]
    exact and_comm
  · intro a b c hab hbc
    simp only [decide_eq_true_eq] at *
    exact Int.le_trans hab hbc
  · intro a b
    rw [← Bool.decide_or]
    exact decide_eq_true (Int.le_total _ _)
  · intro a b ha hb
    simp only [decide_eq_true_eq] at *
    apply Int.le_of_eq
    rw [offset_findingOf, offset_findingOf, ha, hb]

/-- The margin `t` is what `s` comes to when its parse errors are reconciled with the diagnostics. -/
structure Reconciled (ds : List Diagnostic) (s t : Margin κ ω) : Prop where
  matched : Set.BijOn t.findingOf {b | b ∈ t.bookmarksOf .parseError}
    {f | ∃ d ∈ ds, d.finding = f}
  first : ∀ b ∈ s.bookmarksOf .parseError, (b ∈ t.stored ↔
    (∃ d ∈ ds, d.finding = s.findingOf b) ∧
      s.stored.find? (fun c => (s.bookmark c).kind = .parseError ∧
        s.findingOf c = s.findingOf b) = some b)
  same : ∀ b ∈ s.bookmarksOf .parseError, b ∈ t.stored →
    t.findingOf b = s.findingOf b ∧ (t.bookmark b).unshown = (s.bookmark b).unshown ∧
      ∀ m, (s.bookmark b).marker = some m →
        (t.bookmark b).marker = some m ∧ (t.marker m).unheard = (s.marker m).unheard
  shown : ∀ b ∈ t.bookmarksOf .parseError,
    t.tracker.IsTracked (t.bookmark b).anchor ∧ ∃ m ∈ t.live, (t.bookmark b).marker = some m
  gone : ∀ b ∈ s.bookmarksOf .parseError, b ∉ t.stored →
    ∀ m, (s.bookmark b).marker = some m → m ∉ t.live
  lines : (t.stored.filter fun b => (t.bookmark b).kind.OnLine) =
    s.stored.filter fun b => (s.bookmark b).kind.OnLine
  line : ∀ b ∈ s.stored, (s.bookmark b).kind.OnLine →
    t.bookmark b = s.bookmark b ∧ t.lineNumber? b = s.lineNumber? b ∧
      (t.tracker.IsTracked (t.bookmark b).anchor ↔ s.tracker.IsTracked (s.bookmark b).anchor)
  lineMarker : ∀ b ∈ s.stored, (s.bookmark b).kind.OnLine → ∀ m, (s.bookmark b).marker = some m →
    m ∈ t.live ∧ (t.marker m).unheard = (s.marker m).unheard ∧
      t.markerSpan m = s.markerSpan m ∧ (t.marker m).span ∈ t.tracker.trackedSpans

/-- The two passes after one another. -/
structure Passes (ds : List Diagnostic) (s u t : Margin κ ω) (kept new : List BookmarkId)
    (left : List Finding) : Prop where
  sift : sift s.findingOf (s.bookmarksOf .parseError) (findings ds) = (kept, left)
  sifted : Sifted (s.bookmarksOf .parseError) kept s u
  reported : Reported left new u t

section Passes
variable {τ : Prop} {s u t : Margin κ ω} {ds : List Diagnostic} {kept new : List BookmarkId}
variable {left : List Finding} {b : BookmarkId} {f : Finding}

namespace Passes

theorem spares (h : Passes ds s u t kept new left) :
    Spares (Untouched (s.bookmarksOf .parseError) kept s) s t := by
  apply h.sifted.spares.trans (h.reported.spares.narrow _)
  intro b hb
  exact Nat.lt_of_lt_of_le hb.1 h.sifted.spares.bookmarkBound

theorem mem_kept (h : Passes ds s u t kept new left) : b ∈ kept ↔
    s.findingOf b ∈ findings ds ∧
      (s.bookmarksOf .parseError).find? (fun c => s.findingOf c = s.findingOf b) = some b := by
  have hfst : (Scriptorium.sift s.findingOf (s.bookmarksOf .parseError) (findings ds)).1 = kept :=
    congrArg Prod.fst h.sift
  rw [← hfst]
  exact mem_sift (nodup_findings ds)

theorem left_sift (h : Passes ds s u t kept new left) :
    (Scriptorium.sift s.findingOf (s.bookmarksOf .parseError) (findings ds)).2 = left :=
  congrArg Prod.snd h.sift

theorem mem_left (h : Passes ds s u t kept new left) : f ∈ left ↔
    f ∈ findings ds ∧ ∀ b ∈ s.bookmarksOf .parseError, s.findingOf b ≠ f := by
  rw [← h.left_sift]
  exact mem_left_sift (nodup_findings ds)

theorem mem_stored (h : Passes ds s u t kept new left) : b ∈ t.stored ↔
    b ∈ s.stored ∧ (b ∈ s.bookmarksOf .parseError → b ∈ kept) ∨ b ∈ new := by
  rw [h.reported.stored, List.mem_append, h.sifted.stored, List.mem_filter, decide_eq_true_eq]

theorem not_mem_new (h : Passes ds s u t kept new left) (hb : b < s.bookmarks.size) :
    b ∉ new := by
  intro hnew
  have hfresh := Nat.le_trans h.sifted.spares.bookmarkBound (h.reported.fresh b hnew)
  exact Nat.not_lt.mpr hfresh hb

/-- The parse errors afterwards are those that were kept and the new ones. -/
theorem mem_bookmarksOf (h : Passes ds s u t kept new left) (hw : Woven τ [] none s) :
    b ∈ t.bookmarksOf .parseError ↔ b ∈ kept ∨ b ∈ new := by
  rw [Margin.mem_bookmarksOf, h.mem_stored]
  constructor
  · rintro ⟨⟨hb, hkeep⟩ | hnew, hkind⟩
    · refine .inl (hkeep (Margin.mem_bookmarksOf.mpr ⟨hb, ?_⟩))
      rwa [← h.spares.kind (hw.known b hb)]
    · exact .inr hnew
  · rintro (hb | hnew)
    · obtain ⟨hstored, hkind⟩ := Margin.mem_bookmarksOf.mp (h.sifted.within b hb)
      refine ⟨.inl ⟨hstored, fun _ => hb⟩, ?_⟩
      rwa [h.spares.kind (hw.known b hstored)]
    · exact ⟨.inr hnew, h.reported.kind b hnew⟩

theorem findingOf (h : Passes ds s u t kept new left) (hw : Woven τ [] none s) (hb : b ∈ s.stored) :
    t.findingOf b = s.findingOf b :=
  h.spares.findingOf (hw.known b hb) fun i hi => (hw.made b (hw.known b hb) i hi).1

theorem matched (h : Passes ds s u t kept new left) (hw : Woven τ [] none s) :
    Set.BijOn t.findingOf {b | b ∈ t.bookmarksOf .parseError} {f | ∃ d ∈ ds, d.finding = f} := by
  have hold : ∀ b ∈ kept, b ∈ s.bookmarksOf .parseError ∧ t.findingOf b = s.findingOf b := by
    intro b hb
    have hfound := h.sifted.within b hb
    exact ⟨hfound, h.findingOf hw (Margin.mem_bookmarksOf.mp hfound).1⟩
  have hnew : ∀ b ∈ new, t.findingOf b ∈ left := by
    intro b hb
    rw [← h.reported.found]
    exact List.mem_map_of_mem hb
  have hleft : left.Nodup := by
    rw [← h.left_sift]
    exact nodup_left_sift (nodup_findings ds)
  refine ⟨?_, ?_, ?_⟩
  · intro b hb
    apply mem_findings_iff.mp
    rcases (h.mem_bookmarksOf hw).mp hb with hb | hb
    · rw [(hold b hb).2]
      exact (h.mem_kept.mp hb).1
    · exact (h.mem_left.mp (hnew b hb)).1
  · intro b hb c hc heq
    rcases (h.mem_bookmarksOf hw).mp hb with hb | hb <;>
      rcases (h.mem_bookmarksOf hw).mp hc with hc | hc
    · rw [(hold b hb).2, (hold c hc).2] at heq
      have hfirst := (h.mem_kept.mp hb).2
      rw [heq, (h.mem_kept.mp hc).2] at hfirst
      exact (Option.some_inj.mp hfirst).symm
    · rw [(hold b hb).2] at heq
      exact absurd heq ((h.mem_left.mp (hnew c hc)).2 b (hold b hb).1)
    · rw [(hold c hc).2] at heq
      exact absurd heq.symm ((h.mem_left.mp (hnew b hb)).2 c (hold c hc).1)
    · rw [← h.reported.found] at hleft
      exact List.inj_on_of_nodup_map hleft hb hc heq
  · intro f hf
    have hf := mem_findings_iff.mpr hf
    cases hfind : (s.bookmarksOf .parseError).find? (fun c => s.findingOf c = f) with
    | some b =>
      have hkey : s.findingOf b = f := by simpa using List.find?_some hfind
      have hb : b ∈ kept := h.mem_kept.mpr ⟨hkey ▸ hf, by rw [hkey, hfind]⟩
      exact ⟨b, (h.mem_bookmarksOf hw).mpr (.inl hb), (hold b hb).2.trans hkey⟩
    | none =>
      have hnone : f ∈ left := by
        refine h.mem_left.mpr ⟨hf, ?_⟩
        simpa using hfind
      rw [← h.reported.found] at hnone
      obtain ⟨b, hb, hkey⟩ := List.mem_map.mp hnone
      exact ⟨b, (h.mem_bookmarksOf hw).mpr (.inr hb), hkey⟩

theorem shown (h : Passes ds s u t kept new left) (hw : Woven τ [] none s) (ht : Woven τ [] none t)
    (hb : b ∈ t.bookmarksOf .parseError) :
    t.tracker.IsTracked (t.bookmark b).anchor ∧ ∃ m ∈ t.live, (t.bookmark b).marker = some m := by
  obtain ⟨hstored, hkind⟩ := Margin.mem_bookmarksOf.mp hb
  constructor
  · obtain ⟨i, hi⟩ := ht.kinds b (ht.known b hstored) hkind
    rw [hi]
    exact ht.tracks hstored hi
  · have hmarker : (t.bookmark b).marker ≠ none := by
      rcases (h.mem_bookmarksOf hw).mp hb with hb | hb
      · have hlt : b < u.bookmarks.size := by
          have hfound := h.sifted.within b hb
          exact Nat.lt_of_lt_of_le (h.sifted.known b hfound) h.sifted.spares.bookmarkBound
        rw [h.reported.spares.bookmark b hlt]
        exact h.sifted.shown b hb
      · exact h.reported.shown b hb
    obtain ⟨m, hm⟩ := Option.ne_none_iff_exists'.mp hmarker
    exact ⟨m, ht.shows hm, hm⟩

theorem gone (h : Passes ds s u t kept new left) (hb : b ∈ s.bookmarksOf .parseError)
    (hout : b ∉ kept) {m : MarkerId} (hm : (s.bookmark b).marker = some m) : m ∉ t.live := by
  obtain ⟨hmade, hdead⟩ := h.sifted.gone b hb hout m hm
  intro hlive
  exact hdead (h.reported.spares.dead m hmade hlive)

theorem lines (h : Passes ds s u t kept new left) (hw : Woven τ [] none s) :
    (t.stored.filter fun b => (t.bookmark b).kind.OnLine) =
      s.stored.filter fun b => (s.bookmark b).kind.OnLine := by
  have hline : Spares (fun b => b < s.bookmarks.size ∧ (s.bookmark b).kind.OnLine) s t := by
    refine h.spares.narrow ?_
    rintro b ⟨hb, hkind⟩
    exact ⟨hb, fun hfound => absurd (Margin.mem_bookmarksOf.mp hfound).2 hkind⟩
  have hs : (s.stored.filter fun b => b < s.bookmarks.size ∧ (s.bookmark b).kind.OnLine) =
      s.stored.filter fun b => (s.bookmark b).kind.OnLine := by
    apply List.filter_congr
    intro b hb
    simp [hw.known b hb]
  rw [← hs, ← hline.stored]
  apply List.filter_congr
  intro b hb
  rw [decide_eq_decide]
  rcases h.mem_stored.mp hb with ⟨hb, _⟩ | hnew
  · have hlt := hw.known b hb
    simp [hlt, h.spares.kind hlt]
  · have hfresh : ¬ b < s.bookmarks.size := fun hlt => h.not_mem_new hlt hnew
    simp [hfresh, Kind.OnLine, h.reported.kind b hnew]

/-- Whatever spares a bookmark spares the marker that shows it. -/
theorem marker (h : Passes ds s u t kept new left) (hw : Woven τ [] none s)
    (hb : Untouched (s.bookmarksOf .parseError) kept s b) {m : MarkerId}
    (hm : (s.bookmark b).marker = some m) :
    t.bookmark b = s.bookmark b ∧ m ∈ t.live ∧ (t.marker m).unheard = (s.marker m).unheard :=
  ⟨h.spares.bookmark b hb, h.spares.live b m hb hm (hw.shows hm),
    h.spares.marker m (hw.liveMade m (hw.shows hm)).1⟩

theorem mem_stored_iff (h : Passes ds s u t kept new left) (hw : Woven τ [] none s)
    (hb : b ∈ s.bookmarksOf .parseError) : b ∈ t.stored ↔ b ∈ kept := by
  have hstored := (Margin.mem_bookmarksOf.mp hb).1
  rw [h.mem_stored]
  constructor
  · rintro (⟨_, hkeep⟩ | hnew)
    · exact hkeep hb
    · exact absurd hnew (h.not_mem_new (hw.known b hstored))
  · intro hmem
    exact .inl ⟨hstored, fun _ => hmem⟩

/-- A parse error that stays is the same, and so is the marker that it had. -/
theorem same (h : Passes ds s u t kept new left) (hw : Woven τ [] none s)
    (hb : b ∈ s.bookmarksOf .parseError) (hkept : b ∈ kept) :
    t.findingOf b = s.findingOf b ∧ (t.bookmark b).unshown = (s.bookmark b).unshown ∧
      ∀ m, (s.bookmark b).marker = some m →
        (t.bookmark b).marker = some m ∧ (t.marker m).unheard = (s.marker m).unheard := by
  have hstored := (Margin.mem_bookmarksOf.mp hb).1
  have hlt := hw.known b hstored
  refine ⟨h.findingOf hw hstored, h.spares.nature b hlt, ?_⟩
  intro m hm
  have hspared : Untouched (s.bookmarksOf .parseError) kept s b := by
    refine ⟨hlt, fun _ => ⟨hkept, ?_⟩⟩
    rw [hm]
    exact Option.some_ne_none m
  obtain ⟨hsame, _, hlook⟩ := h.marker hw hspared hm
  exact ⟨hsame ▸ hm, hlook⟩

theorem untouched_line (hw : Woven τ [] none s) (hb : b ∈ s.stored)
    (hkind : (s.bookmark b).kind.OnLine) : Untouched (s.bookmarksOf .parseError) kept s b :=
  ⟨hw.known b hb, fun hfound => absurd (Margin.mem_bookmarksOf.mp hfound).2 hkind⟩

theorem line (h : Passes ds s u t kept new left) (hw : Woven τ [] none s) (hb : b ∈ s.stored)
    (hkind : (s.bookmark b).kind.OnLine) :
    t.bookmark b = s.bookmark b ∧ t.lineNumber? b = s.lineNumber? b ∧
      (t.tracker.IsTracked (t.bookmark b).anchor ↔
        s.tracker.IsTracked (s.bookmark b).anchor) := by
  have hsame := h.spares.bookmark b (untouched_line hw hb hkind)
  refine ⟨hsame, ?_, ?_⟩
  · rw [lineNumber?, hsame]
    unfold Tracker.line
    rw [h.spares.lines]
    rfl
  · rw [hsame]
    cases hanchor : (s.bookmark b).anchor with
    | line i =>
      unfold Tracker.IsTracked
      rw [h.spares.trackedLines]
    | span i => exact absurd (hw.onSpan b hb i hanchor) hkind

theorem lineMarker (h : Passes ds s u t kept new left) (hw : Woven τ [] none s)
    (ht : Woven τ [] none t) (hb : b ∈ s.stored) (hkind : (s.bookmark b).kind.OnLine)
    {m : MarkerId} (hm : (s.bookmark b).marker = some m) :
    m ∈ t.live ∧ (t.marker m).unheard = (s.marker m).unheard ∧
      t.markerSpan m = s.markerSpan m ∧ (t.marker m).span ∈ t.tracker.trackedSpans := by
  obtain ⟨_, hlive, hlook⟩ := h.marker hw (untouched_line hw hb hkind) hm
  have hspan : (t.marker m).span = (s.marker m).span := by
    have := congrArg Marker.span hlook
    exact this
  refine ⟨hlive, hlook, ?_, ht.followed m hlive⟩
  rw [markerSpan, hspan, markerSpan]
  exact h.spares.span _ (hw.liveMade m (hw.shows hm)).2

theorem reconciled (h : Passes ds s u t kept new left) (hw : Woven τ [] none s)
    (ht : Woven τ [] none t) : Reconciled ds s t where
  matched := h.matched hw
  first b hb := by rw [h.mem_stored_iff hw hb, h.mem_kept, mem_findings_iff, find_bookmarksOf]
  same b hb hstays := h.same hw hb ((h.mem_stored_iff hw hb).mp hstays)
  shown _ := h.shown hw ht
  gone b hb hout _ hm := h.gone hb (mt (h.mem_stored_iff hw hb).mpr hout) hm
  lines := h.lines hw
  line _ := h.line hw
  lineMarker _ hb hkind _ := h.lineMarker hw ht hb hkind

end Passes
end Passes

section Replace
variable [DecidableEq κ] {h : Reaction κ ω} {τ : Prop} {s : Margin κ ω} {ds : List Diagnostic}

/-- Reconciling with diagnostics that are placed properly does not fail. -/
theorem replaceParseErrors_reconciled (ha : Aloof h) (hds : ∀ d ∈ ds, d.finding.span.Valid)
    (hw : Woven τ [] none s) :
    ∃ t, replaceParseErrors h s ds = (t, .ok (t.bookmarksOf .parseError)) ∧ Woven τ [] none t ∧
      Reconciled ds s t := by
  obtain ⟨u, changed, hkeep, hu, hsifted⟩ := keepParseErrors_sifted ha
    (nodup_bookmarksOf hw.storedOnce .parseError) (fun b hb => mem_bookmarksOf.mp hb)
    (findings ds) false hw
  have hvalid : ∀ f ∈ (sift s.findingOf (s.bookmarksOf .parseError) (findings ds)).2,
      f.span.Valid := by
    intro f hf
    obtain ⟨d, hd, rfl⟩ := mem_findings ((mem_left_sift (nodup_findings ds)).mp hf).1
    exact hds d hd
  obtain ⟨v, new, hadd, hv, hreported⟩ := addParseErrors_reported ha hvalid hu
  have hquiet : Reported [] [] v (notifyRedraw h v) :=
    notifyRedraw_keeps (ha.heeds_reported v) (reported_log v) (.silence v)
  have hend : ∀ t, Woven τ [] none t → Reported [] [] v t → Reconciled ds s t := by
    intro t ht hvt
    have hboth := hreported.append hv hvt
    rw [List.append_nil, List.append_nil] at hboth
    exact Passes.reconciled ⟨rfl, hsifted, hboth⟩ hw ht
  have hlisted : ∀ t : Margin κ ω, Woven τ [] none t →
      (t, t.arranged .parseError) = (t, .ok (t.bookmarksOf .parseError)) :=
    fun t ht => by rw [arranged_of_not_hasLineError ht.not_hasLineError]
  rw [replaceParseErrors_of_not_hasLineError hw.not_hasLineError, reconcile, hkeep]
  dsimp only
  rw [hadd]
  dsimp only
  split
  · have hredrawn := (ha.tactful.redraw hv).1
    exact ⟨_, hlisted _ hredrawn, hredrawn, hend _ hredrawn hquiet⟩
  · exact ⟨v, hlisted v hv, hv, hend v hv (.silence v)⟩

end Replace

end Margin

end Scriptorium
