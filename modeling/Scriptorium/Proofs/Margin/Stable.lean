import Scriptorium.Proofs.Margin.Run

/-!
What an invariant must be kept by so that every operation on bookmarks keeps it. The operations
are put together from few parts: a bookmark is made, taken in (`taken`) or discarded, and the
listeners are told. `Stable` asks that the invariant survives each part; from that it survives
the operations, whatever the listeners do between the parts.

Listeners may take bookmarks out that an operation is still to discard, so only such things can
be asked of a bookmark to be discarded as nobody can undo: it is one of a set `K`, fixed when the
operation begins. In the same way `L` bounds the lines on which an operation puts a bookmark.
-/

namespace Scriptorium
set_option autoImplicit false

namespace Margin
variable {κ ω : Type}

/-- The margin with the bookmark taken in, before anyone is told. -/
def taken (s : Margin κ ω) (b : BookmarkId) (t : Tracker) : Margin κ ω :=
  let s := { s with tracker := t, stored := s.stored ++ [b] }
  match (s.bookmark b).marker with
  | some m => s.watch b m
  | none => s

theorem taken_of_marker {s : Margin κ ω} {b : BookmarkId} (hm : (s.bookmark b).marker = none)
    (t : Tracker) : s.taken b t = { s with tracker := t, stored := s.stored ++ [b] } := by
  have hmarker : (({ s with tracker := t, stored := s.stored ++ [b] } : Margin κ ω).bookmark
      b).marker = none := hm
  unfold taken
  dsimp only
  rw [hmarker]

/-- The margin without the bookmark, before its marker is deleted. -/
def without (s : Margin κ ω) (b : BookmarkId) : Margin κ ω :=
  { s with
    stored := s.stored.filter (· ≠ b)
    tracker := s.tracker.untrack (s.bookmark b).anchor }.modifyBookmark b
      fun x => { x with marker := none }

section SetMarker
variable (s : Margin κ ω) (b c : BookmarkId) (v : Option MarkerId)

theorem kind_setMarker :
    ((s.modifyBookmark b fun x => { x with marker := v }).bookmark c).kind =
      (s.bookmark c).kind := by
  rw [bookmark_modifyBookmark]
  split <;> rfl

theorem anchor_setMarker :
    ((s.modifyBookmark b fun x => { x with marker := v }).bookmark c).anchor =
      (s.bookmark c).anchor := by
  rw [bookmark_modifyBookmark]
  split <;> rfl

theorem marker_setMarker :
    ((s.modifyBookmark b fun x => { x with marker := v }).bookmark c).marker =
      if b = c then v else (s.bookmark c).marker := by
  rw [bookmark_modifyBookmark]
  split <;> rfl

end SetMarker

theorem lt_size_of_marker {s : Margin κ ω} {b : BookmarkId} {m : MarkerId}
    (hm : (s.bookmark b).marker = some m) : b < s.bookmarks.size := by
  refine Nat.lt_of_not_le fun hb => ?_
  have : s.bookmark b = default := Registry.get_of_size_le _ hb
  rw [this] at hm
  cases hm

theorem discard_eq (h : Reaction κ ω) (s : Margin κ ω) (b : BookmarkId) :
    discard h s b = match (s.bookmark b).marker with
      | some m => (removeMarker h (s.without b) m).1
      | none => s.without b := rfl

/-- All that adding a bookmark can come to: it is refused, or it is taken in and told of. -/
theorem add_cases (h : Reaction κ ω) (s : Margin κ ω) (b : BookmarkId) :
    (add h s b).1 = s ∨ (∃ e, (add h s b).1 = s.log e) ∨
    ∃ t, b ∉ s.stored ∧ s.refusal? b = none ∧ s.tracker.track (s.bookmark b).anchor = .ok t ∧
      (add h s b).1 = notifyChanged h (notifyRedraw h (s.taken b t)) b false := by
  unfold add
  split
  · exact .inl rfl
  · rename_i hb
    split
    · rename_i r _
      cases r with
      | outOfRange => exact .inl rfl
      | occupied line => exact .inr (.inl ⟨_, rfl⟩)
    · rename_i hr
      split
      · exact .inl rfl
      · rename_i t ht
        exact .inr (.inr ⟨t, hb, hr, ht, rfl⟩)

/-- What a bookmark that is not refused is known to satisfy. -/
theorem admitted_of_refusal {s : Margin κ ω} {b : BookmarkId} (hr : s.refusal? b = none)
    (hk : (s.bookmark b).kind.OnLine) :
    ∃ line, s.lineNumber? b = some line ∧ s.InRange line ∧
      ((s.bookmark b).kind = .breakpoint → ∀ c ∈ s.stored, ¬ s.IsAt .breakpoint line c) := by
  unfold refusal? at hr
  rw [if_pos hk] at hr
  split at hr
  · cases hr
  · rename_i line hline
    split at hr
    · cases hr
    · rename_i hrange
      split at hr
      · cases hr
      · rename_i hfree
        refine ⟨line, hline, by simpa using hrange, ?_⟩
        intro hbreak c hc hat
        apply hfree
        refine ⟨hbreak, ?_⟩
        rw [find?, List.find?_isSome]
        exact ⟨c, hc, by simpa using hat⟩

/-- The margin once the marker of the bookmark, if it has one, is deleted. -/
def unmarked (h : Reaction κ ω) (s : Margin κ ω) (b : BookmarkId) : Margin κ ω :=
  match (s.bookmark b).marker with
  | some m => (removeMarker h s m).1
  | none => s

/-- The margin in which the bookmark is shown by the marker, whose tooltip is changed as told. -/
def paired (s : Margin κ ω) (b : BookmarkId) (m : MarkerId) (tooltip : Label → Label) :
    Margin κ ω :=
  (s.modifyMarker m fun y =>
      { y with tooltip := tooltip y.tooltip, tag := .bookmark b }).modifyBookmark b
    fun y => { y with marker := some m }

/-- The margin with a new parse error, which is stored but neither tracked nor shown yet. -/
def reported (s : Margin κ ω) (f : Finding) : Margin κ ω :=
  { (s.newBookmark .parseError (.span f.span) f.message none).1 with
    stored := s.stored ++ [s.bookmarks.size] }

/-- All that giving a bookmark a marker can come to: nothing, for one that is not stored; the loss
of the former marker, if the new one cannot be made; or the new marker in place of the former. -/
theorem attachMarker_cases (h : Reaction κ ω) (s : Margin κ ω) (b : BookmarkId) (x : Span) :
    (attachMarker h s b x).1 = s ∨
    b ∈ s.stored ∧ (attachMarker h s b x).1 = unmarked h s b ∨
    b ∈ s.stored ∧ ∃ u m kind, (unmarked h s b).createMarker x = .ok (u, m) ∧
      (attachMarker h s b x).1 = applyLook h ((u.paired b m id).watch b m) m kind := by
  unfold attachMarker
  split
  · rename_i hb
    refine .inr ?_
    dsimp only
    split
    · exact .inl ⟨hb, rfl⟩
    · rename_i u m hu
      exact .inr ⟨hb, u, m, _, hu, rfl⟩
  · exact .inl rfl

theorem markParseError_of_line {s : Margin κ ω} {b : BookmarkId} {i : LineId}
    (ha : (s.bookmark b).anchor = .line i) (h : Reaction κ ω) :
    markParseError h s b = (s, .error .onLine) := by
  rw [markParseError, ha]

theorem markParseError_of_span {s : Margin κ ω} {b : BookmarkId} {i : SpanId}
    (ha : (s.bookmark b).anchor = .span i) (h : Reaction κ ω) :
    markParseError h s b = match s.createMarkerOver i with
      | .error e => (s, .error e)
      | .ok (u, m) =>
        ((applyLook h (u.paired b m fun _ => .text (u.bookmark b).message) m .parseError).watch b m,
          .ok ()) := by
  rw [markParseError, ha]
  rfl

theorem addParseErrors_cons (h : Reaction κ ω) (f : Finding) (fs : List Finding)
    (s : Margin κ ω) :
    addParseErrors h (f :: fs) s = match markParseError h (s.reported f) s.bookmarks.size with
      | (t, .ok ()) => addParseErrors h fs (notifyChanged h t s.bookmarks.size false)
      | (t, .error e) => (t, .error e) := rfl

theorem bookmark_reported (s : Margin κ ω) (f : Finding) :
    (s.reported f).bookmark s.bookmarks.size =
      ⟨.parseError, .span s.tracker.spans.size, f.message, none⟩ := by
  simp [reported, newBookmark_span, bookmark, Registry.get_push]

theorem span_reported (s : Margin κ ω) (f : Finding) :
    (s.reported f).tracker.span s.tracker.spans.size = f.span :=
  (Registry.get_push s.tracker.spans f.span _).trans (if_pos rfl)

theorem markParseError_reported (h : Reaction κ ω) (s : Margin κ ω) {f : Finding}
    (hf : f.span.Valid) :
    (markParseError h (s.reported f) s.bookmarks.size).2 = .ok () := by
  obtain ⟨u, hu⟩ := Tracker.track_of_valid ((s.span_reported f).symm ▸ hf)
  rw [markParseError_of_span (congrArg Bookmark.anchor (s.bookmark_reported f)),
    createMarkerOver, hu]

/-- The parse errors that were there before are gone through one by one, and `I` carries those that
are still to come: each is skipped, or shown anew, or discarded and told of. -/
theorem keepParseErrors_induction {h : Reaction κ ω}
    {I : List BookmarkId → Margin κ ω → Prop} (hskip : ∀ b bs t, I (b :: bs) t → I bs t)
    (hmark : ∀ b bs t, (t.bookmark b).marker = none → I (b :: bs) t →
      I bs (markParseError h t b).1)
    (hdrop : ∀ b bs t, I (b :: bs) t → I bs (notifyChanged h (discard h t b) b true))
    {bs : List BookmarkId} (wanted : List Finding) (flag : Bool) {s : Margin κ ω} (hs : I bs s) :
    I [] (keepParseErrors h bs wanted flag s).1 := by
  have hend : ∀ bs t, I bs t → I [] t := by
    intro bs
    induction bs with
    | nil => exact fun _ => id
    | cons b bs ih => exact fun t ht => ih t (hskip b bs t ht)
  induction bs generalizing s wanted flag with
  | nil => exact hs
  | cons b bs ih =>
    unfold keepParseErrors
    split
    · dsimp only
      split
      · rename_i hfree
        have hmarked := hmark b bs s hfree hs
        split
        · rename_i t ht
          rw [ht] at hmarked
          exact ih _ _ hmarked
        · rename_i t e ht
          rw [ht] at hmarked
          exact hend bs t hmarked
      · exact ih _ _ (hskip b bs s hs)
    · exact ih _ _ (hdrop b bs s hs)

theorem keepParseErrors_wanted (h : Reaction κ ω) (bs : List BookmarkId) (wanted : List Finding)
    (flag : Bool) (s : Margin κ ω) {r : List Finding × Bool}
    (hr : (keepParseErrors h bs wanted flag s).2 = .ok r) : ∀ f ∈ r.1, f ∈ wanted := by
  induction bs generalizing s wanted flag with
  | nil =>
    cases hr
    exact fun _ => id
  | cons b bs ih =>
    unfold keepParseErrors at hr
    split at hr
    · dsimp only at hr
      split at hr
      · split at hr
        · exact fun f hf => List.mem_of_mem_erase (ih _ _ _ hr f hf)
        · cases hr
      · exact fun f hf => List.mem_of_mem_erase (ih _ _ _ hr f hf)
    · exact ih _ _ _ hr

theorem replaceParseErrors_of_hasLineError {s : Margin κ ω} (hs : s.HasLineError)
    (h : Reaction κ ω) (ds : List Diagnostic) :
    replaceParseErrors h s ds = (s, .error .onLine) := by
  rw [replaceParseErrors, arranged_of_hasLineError hs]

theorem replaceParseErrors_of_not_hasLineError {s : Margin κ ω} (hs : ¬ s.HasLineError)
    (h : Reaction κ ω) (ds : List Diagnostic) :
    replaceParseErrors h s ds = reconcile h (s.bookmarksOf .parseError) ds s := by
  rw [replaceParseErrors, arranged_of_not_hasLineError hs]

theorem replaceParseErrors_induction {h : Reaction κ ω} {I : Margin κ ω → Prop} {s : Margin κ ω}
    {ds : List Diagnostic} (hs : I s)
    (hkeep : I (keepParseErrors h (s.bookmarksOf .parseError) (findings ds) false s).1)
    (hadd : ∀ fs t changed,
      keepParseErrors h (s.bookmarksOf .parseError) (findings ds) false s = (t, .ok (fs, changed)) →
      (∀ f ∈ fs, f ∈ findings ds) → I t → I (addParseErrors h fs t).1)
    (hredraw : ∀ t, I t → I (notifyRedraw h t)) : I (replaceParseErrors h s ds).1 := by
  have hwanted := fun r => keepParseErrors_wanted h (s.bookmarksOf .parseError) (findings ds) false s
    (r := r)
  by_cases hline : s.HasLineError
  · rw [replaceParseErrors_of_hasLineError hline]
    exact hs
  rw [replaceParseErrors_of_not_hasLineError hline, reconcile]
  split
  · rename_i t e ht
    rw [ht] at hkeep
    exact hkeep
  · rename_i t wanted changed ht
    rw [ht] at hkeep hwanted
    have hadded := hadd wanted t changed ht (hwanted _ rfl) hkeep
    split
    · rename_i u e hu
      rw [hu] at hadded
      exact hadded
    · rename_i u hu
      rw [hu] at hadded
      dsimp only
      split
      · exact hredraw u hadded
      · exact hadded

/-- The parts of the operations, each of which keeps `I`. -/
structure Stable (h : Reaction κ ω) (K : BookmarkId → Prop) (L : Int → Prop)
    (I : Margin κ ω → Prop) : Prop where
  heeds : Heeds h I
  log : ∀ s e, I s → I (s.log e)
  allocate : ∀ s kind line, kind.OnLine → I s → I (s.newBookmark kind (.line line) "" none).1
  take : ∀ s b t, b ∉ s.stored → b < s.bookmarks.size → s.refusal? b = none →
    s.tracker.track (s.bookmark b).anchor = .ok t → (∀ line, s.lineNumber? b = some line → L line) →
    I s → I (s.taken b t)
  discard : ∀ s b, K b → I s → I (discard h s b)

namespace Stable
variable {h : Reaction κ ω} {K : BookmarkId → Prop} {L : Int → Prop} {I : Margin κ ω → Prop}
variable (hI : Stable h K L I) {s : Margin κ ω}
include hI

theorem redraw (hs : I s) : I (notifyRedraw h s) := notifyRedraw_keeps hI.heeds hI.log hs

theorem changed (b : BookmarkId) (removed : Bool) (hs : I s) : I (notifyChanged h s b removed) :=
  notifyChanged_keeps hI.heeds hI.log b removed hs

theorem add {b : BookmarkId} (hb : b < s.bookmarks.size)
    (hL : ∀ line, s.lineNumber? b = some line → L line) (hs : I s) : I (add h s b).1 := by
  rcases add_cases h s b with he | ⟨e, he⟩ | ⟨t, hnew, hr, ht, he⟩
  · rw [he]; exact hs
  · rw [he]; exact hI.log s e hs
  · rw [he]; exact hI.changed b false (hI.redraw (hI.take s b t hnew hb hr ht hL hs))

theorem remove {b : BookmarkId} (hb : K b) (hs : I s) : I (remove h s b).1 := by
  unfold Margin.remove
  split
  · exact hI.changed b true (hI.redraw (hI.discard s b hb hs))
  · exact hs

theorem discardAll {bs : List BookmarkId} (hb : ∀ b ∈ bs, K b) (hs : I s) :
    I (bs.foldl (Margin.discard h) s) :=
  List.foldlRecOn bs _ hs fun t ht b hmem => hI.discard t b (hb b hmem) ht

theorem discardEach {bs : List BookmarkId} (hb : ∀ b ∈ bs, K b) (hs : I s) :
    I (discardEach h s bs) := by
  unfold Margin.discardEach
  refine List.foldlRecOn bs _ hs ?_
  intro t ht b hmem
  exact hI.changed b true (hI.discard t b (hb b hmem) ht)

theorem removeAt (kind : Kind) (line : Int) (hK : ∀ b ∈ s.stored, K b) (hs : I s) :
    I (removeAt h s kind line).1 := by
  have hdoomed : ∀ b ∈ s.stored.filter (fun b => s.IsAt kind line b), K b :=
    fun b hb => hK b (List.mem_filter.mp hb).1
  have hd := hI.discardEach hdoomed hs
  unfold Margin.removeAt
  dsimp only
  split
  · exact hd
  · exact hI.redraw hd

theorem addOnLine {kind : Kind} {line : Int} (hk : kind.OnLine) (hL : L line) (hs : I s) :
    I (addOnLine h s kind line).1 := by
  have ha := hI.allocate s kind line hk hs
  have hadd : I (Margin.add h (s.newBookmark kind (.line line) "" none).1 s.bookmarks.size).1 := by
    apply hI.add _ _ ha
    · simp [newBookmark_line]
    · intro l hl
      have : line = l := by
        simpa [newBookmark_line, lineNumber?, bookmark, Registry.get_push, Anchor.line?,
          Tracker.newLine, Tracker.line] using hl
      exact this ▸ hL
  unfold Margin.addOnLine
  rw [newBookmark_line] at hadd ⊢
  dsimp only at hadd ⊢
  split <;> simp_all

theorem toggleBreakpoint {line : Int} (hL : L line) (hK : ∀ b ∈ s.stored, K b) (hs : I s) :
    I (toggleBreakpoint h s line).1 := by
  have hr := hI.removeAt .breakpoint line hK hs
  unfold Margin.toggleBreakpoint
  split
  · rename_i t ht
    rw [ht] at hr
    exact hI.addOnLine (by decide) hL hr
  · rename_i t n ht
    rw [ht] at hr
    exact hr

theorem clearDebugPoint (hK : ∀ b ∈ s.stored, K b) (hs : I s) : I (clearDebugPoint h s) := by
  unfold Margin.clearDebugPoint
  refine List.foldlRecOn _ _ hs ?_
  intro t ht b hb
  exact hI.remove (hK b (mem_bookmarksOf.mp hb).1) ht

theorem setDebugPoint {line : Int} (hL : L line) (hK : ∀ b ∈ s.stored, K b) (hs : I s) :
    I (setDebugPoint h s line).1 :=
  hI.addOnLine (by decide) hL (hI.clearDebugPoint hK hs)

theorem announce (removed : List BookmarkId) (anchors : List Anchor) (hs : I s) :
    I (announce h s removed anchors) := announce_keeps hI.heeds hI.log removed anchors hs

end Stable

end Margin

end Scriptorium
