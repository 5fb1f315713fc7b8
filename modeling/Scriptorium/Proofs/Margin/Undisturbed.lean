import Scriptorium.Proofs.Margin.Adoption
import Scriptorium.Proofs.Margin.Tactful

/-!
Every operation keeps the weave, under any tactful listeners, with one proviso. An operation that
gives a marker to a bookmark tells of something else first, and may tell of the marker before the
bookmark listens to it; the bookmark must still be stored when it comes to the one, and the marker
live after the other (`Command.Undisturbed`).
-/

namespace Scriptorium
set_option autoImplicit false

namespace Margin
variable {κ ω : Type} {h : Reaction κ ω} {s : Margin κ ω}
variable {τ : Prop} {b : BookmarkId} {m : MarkerId}

/-- A parse error that gets a marker is shown by it when it has been styled, if it is still stored
by then. -/
def StaysShown (h : Reaction κ ω) (s : Margin κ ω) (b : BookmarkId) : Prop :=
  (s.bookmark b).kind = .parseError → b ∈ (markParseError h s b).1.stored →
    s.markers.size ∈ (markParseError h s b).1.live

instance (h : Reaction κ ω) (s : Margin κ ω) (b : BookmarkId) : Decidable (StaysShown h s b) :=
  inferInstanceAs (Decidable (_ = _ → _ ∈ _ → _ ∈ _))

section Operations
variable (hh : Tactful τ h)
include hh

theorem unmarked_woven (b : BookmarkId) (hs : Woven τ [] none s) :
    Woven τ [] none (unmarked h s b) ∧ ((unmarked h s b).bookmark b).marker = none := by
  unfold unmarked
  split
  · rename_i m hm
    obtain ⟨ht, hst⟩ := hh.removeMarker_unlived m hs
    refine ⟨ht, ?_⟩
    cases hn : ((removeMarker h s m).1.bookmark b).marker with
    | none => rfl
    | some n =>
      -- it could only be the marker that was deleted, which is not live
      obtain rfl := Option.some_inj.mp (hm.symm.trans (hst.marker b n hn))
      simpa [Margin.unlived] using hst.live m (ht.shows hn)
  · rename_i hm
    exact ⟨hs, hm⟩

theorem attachMarker_woven (b : BookmarkId) (x : Span)
    (hstays : b ∈ s.stored → b ∈ (unmarked h s b).stored) (hs : Woven τ [] none s) :
    Woven τ [] none (attachMarker h s b x).1 := by
  obtain ⟨hw, hfree⟩ := unmarked_woven hh b hs
  rcases attachMarker_cases h s b x with he | ⟨-, he⟩ | ⟨hb, u, m, kind, hu, he⟩
  · rwa [he]
  · rwa [he]
  · obtain ⟨t, ht, rfl, rfl⟩ := createMarker_cases hu
    have hsize := Tracker.size_of_track_newSpan ht
    have hpaired := hw.paired (Nat.le_of_lt (hsize ▸ Nat.lt_succ_self _))
      (fun j => Tracker.span_of_track_newSpan ht) (Tracker.nodup_of_track ht hw.once)
      (fun j => Tracker.mem_trackedSpans_of_track_newSpan ht) (hsize ▸ Nat.lt_succ_self _)
      (hstays hb) hfree ?_ ?_ id
    · have hlive := List.mem_append_right (unmarked h s b).live
        (List.mem_singleton_self (unmarked h s b).markers.size)
      have hmade := (hpaired.liveMade _ hlive).1
      -- the bookmark listens before the marker is styled
      have hheard := hpaired.heard hmade fun c hc => ⟨hpaired.sole c b _ hc (by
        rw [marker_paired, if_pos rfl]), hlive⟩
      rw [he]
      refine (hh.setStyle ?_ _ _ hheard).1
      exact Nat.lt_of_lt_of_le hmade (Registry.size_le_size_modify _ _ _)
    · exact fun n hn heq => Nat.lt_irrefl _ (heq ▸ (hw.liveMade n hn).2)
    · exact fun c hc hanchor => absurd (hw.made c hc _ hanchor).1 (Nat.lt_irrefl _)

/-- The new marker is raw while it is styled. -/
theorem markParseError_woven (hb : b ∈ s.stored) (hfree : (s.bookmark b).marker = none)
    (hstays : StaysShown h s b) (hs : Woven τ [] none s) :
    Woven τ [] none (markParseError h s b).1 ∧
      (markParseError h s b).1.bookmarks.size = s.bookmarks.size := by
  cases hanchor : (s.bookmark b).anchor with
  | line i =>
    rw [markParseError_of_line hanchor]
    exact ⟨hs, rfl⟩
  | span i =>
    have hknown := hs.known b hb
    have hi : i ∈ s.tracker.trackedSpans := hs.tracks hb hanchor
    have hpaired := hs.paired (t := s.tracker) (i := i) (Nat.le_refl _) (fun _ _ => rfl) hs.once
      (fun j => ⟨.inl, fun hj => hj.elim id fun hji => hji ▸ hi⟩) (hs.made b hknown i hanchor).1
      hb hfree ?_ ?_ fun _ => .text ((s.marked s.tracker i).bookmark b).message
    · have htrack : s.tracker.track (.span i) = .ok s.tracker := Tracker.track_of_isTracked hi
      have hmade := (hpaired.liveMade _ (List.mem_append_right _ (List.mem_singleton_self _))).1
      -- listeners may delete the marker now, of which the bookmark would not hear
      obtain ⟨ht, hless⟩ := hh.setStyle hmade Kind.parseError.look.1
        (some Kind.parseError.look.2) hpaired
      have hkind := hs.onSpan b hb i hanchor
      unfold StaysShown at hstays
      rw [markParseError_of_span hanchor, createMarkerOver_of_track htrack] at hstays ⊢
      refine ⟨ht.heard (hless.markers ▸ hmade) ?_, ?_⟩
      · intro c hc
        obtain rfl := hpaired.sole c b _ (hless.marker c _ hc) (by rw [marker_paired, if_pos rfl])
        exact ⟨rfl, hstays hkind (ht.shown c _ hc).1⟩
      · exact hless.bookmarks.trans (Registry.size_modify_of_lt _ hknown _)
    · intro n hn heq
      have hmarker := hs.apart n hn b hknown (heq ▸ hanchor)
      exact absurd (hfree.symm.trans hmarker) (Option.some_ne_none n).symm
    · exact fun c hc hci => hs.own c hc b hknown i hci hanchor

end Operations

/-- It makes no difference whether the anchor of a parse error is tracked before it is shown. -/
theorem markParseError_of_track (h : Reaction κ ω) {u : Tracker} {i : SpanId}
    (hanchor : (s.bookmark b).anchor = .span i) (hu : s.tracker.track (.span i) = .ok u) :
    markParseError h s b = markParseError h { s with tracker := u } b := by
  have hagain : u.track (.span i) = .ok u :=
    Tracker.track_of_isTracked (Tracker.isTracked_of_track hu)
  have hanchor' : (({ s with tracker := u } : Margin κ ω).bookmark b).anchor = .span i := hanchor
  rw [markParseError_of_span hanchor, markParseError_of_span hanchor',
    createMarkerOver_of_track hu,
    createMarkerOver_of_track (s := { s with tracker := u }) hagain]
  rfl

/-- A parse error that was only put into the list is as good as one that was taken in, as soon as
it is shown. -/
theorem entered_woven (hh : Tactful τ h) {i : SpanId} (hnew : b ∉ s.stored)
    (hb : b < s.bookmarks.size) (hkind : (s.bookmark b).kind = .parseError)
    (hanchor : (s.bookmark b).anchor = .span i)
    (hstays : StaysShown h { s with stored := s.stored ++ [b] } b) (hs : Woven τ [] none s) :
    Woven τ [] none (markParseError h { s with stored := s.stored ++ [b] } b).1 := by
  have hfree := hs.marker_eq_none hnew
  obtain ⟨u, hu⟩ := Tracker.track_of_valid (hs.made b hb i hanchor).2
  have htaken := hs.taken hnew hb (fun _ _ => hkind) (hanchor.symm ▸ hu)
  rw [taken_of_marker hfree] at htaken
  unfold StaysShown at hstays
  rw [markParseError_of_track (s := { s with stored := s.stored ++ [b] }) h hanchor hu] at hstays ⊢
  have hmarked := markParseError_woven hh (s := { s with tracker := u, stored := s.stored ++ [b] })
    (List.mem_append_right _ (List.mem_singleton_self b)) hfree hstays htaken
  exact hmarked.1

theorem newBookmark_line_woven {kind : Kind} (hk : kind.OnLine) (line : Int) (message : String)
    (hs : Woven τ [] none s) : Woven τ [] none (s.newBookmark kind (.line line) message none).1 := by
  rw [newBookmark_line]
  refine hs.push rfl (Nat.le_refl _) (fun _ _ => rfl) rfl (fun heq => absurd heq hk) ?_
  intro i hi
  cases hi

theorem newBookmark_span_woven (kind : Kind) {x : Span} (hx : x.Valid) (message : String)
    (hs : Woven τ [] none s) : Woven τ [] none (s.newBookmark kind (.span x) message none).1 := by
  have hspan : (s.tracker.newSpan x).1.span s.tracker.spans.size = x :=
    (Registry.get_push s.tracker.spans x _).trans (if_pos rfl)
  rw [newBookmark_span]
  refine hs.push rfl (by simp [Tracker.newSpan]) ?_ rfl (by simp) ?_
  · intro i hi
    exact (Registry.get_push s.tracker.spans x i).trans (if_neg (Nat.ne_of_lt hi))
  · intro i hi
    cases hi
    exact ⟨Nat.le_refl _, by simp [Tracker.newSpan], hspan.symm ▸ hx⟩

theorem reported_woven (hh : Tactful τ h) {f : Finding} (hf : f.span.Valid)
    (hstays : StaysShown h (s.reported f) s.bookmarks.size) (hs : Woven τ [] none s) :
    Woven τ [] none (markParseError h (s.reported f) s.bookmarks.size).1 := by
  have hself := s.bookmark_reported f
  refine entered_woven hh ?_ ?_ (congrArg Bookmark.kind hself) (congrArg Bookmark.anchor hself)
    hstays (newBookmark_span_woven .parseError hf f.message hs)
  · exact fun hmem => Nat.lt_irrefl _ (hs.known _ hmem)
  · simp [newBookmark_span]

/-- When `keepParseErrors` goes through the parse errors, each that gets a marker is still stored
when its turn comes, and stays shown. -/
def ShowsKept (h : Reaction κ ω) : List BookmarkId → List Finding → Margin κ ω → Prop
  | [], _, _ => True
  | b :: bs, wanted, s =>
    if s.findingOf b ∈ wanted then
      if (s.bookmark b).marker = none then
        b ∈ s.stored ∧ StaysShown h s b ∧
          ShowsKept h bs (wanted.erase (s.findingOf b)) (markParseError h s b).1
      else ShowsKept h bs (wanted.erase (s.findingOf b)) s
    else ShowsKept h bs wanted (notifyChanged h (discard h s b) b true)

/-- Each parse error that `addParseErrors` makes stays shown. -/
def ShowsAdded (h : Reaction κ ω) : List Finding → Margin κ ω → Prop
  | [], _ => True
  | f :: fs, s =>
    let b := s.bookmarks.size
    StaysShown h (s.reported f) b ∧
      ShowsAdded h fs (notifyChanged h (markParseError h (s.reported f) b).1 b false)

instance ShowsKept.instDecidable (h : Reaction κ ω) :
    ∀ bs wanted s, Decidable (ShowsKept h bs wanted s)
  | [], _, _ => .isTrue trivial
  | b :: bs, wanted, s =>
    have := ShowsKept.instDecidable h bs
    inferInstanceAs (Decidable (if s.findingOf b ∈ wanted then
      if (s.bookmark b).marker = none then
        b ∈ s.stored ∧ StaysShown h s b ∧
          ShowsKept h bs (wanted.erase (s.findingOf b)) (markParseError h s b).1
      else ShowsKept h bs (wanted.erase (s.findingOf b)) s
    else ShowsKept h bs wanted (notifyChanged h (discard h s b) b true)))

instance ShowsAdded.instDecidable (h : Reaction κ ω) : ∀ fs s, Decidable (ShowsAdded h fs s)
  | [], _ => .isTrue trivial
  | f :: fs, s =>
    have := ShowsAdded.instDecidable h fs
    inferInstanceAs (Decidable (StaysShown h (s.reported f) s.bookmarks.size ∧ ShowsAdded h fs _))

theorem keepParseErrors_woven (hh : Tactful τ h) {bs : List BookmarkId} {wanted : List Finding}
    (flag : Bool) (hbs : ∀ b ∈ bs, b < s.bookmarks.size) (hshows : ShowsKept h bs wanted s)
    (hs : Woven τ [] none s) : Woven τ [] none (keepParseErrors h bs wanted flag s).1 := by
  induction bs generalizing s wanted flag with
  | nil => exact hs
  | cons b bs ih =>
    have hb := hbs b List.mem_cons_self
    have hrest : ∀ t : Margin κ ω, t.bookmarks.size = s.bookmarks.size →
        ∀ c ∈ bs, c < t.bookmarks.size :=
      fun t ht c hc => ht.symm ▸ hbs c (List.mem_cons_of_mem b hc)
    unfold ShowsKept at hshows
    unfold keepParseErrors
    split at hshows
    · rename_i hwanted
      rw [if_pos hwanted]
      dsimp only
      split at hshows
      · rename_i hfree
        obtain ⟨hstored, hstays, hshows⟩ := hshows
        obtain ⟨ht, hsize⟩ := markParseError_woven hh hstored hfree hstays hs
        rw [if_pos hfree]
        split
        · rename_i t heq
          rw [heq] at ht hsize hshows
          exact ih true (hrest t hsize) hshows ht
        · rename_i t e heq
          rw [heq] at ht
          exact ht
      · rename_i hshown
        rw [if_neg hshown]
        exact ih flag (hrest s rfl) hshows hs
    · rename_i hdropped
      rw [if_neg hdropped]
      obtain ⟨ht, hst⟩ := hh.discard hb hs
      obtain ⟨hu, htu⟩ := hh.changed b true ht
      exact ih true (hrest _ (htu.bookmarks.trans hst.bookmarks)) hshows hu

theorem addParseErrors_woven (hh : Tactful τ h) {fs : List Finding}
    (hfs : ∀ f ∈ fs, f.span.Valid) (hshows : ShowsAdded h fs s) (hs : Woven τ [] none s) :
    Woven τ [] none (addParseErrors h fs s).1 := by
  induction fs generalizing s with
  | nil => exact hs
  | cons f fs ih =>
    obtain ⟨hstays, hshows⟩ := hshows
    have hmarked := reported_woven hh (hfs f List.mem_cons_self) hstays hs
    rw [addParseErrors_cons]
    split
    · rename_i t ht
      rw [ht] at hmarked hshows
      refine ih (fun g hg => hfs g (List.mem_cons_of_mem f hg)) hshows ?_
      exact (hh.changed _ false hmarked).1
    · rename_i t e ht
      rw [ht] at hmarked
      exact hmarked

/-- Whatever the listeners do while the parse errors are reconciled, each that gets a marker is
stored then and stays shown. -/
def ShowsReplaced (h : Reaction κ ω) (s : Margin κ ω) (ds : List Diagnostic) : Prop :=
  ShowsKept h (s.bookmarksOf .parseError) (findings ds) s ∧
    let (t, kept) := keepParseErrors h (s.bookmarksOf .parseError) (findings ds) false s
    ∀ r ∈ kept.toOption, ShowsAdded h r.1 t

instance (h : Reaction κ ω) (s : Margin κ ω) (ds : List Diagnostic) :
    Decidable (ShowsReplaced h s ds) := inferInstanceAs (Decidable (_ ∧ ∀ r ∈ _, _))

theorem replaceParseErrors_woven (hh : Tactful τ h) {ds : List Diagnostic}
    (hds : ∀ d ∈ ds, d.finding.span.Valid) (hshows : ShowsReplaced h s ds)
    (hs : Woven τ [] none s) : Woven τ [] none (replaceParseErrors h s ds).1 := by
  obtain ⟨hkept, hadded⟩ := hshows
  refine replaceParseErrors_induction (I := Woven τ [] none) hs ?_ ?_ ?_
  · exact keepParseErrors_woven hh false (fun b hb => hs.known b (mem_bookmarksOf.mp hb).1) hkept hs
  · intro fs t changed hrun hfs ht
    rw [hrun] at hadded
    refine addParseErrors_woven hh (fun f hf => ?_) (hadded _ rfl) ht
    obtain ⟨d, hd, rfl⟩ := mem_findings (hfs f hf)
    exact hds d hd
  · exact fun t ht => (hh.redraw ht).1

theorem createMarker_woven {u : Margin κ ω} {x : Span} (hu : s.createMarker x = .ok (u, m))
    (hs : Woven τ [] none s) : Woven τ [] none u := by
  obtain ⟨t, ht, rfl, rfl⟩ := createMarker_cases hu
  have hsize := Tracker.size_of_track_newSpan ht
  exact hs.marked (Nat.le_of_lt (hsize ▸ Nat.lt_succ_self _))
    (fun j => Tracker.span_of_track_newSpan ht) (Tracker.nodup_of_track ht hs.once)
    (fun j => Tracker.mem_trackedSpans_of_track_newSpan ht) (hsize ▸ Nat.lt_succ_self _)
    (Nat.le_refl _)

/-- Only parse errors are taken in on a stretch of text. -/
theorem kind_of_refusal (hr : s.refusal? b = none) {i : SpanId}
    (hi : (s.bookmark b).anchor = .span i) : (s.bookmark b).kind = .parseError := by
  by_contra hk
  obtain ⟨line, hline, _⟩ := admitted_of_refusal hr hk
  rw [lineNumber?, hi] at hline
  cases hline

/-- The margin keeps the weave through every operation on bookmarks, and forgets none. -/
theorem stable_woven (hh : Tactful τ h) (n : Nat) :
    Stable h (fun b => b < n) (fun _ => True)
      fun t => n ≤ t.bookmarks.size ∧ Woven τ [] none t := by
  refine ⟨?_, ?_, ?_, ?_, ?_⟩
  · rintro k notice t ⟨hn, ht⟩
    obtain ⟨hu, htu⟩ := hh k notice t [] none ht
    exact ⟨htu.bookmarks ▸ hn, hu⟩
  · exact fun t e ht => ⟨ht.1, woven_log t e ht.2⟩
  · rintro t kind line hk ⟨hn, ht⟩
    refine ⟨?_, newBookmark_line_woven hk line "" ht⟩
    rw [newBookmark_line, Registry.size_push]
    exact Nat.le_succ_of_le hn
  · rintro t b u hnew hb hadm hu - ⟨hn, ht⟩
    refine ⟨?_, ht.taken hnew hb (fun _ => kind_of_refusal hadm) hu⟩
    rw [taken_of_marker (ht.marker_eq_none hnew)]
    exact hn
  · rintro t b hb ⟨hn, ht⟩
    obtain ⟨hu, htu⟩ := hh.discard (Nat.lt_of_lt_of_le hb hn) ht
    exact ⟨htu.bookmarks ▸ hn, hu⟩

section Edits
variable (hh : Tactful τ h)
include hh

theorem linesInserted_woven (first count : Int) (hs : Woven τ [] none s) :
    Woven τ [] none (linesInserted h s first count) :=
  (hh.announce _ _ (hs.alike (.tracker s Tracker.spans_insertLines
    Tracker.trackedSpans_insertLines))).1

theorem discardAll_woven {bs : List BookmarkId} (hbs : ∀ b ∈ bs, b < s.bookmarks.size)
    (hs : Woven τ [] none s) : Woven τ [] none (bs.foldl (discard h) s) :=
  ((stable_woven hh s.bookmarks.size).discardAll hbs ⟨Nat.le_refl _, hs⟩).2

theorem linesDeleted_woven (first count : Int) (hs : Woven τ [] none s) :
    Woven τ [] none (linesDeleted h s first count) := by
  have hedit : Woven τ [] none { s with tracker := (s.tracker.deleteLines first count).1 } :=
    hs.alike (.tracker s Tracker.spans_deleteLines Tracker.trackedSpans_deleteLines)
  unfold linesDeleted
  dsimp only
  refine (hh.announce _ _ (discardAll_woven hh ?_ hedit)).1
  exact fun b hb => hs.known b (List.mem_filter.mp hb).1

theorem charactersInserted_woven (start count : Int) (hs : Woven τ [] none s) :
    Woven τ [] none (charactersInserted h s start count) :=
  (hh.announce _ _ (hs.edit Tracker.trackedSpans_insertCharacters
    Tracker.size_insertCharacters fun _ => Tracker.valid_insertCharacters hs.once)).1

theorem charactersDeleted_woven {start : Int} (hstart : 0 ≤ start) (count : Int)
    (hs : Woven τ [] none s) : Woven τ [] none (charactersDeleted h s start count) :=
  (hh.announce _ _ (hs.edit Tracker.trackedSpans_deleteCharacters
    Tracker.size_deleteCharacters fun _ => Tracker.valid_deleteCharacters hs.once hstart)).1

end Edits

/-- The command makes no bookmark but on a line or a stretch of text of its own, whichever its kind
is for, and changes no marker by hand. -/
def Command.Regular (s : Margin κ ω) : Command → Prop
  | .new kind place _ marker => marker = none ∧ match place with
    | .line _ => kind.OnLine
    | .span x => kind = .parseError ∧ x.Valid
    | .marker _ => False
  | .add b => b < s.bookmarks.size
  | .replaceParseErrors ds => ∀ d ∈ ds, d.finding.span.Valid
  | .linesDeleted first _ => 1 ≤ first
  | .charactersDeleted start _ => 0 ≤ start
  | .setStyle m _ _ | .setTooltip m _ => m < s.markers.size
  | .createMarkerFor _ | .setTag _ _ | .moveMarker _ _ | .resizeMarker _ _ => False
  | _ => True

/-- The command is regular, or it makes a line bookmark on a stretch of text, which is never taken
in. -/
def Command.Plain (s : Margin κ ω) : Command → Prop
  | .new kind place _ marker => marker = none ∧ match place with
    | .line _ => kind.OnLine
    | .span x => x.Valid
    | .marker _ => False
  | c => c.Regular s

theorem Command.Regular.plain {c : Command} (hc : c.Regular s) : c.Plain s := by
  cases c with
  | new kind place message marker =>
    obtain ⟨hmarker, hplace⟩ := hc
    cases place with
    | line l => exact ⟨hmarker, hplace⟩
    | span x => exact ⟨hmarker, hplace.2⟩
    | marker m => exact hplace.elim
  | _ => exact hc

/-- Whatever the listeners do while the command is under way, a bookmark is stored when it is given
a marker. -/
def Command.Undisturbed (h : Reaction κ ω) (s : Margin κ ω) : Command → Prop
  | .attachMarker b _ => b ∈ s.stored → b ∈ (unmarked h s b).stored
  | .replaceParseErrors ds => ShowsReplaced h s ds
  | _ => True

theorem perform_woven (hh : Tactful τ h) {c : Command} (hc : c.Plain s) (hu : c.Undisturbed h s)
    (hs : Woven τ [] none s) : Woven τ [] none (perform h s c).1 := by
  have hst := stable_woven hh s.bookmarks.size
  have hboth : s.bookmarks.size ≤ s.bookmarks.size ∧ Woven τ [] none s := ⟨Nat.le_refl _, hs⟩
  cases c with
  | new kind place message marker =>
    obtain ⟨rfl, hplace⟩ := hc
    cases place with
    | line l => exact newBookmark_line_woven hplace l message hs
    | span x => exact newBookmark_span_woven kind hplace message hs
    | marker m => exact hplace.elim
  | add b => exact (hst.add hc (fun _ _ => trivial) hboth).2
  | remove b => exact (hh.remove b hs).1
  | removeAt kind line => exact (hst.removeAt kind line hs.known hboth).2
  | toggleBreakpoint line => exact (hst.toggleBreakpoint trivial hs.known hboth).2
  | setDebugPoint line => exact (hst.setDebugPoint trivial hs.known hboth).2
  | clearDebugPoint => exact (hst.clearDebugPoint hs.known hboth).2
  | replaceParseErrors ds => exact replaceParseErrors_woven hh hc hu hs
  | attachMarker b x => exact attachMarker_woven hh b x hu hs
  | linesInserted first count => exact linesInserted_woven hh first count hs
  | linesDeleted first count => exact linesDeleted_woven hh first count hs
  | charactersInserted start count => exact charactersInserted_woven hh start count hs
  | charactersDeleted start count => exact charactersDeleted_woven hh hc count hs
  | createMarker x =>
    unfold perform
    dsimp only
    split
    · rename_i u m hu
      exact createMarker_woven hu hs
    · exact hs
  | createMarkerFor b => exact hc.elim
  | setStyle m p v => exact (hh.setStyle hc p v hs).1
  | setTag m l => exact hc.elim
  | setTooltip m l =>
    exact hs.alike (.modifyMarker s hc (fun _ => rfl) (fun _ => rfl) fun _ _ => Iff.rfl)
  | moveMarker m start => exact hc.elim
  | resizeMarker m length => exact hc.elim
  | deleteMarker m => exact (hh.removeMarker m hs).1
  | removeMarker m => exact (hh.removeMarker m hs).1
  | removeMarkersWhere test =>
    refine List.foldlRecOn (motive := fun t : Margin κ ω => Woven τ [] none t) _ _ hs ?_
    exact fun t ht m _ => (hh.removeMarker m ht).1
  | redrawMarker m => exact (hh.markerRedraw m hs).1
  | setLineCount count =>
    exact hs.alike ⟨rfl, rfl, rfl, rfl, rfl, rfl, fun _ => rfl, fun _ => rfl, fun _ _ => Iff.rfl⟩
  | _ => exact hs

theorem woven_empty (lineCount : Option Int) (w : ω) :
    Woven τ [] none (empty lineCount w : Margin κ ω) where
  once := List.nodup_nil
  storedOnce := List.nodup_nil
  known _ hb := by cases hb
  kinds _ hb := by cases hb
  onSpan _ hb := by cases hb
  made _ hb := by cases hb
  own _ hb := by cases hb
  liveMade _ hm := by cases hm
  dead _ hm := by cases hm
  distinct _ hm := by cases hm
  followed _ hm := by cases hm
  covered _ hb := by cases hb
  needed _ hi := by cases hi
  apart _ hm := by cases hm
  tagged _ _ hm := by cases hm
  shown b m hm := by
    have hfree : (none : Option MarkerId) = some m := hm
    cases hfree
  sole b c m hm := by
    have hfree : (none : Option MarkerId) = some m := hm
    cases hfree

end Margin

end Scriptorium
