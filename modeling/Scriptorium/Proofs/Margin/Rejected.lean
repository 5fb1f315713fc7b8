import Scriptorium.Proofs.Margin.Notified
import Scriptorium.Proofs.Session.Reparse

/-!
Diagnostics that are rejected. A finding gets its bookmark before it is known whether anything can
be tracked where it is, so that the bookmark of a finding with a negative part stays behind: stored,
shown by no marker and following no edit (`Orphan`). What was done before that is not undone.

As far as it goes, such a reconciling is like one with fewer diagnostics: those up to the rejected
finding, and those that a parse error accounts for already, which the first pass does not care about
the order of.
-/

namespace Scriptorium
set_option autoImplicit false

namespace Margin
variable {κ ω : Type}

/-- A stored bookmark on a stretch of text that no marker shows and that is not tracked. -/
structure Orphan (s : Margin κ ω) (b : BookmarkId) (x : Span) : Prop where
  stored : b ∈ s.stored
  span? : s.span? b = some x
  unshown : (s.bookmark b).marker = none
  untracked : ¬ s.tracker.IsTracked (s.bookmark b).anchor

section Error
variable {h : Reaction κ ω} {s t : Margin κ ω} {b : BookmarkId} {f : Finding} {e : Misplaced}

theorem createMarkerOver_error {i : SpanId} (he : s.createMarkerOver i = .error e) :
    i ∉ s.tracker.trackedSpans ∧ ¬ (s.tracker.span i).Valid ∧ e = .span (s.tracker.span i) := by
  unfold createMarkerOver at he
  split at he
  · rename_i e' hu
    cases he
    rcases Tracker.track_error hu with ⟨j, hj, -⟩ | ⟨j, hj, hout, hx, hf⟩
    · cases hj
    · obtain rfl := Anchor.span.inj hj
      exact ⟨hout, hx, hf⟩
  · cases he

/-- A parse error that cannot be shown stays as it is. -/
theorem markParseError_error (he : markParseError h s b = (t, .error e)) (hb : b ∈ s.stored)
    (hline : (s.bookmark b).anchor.line? = none) (hm : (s.bookmark b).marker = none) :
    t = s ∧ ∃ x, e = .span x ∧ ¬ x.Valid ∧ Orphan s b x := by
  cases ha : (s.bookmark b).anchor with
  | line i =>
    rw [ha] at hline
    cases hline
  | span i =>
    rw [markParseError_of_span ha] at he
    split at he
    · rename_i e' hu
      cases he
      obtain ⟨hout, hx, hf⟩ := createMarkerOver_error hu
      refine ⟨rfl, _, hf, hx, hb, ?_, hm, ?_⟩
      · rw [Margin.span?, ha]
        rfl
      · rw [ha]
        exact hout
    · cases he

theorem addParseErrors_error {fs : List Finding} (he : addParseErrors h fs s = (t, .error e)) :
    ∃ b x, e = .span x ∧ ¬ x.Valid ∧ Orphan t b x := by
  induction fs generalizing s with
  | nil => cases he
  | cons f fs ih =>
    rw [addParseErrors_cons] at he
    split at he
    · exact ih he
    · rename_i u e' hu
      cases he
      have hb : s.bookmarks.size ∈ (s.reported f).stored :=
        List.mem_append_right _ (List.mem_singleton_self _)
      obtain ⟨rfl, x, hx⟩ := markParseError_error hu hb
        (congrArg (fun x => x.anchor.line?) (s.bookmark_reported f))
        (congrArg Bookmark.marker (s.bookmark_reported f))
      exact ⟨_, x, hx⟩

variable [DecidableEq κ] (ha : Aloof h)
include ha

theorem stored_setStyle (s : Margin κ ω) (m : MarkerId) (p : StyleProperty) (v : Option String) :
    (setStyle h s m p v).stored = s.stored := by
  unfold setStyle
  split
  · rfl
  · exact (notifyMarkerRedraw_alike ha _ m).stored

theorem stored_markParseError (s : Margin κ ω) (b : BookmarkId) :
    (markParseError h s b).1.stored = s.stored := by
  cases hanchor : (s.bookmark b).anchor with
  | line i => rw [markParseError_of_line hanchor]
  | span i =>
    rw [markParseError_of_span hanchor]
    split
    · rfl
    · rename_i u m hu
      refine (stored_setStyle ha (u.paired b m _) m _ _).trans ?_
      unfold createMarkerOver at hu
      split at hu
      · cases hu
      · cases hu
        rfl

theorem stored_dropped (s : Margin κ ω) (b : BookmarkId) :
    (notifyChanged h (discard h s b) b true).stored = s.stored.filter (· ≠ b) := by
  rw [(notifyChanged_alike ha _ b true).stored, stored_discard ha]

theorem carries_markParseError (hknown : ∀ b ∈ s.stored, b < s.bookmarks.size)
    (hb : b < s.bookmarks.size) : s.ruling.Carries (markParseError h s b).1.ruling :=
  markParseError_keeps (ha.heeds_ruling _) hb (.refl hknown)

theorem carries_dropped (hknown : ∀ b ∈ s.stored, b < s.bookmarks.size)
    (hb : b < s.bookmarks.size) :
    s.ruling.Carries (notifyChanged h (discard h s b) b true).ruling := by
  have hst := stable_of_closed (Ruling.closed_carries s.ruling) (ha.heeds_ruling _)
  exact hst.changed b true (hst.discard s b hb (.refl hknown))

theorem keepParseErrors_error {bs : List BookmarkId} (hn : bs.Nodup)
    (hknown : ∀ b ∈ s.stored, b < s.bookmarks.size)
    (hbs : ∀ b ∈ bs, b ∈ s.stored ∧ (s.bookmark b).anchor.line? = none)
    {wanted : List Finding} {flag : Bool}
    (he : keepParseErrors h bs wanted flag s = (t, .error e)) :
    ∃ b x, e = .span x ∧ ¬ x.Valid ∧ Orphan t b x := by
  induction bs generalizing s wanted flag with
  | nil => cases he
  | cons b bs ih =>
    obtain ⟨hnew, hn⟩ := List.nodup_cons.mp hn
    obtain ⟨⟨hb, hline⟩, hrest⟩ := List.forall_mem_cons.mp hbs
    -- what is still to come stays where it is
    have hlater : ∀ {u : Margin κ ω}, s.ruling.Carries u.ruling → (∀ c ∈ bs, c ∈ u.stored) →
        ∀ c ∈ bs, c ∈ u.stored ∧ (u.bookmark c).anchor.line? = none := by
      intro u hu hstored c hc
      have hsame := hu.anchor c (hknown c (hrest c hc).1)
      exact ⟨hstored c hc, (congrArg Anchor.line? hsame).trans (hrest c hc).2⟩
    unfold keepParseErrors at he
    split at he
    · dsimp only at he
      split at he
      · rename_i hm
        split at he
        · rename_i u hu
          have hstored := stored_markParseError ha s b
          have hcarries := carries_markParseError ha hknown (hknown b hb)
          rw [hu] at hstored hcarries
          exact ih hn hcarries.known (hlater hcarries fun c hc => hstored ▸ (hrest c hc).1) he
        · rename_i u e' hu
          cases he
          obtain ⟨rfl, x, hx⟩ := markParseError_error hu hb hline hm
          exact ⟨b, x, hx⟩
      · exact ih hn hknown hrest he
    · have hcarries := carries_dropped ha hknown (hknown b hb)
      refine ih hn hcarries.known (hlater hcarries fun c hc => ?_) he
      rw [stored_dropped ha]
      exact List.mem_filter.mpr ⟨(hrest c hc).1, decide_eq_true fun heq => hnew (heq ▸ hc)⟩

/-- Whenever reconciling fails, it leaves an orphan, or it was not begun. -/
theorem replaceParseErrors_error (hs : Listed s) {ds : List Diagnostic}
    (he : replaceParseErrors h s ds = (t, .error e)) :
    (∃ b x, e = .span x ∧ ¬ x.Valid ∧ Orphan t b x) ∨
      e = .onLine ∧ s.HasLineError ∧ t = s := by
  by_cases hline : s.HasLineError
  · rw [replaceParseErrors_of_hasLineError hline] at he
    cases he
    exact .inr ⟨rfl, hline, rfl⟩
  have hleft := not_hasLineError_replaced ha hs.known hline ds
  rw [he] at hleft
  rw [replaceParseErrors_of_not_hasLineError hline, reconcile] at he
  refine .inl ?_
  split at he
  · rename_i u e' hu
    cases he
    refine keepParseErrors_error ha (nodup_bookmarksOf hs.nodup .parseError) hs.known
      (fun b hb => ?_) hu
    obtain ⟨hstored, hkind⟩ := mem_bookmarksOf.mp hb
    exact ⟨hstored, not_hasLineError_iff.mp hline b hstored hkind⟩
  · split at he
    · rename_i v e' hv
      cases he
      exact addParseErrors_error hv
    · obtain ⟨rfl, hanswer⟩ := Prod.mk.inj he
      rw [arranged_of_not_hasLineError hleft] at hanswer
      cases hanswer

end Error

section Told
variable {h : Reaction κ ω} {s : Margin κ ω}

/-- The first pass tells of those that it drops. -/
theorem keepParseErrors_told [DecidableEq κ] (ha : Aloof h) (bs : List BookmarkId)
    (wanted : List Finding) (flag : Bool) (s : Margin κ ω) :
    ∃ gone : List BookmarkId, gone.Sublist bs ∧
      (keepEvents h bs wanted s).filterMap Event.notice? = gone.map (.changed · true) ∧
      (keepParseErrors h bs wanted flag s).1.stored = s.stored.filter (· ∉ gone) := by
  have hnothing : s.stored = s.stored.filter (· ∉ ([] : List BookmarkId)) := by simp
  induction bs generalizing s wanted flag with
  | nil => exact ⟨[], .refl _, rfl, hnothing⟩
  | cons b bs ih =>
    unfold keepEvents keepParseErrors
    split
    · dsimp only
      split
      · have hstored := stored_markParseError ha s b
        rcases hr : markParseError h s b with ⟨t, e | ⟨⟩⟩
        · rw [hr] at hstored
          exact ⟨[], List.nil_sublist _, rfl, hstored.trans hnothing⟩
        · rw [hr] at hstored
          obtain ⟨gone, hsub, htold, hleft⟩ := ih (wanted.erase (s.findingOf b)) true t (by simp)
          exact ⟨gone, hsub.cons b, htold, hstored ▸ hleft⟩
      · obtain ⟨gone, hsub, htold, hleft⟩ := ih (wanted.erase (s.findingOf b)) flag s hnothing
        exact ⟨gone, hsub.cons b, htold, hleft⟩
    · obtain ⟨gone, hsub, htold, hleft⟩ :=
        ih wanted true (notifyChanged h (discard h s b) b true) (by simp)
      refine ⟨b :: gone, hsub.cons_cons b, ?_, ?_⟩
      · have hleaving : (s.leaving b).filterMap Event.notice? = [] := by
          unfold leaving
          split <;> rfl
        rw [List.filterMap_append, hleaving, List.nil_append, List.map_cons, ← htold]
        rfl
      · rw [hleft, stored_dropped ha, List.filter_filter]
        refine List.filter_congr fun c _ => ?_
        simp [Bool.and_comm]

/-- When the second pass fails, it has told of those that it took in before. -/
theorem addParseErrors_told [DecidableEq κ] (ha : Aloof h) {fs : List Finding} {t : Margin κ ω}
    {e : Misplaced} (he : addParseErrors h fs s = (t, .error e)) :
    ∃ (come : List BookmarkId) (b : BookmarkId), t.stored = s.stored ++ come ++ [b] ∧
      (reportEvents h fs s).filterMap Event.notice? = come.map (.changed · false) := by
  induction fs generalizing s with
  | nil => cases he
  | cons f fs ih =>
    have hstored := stored_markParseError ha (s.reported f) s.bookmarks.size
    rw [addParseErrors_cons] at he
    unfold reportEvents
    rcases hr : markParseError h (s.reported f) s.bookmarks.size with ⟨u, e' | ⟨⟩⟩
    · rw [hr] at he hstored
      cases he
      exact ⟨[], s.bookmarks.size, by simpa [reported] using hstored, rfl⟩
    · rw [hr] at he hstored
      obtain ⟨come, b, hleft, htold⟩ := ih he
      refine ⟨s.bookmarks.size :: come, b, ?_, ?_⟩
      · rw [hleft, (notifyChanged_alike ha u _ false).stored, hstored]
        simp [reported]
      · rw [List.map_cons, ← htold]
        rfl

end Told

/-- The diagnostics that are acted on when reconciling comes to an end after the findings in
`front`: theirs, and those that a parse error accounts for. -/
def heeded (s : Margin κ ω) (front : List Finding) (ds : List Diagnostic) : List Diagnostic :=
  ds.filter fun d => d.finding ∈ front ∨ ∃ b ∈ s.bookmarksOf .parseError, s.findingOf b = d.finding

section Rejected
variable {τ : Prop} {h : Reaction κ ω} {s t : Margin κ ω} {ds : List Diagnostic}
variable {front back : List Finding} {f : Finding}

theorem Woven.valid_findingOf (hw : Woven τ [] none s) {b : BookmarkId}
    (hb : b ∈ s.bookmarksOf .parseError) : (s.findingOf b).span.Valid := by
  obtain ⟨hstored, hkind⟩ := mem_bookmarksOf.mp hb
  have hknown := hw.known b hstored
  obtain ⟨i, hi⟩ := hw.kinds b hknown hkind
  have hspan : s.span? b = some (s.tracker.span i) := by
    rw [Margin.span?, hi]
    rfl
  rw [findingOf, hspan]
  exact (hw.made b hknown i hi).2

theorem Woven.lt_spans (hw : Woven τ [] none s) {i : SpanId} (hi : i ∈ s.tracker.trackedSpans) :
    i < s.tracker.spans.size := by
  rcases hw.needed i hi with ⟨b, hb, hanchor⟩ | ⟨m, hm, rfl⟩
  · exact (hw.made b (hw.known b hb) i hanchor).1
  · exact (hw.liveMade m hm).2

theorem addParseErrors_append (h : Reaction κ ω) (fs gs : List Finding) (s : Margin κ ω) :
    addParseErrors h (fs ++ gs) s = match addParseErrors h fs s with
      | (t, .ok ()) => addParseErrors h gs t
      | (t, .error e) => (t, .error e) := by
  induction fs generalizing s with
  | nil => rfl
  | cons f fs ih =>
    rw [List.cons_append, addParseErrors_cons, addParseErrors_cons]
    split
    · exact ih _
    · rfl

/-- The second pass stops at a finding with a negative part. -/
theorem addParseErrors_invalid (h : Reaction κ ω) (hw : Woven τ [] none s) (hf : ¬ f.span.Valid)
    (fs : List Finding) :
    addParseErrors h (f :: fs) s = (s.reported f, .error (.span f.span)) := by
  have hnew : ¬ (s.reported f).tracker.IsTracked (.span s.tracker.spans.size) :=
    fun hmem => Nat.lt_irrefl _ (hw.lt_spans hmem)
  have htrack : (s.reported f).tracker.track (.span s.tracker.spans.size) =
      .error (.span f.span) := by
    rw [Tracker.track, if_neg hnew, s.span_reported f, if_neg hf]
  rw [addParseErrors_cons,
    markParseError_of_span (congrArg Bookmark.anchor (s.bookmark_reported f)), createMarkerOver,
    htrack]

theorem orphan_reported (hw : Woven τ [] none s) (f : Finding) :
    Orphan (s.reported f) s.bookmarks.size f.span := by
  have hbookmark := s.bookmark_reported f
  refine ⟨List.mem_append_right _ (List.mem_singleton_self _), ?_, ?_, ?_⟩
  · rw [Margin.span?, hbookmark]
    exact congrArg some (s.span_reported f)
  · rw [hbookmark]
  · rw [hbookmark]
    exact fun hmem => Nat.lt_irrefl _ (hw.lt_spans hmem)

omit τ in
/-- With the heeded diagnostics the first pass keeps the same parse errors, and it leaves over what
it left over of the findings before the rejected one. -/
theorem sift_heeded (hds : findings ds = front ++ f :: back) :
    sift s.findingOf (s.bookmarksOf .parseError) (findings (s.heeded front ds)) =
      ((sift s.findingOf (s.bookmarksOf .parseError) (findings ds)).1,
        front.filter fun g => ∀ b ∈ s.bookmarksOf .parseError, s.findingOf b ≠ g) := by
  have hnodup := nodup_findings ds
  have hheeded : findings (s.heeded front ds) = (findings ds).filter fun g =>
      g ∈ front ∨ ∃ b ∈ s.bookmarksOf .parseError, s.findingOf b = g :=
    findings_filter
      (fun g => decide (g ∈ front ∨ ∃ b ∈ s.bookmarksOf .parseError, s.findingOf b = g)) ds
  refine Prod.ext ?_ ?_
  · refine kept_sift_congr (nodup_findings _) hnodup fun b hb => ?_
    rw [hheeded, List.mem_filter, decide_eq_true_eq]
    exact ⟨And.left, fun hmem => ⟨hmem, .inr ⟨b, hb, rfl⟩⟩⟩
  · rw [hds] at hnodup hheeded
    have hapart : ∀ g ∈ f :: back, g ∉ front :=
      fun g hg hfront => (List.nodup_append.mp hnodup).2.2 g hfront g hg rfl
    rw [left_sift (nodup_findings _), hheeded, List.filter_filter, List.filter_append]
    have hrest : (f :: back).filter (fun g =>
        decide (∀ b ∈ s.bookmarksOf .parseError, s.findingOf b ≠ g) &&
          decide (g ∈ front ∨ ∃ b ∈ s.bookmarksOf .parseError, s.findingOf b = g)) = [] := by
      refine List.filter_eq_nil_iff.mpr fun g hg hboth => ?_
      rw [Bool.and_eq_true, decide_eq_true_eq, decide_eq_true_eq] at hboth
      obtain ⟨hfree, hfront | ⟨b, hb, hfinding⟩⟩ := hboth
      · exact hapart g hg hfront
      · exact hfree b hb hfinding
    rw [hrest, List.append_nil]
    refine List.filter_congr fun g hg => ?_
    rw [decide_eq_true (Or.inl hg), Bool.and_true]

/-- What reconciling comes to when it fails at the finding `f`, after the findings in `front`: what
it comes to with the heeded diagnostics, which is `t`, but for the orphan and for the redraw. It
tells of the parse errors that went and of those that came before the orphan. -/
structure Rejected [DecidableEq κ] (h : Reaction κ ω) (ds : List Diagnostic) (front : List Finding)
    (f : Finding) (s t : Margin κ ω) : Prop where
  fails : replaceParseErrors h s ds = (t.reported f, .error (.span f.span))
  fresh : t.bookmarks.size ∉ s.stored
  orphan : Orphan (t.reported f) t.bookmarks.size f.span
  reconciled : Reconciled (s.heeded front ds) s t
  told : ∃ gone come : List BookmarkId, gone.Sublist (s.bookmarksOf .parseError) ∧
    t.stored = s.stored.filter (· ∉ gone) ++ come ∧
    ∀ (k : κ) (heard : ω → List Sighting), Attends h k heard →
      s.changed.listeners.count k = 1 → s.redraw.listeners.count k = 1 →
      ∃ l, heard (t.reported f).shared = heard s.shared ++ l ∧
        news l = gone.map (.changed · true) ++ come.map (.changed · false)

theorem replaceParseErrors_rejected [DecidableEq κ] (ha : Aloof h) (hw : Woven τ [] none s)
    (hds : findings ds = front ++ f :: back) (hfront : ∀ g ∈ front, g.span.Valid)
    (hf : ¬ f.span.Valid) : ∃ t, Rejected h ds front f s t := by
  obtain ⟨u, changed, hkeep, hu, hsifted⟩ := keepParseErrors_sifted ha
    (nodup_bookmarksOf hw.storedOnce .parseError) (fun b hb => mem_bookmarksOf.mp hb)
    (findings ds) false hw
  let free := fun g => decide (∀ b ∈ s.bookmarksOf .parseError, s.findingOf b ≠ g)
  have hfree : free f = true := by
    refine decide_eq_true fun b hb heq => hf ?_
    exact heq ▸ hw.valid_findingOf hb
  have hleft : (sift s.findingOf (s.bookmarksOf .parseError) (findings ds)).2 =
      front.filter free ++ f :: back.filter free := by
    rw [left_sift (nodup_findings ds), hds, List.filter_append, List.filter_cons_of_pos hfree]
  rw [hleft] at hkeep
  -- the findings before `f` get their bookmarks, and then the second pass stops
  have hvalid : ∀ g ∈ front.filter free, g.span.Valid :=
    fun g hg => hfront g (List.mem_filter.mp hg).1
  obtain ⟨v, new, hadd, hv, hreported⟩ := addParseErrors_reported ha hvalid hu
  have hstop : addParseErrors h (front.filter free ++ f :: back.filter free) u =
      (v.reported f, .error (.span f.span)) := by
    rw [addParseErrors_append, hadd]
    exact addParseErrors_invalid h hv hf _
  have hfails : replaceParseErrors h s ds = (v.reported f, .error (.span f.span)) := by
    rw [replaceParseErrors_of_not_hasLineError hw.not_hasLineError, reconcile, hkeep]
    dsimp only
    rw [hstop]
  have hpasses : Passes (s.heeded front ds) s u v _ new (front.filter free) :=
    ⟨sift_heeded hds, hsifted, hreported⟩
  refine ⟨v, hfails, ?_, orphan_reported hv f, hpasses.reconciled hw hv, ?_⟩
  · exact fun hmem => Nat.not_lt.mpr hpasses.spares.bookmarkBound (hw.known _ hmem)
  · obtain ⟨gone, hsub, hdropped, hstored⟩ := keepParseErrors_told ha (s.bookmarksOf .parseError)
      (findings ds) false s
    obtain ⟨come, b, hcome, hannounced⟩ := addParseErrors_told ha hstop
    rw [hkeep] at hstored
    have hboth : v.stored ++ [v.bookmarks.size] = u.stored ++ come ++ [b] := hcome
    have hnotices : (replaceEvents h s ds).filterMap Event.notice? =
        gone.map (.changed · true) ++ come.map (.changed · false) := by
      rw [replaceEvents, if_neg hw.not_hasLineError, hkeep]
      dsimp only [missingEvents]
      rw [hstop, List.append_nil, List.filterMap_append, hdropped, hannounced]
    refine ⟨gone, come, hsub, ?_, fun k heard hrec hchanged hredraw => ?_⟩
    · rw [(List.append_inj' hboth rfl).1, hstored]
    · obtain ⟨-, -, l, hl, hnews⟩ :=
        hears_course hrec (course_replaceParseErrors ds) hchanged hredraw
      rw [hfails] at hl
      exact ⟨l, hl, hnews.trans hnotices⟩

/-- Whatever happened before, reconciling leaves an orphan whenever it fails, unless a parse error is
on a line and it is not even begun. If no anchor is shared and no diagnostic was rejected before, it
fails just if a finding has a negative part, at the first of these. -/
theorem rejected_of_run [DecidableEq κ] {g : Reaction κ ω} (hg : Lawful Command.Made g)
    {lineCount : Option Int} {w : ω} (hr : Run Command.Made Aside g (empty lineCount w) s)
    (ha : Aloof h) (ds : List Diagnostic) :
    (∀ t e, replaceParseErrors h s ds = (t, .error e) →
      (∃ b x, e = .span x ∧ ¬ x.Valid ∧ Orphan t b x) ∨
        e = .onLine ∧ s.HasLineError ∧ t = s) ∧
    (Aloof g → Run Command.Proper Aside g (empty lineCount w) s →
      (∀ b x, ¬ Orphan s b x) ∧
      ((∀ d ∈ ds, d.finding.span.Valid) →
        ∃ t, replaceParseErrors h s ds = (t, .ok (t.bookmarksOf .parseError)) ∧
          Reconciled ds s t) ∧
      ∀ front f back, findings ds = front ++ f :: back → (∀ g ∈ front, g.span.Valid) →
        ¬ f.span.Valid → ∃ t, Rejected h ds front f s t) := by
  refine ⟨fun t e => replaceParseErrors_error ha (listed_of_run hg hr), ?_⟩
  intro haloof hproper
  have hw := woven_of_proper_run haloof (run_mono (fun _ _ => id) (fun _ _ => .aside) hproper)
  refine ⟨?_, fun hds => ?_, fun front f back => replaceParseErrors_rejected ha hw⟩
  · intro b x horphan
    obtain ⟨hstored, hspan, -, hloose⟩ := horphan
    cases hanchor : (s.bookmark b).anchor with
    | line i =>
      rw [Margin.span?, hanchor] at hspan
      cases hspan
    | span i =>
      rw [hanchor] at hloose
      exact hloose (hw.tracks hstored hanchor)
  · obtain ⟨t, ht, -, hreconciled⟩ := replaceParseErrors_reconciled ha hds hw
    exact ⟨t, ht, hreconciled⟩

end Rejected

/-- A parse error, while one listener hears of every bookmark and of every redraw. -/
def troubled : Margin Bool (List Sighting) :=
  performAll scribe (((empty none []).subscribe true .changed).subscribe true .redraw)
    [.replaceParseErrors [⟨3, 1, 1, "E1"⟩]]

theorem run_troubled : Run Command.Proper Aside scribe (empty none []) troubled := by
  refine .head (.aside (.subscribe _ true .changed trivial)) ?_
  refine .head (.aside (.subscribe _ true .redraw trivial)) ?_
  refine run_performAll_cons ?_ .refl
  simp [Command.Proper, Command.Regular, Diagnostic.finding, Span.Valid]

/-- The second of these cannot stand where it is reported, the third is not reached, and the last is
there already. -/
def garbled : List Diagnostic :=
  [⟨1, 1, 1, "E3"⟩, ⟨-1, 1, 1, "E4"⟩, ⟨5, 1, 1, "E5"⟩, ⟨3, 1, 1, "E1"⟩]

theorem rejected_of_run_troubled :
    Run Command.Proper Aside scribe (empty none []) troubled ∧
    ((∃ b x, Misplaced.span ⟨-1, 1⟩ = .span x ∧ ¬ x.Valid ∧
        Orphan (replaceParseErrors scribe troubled garbled).1 b x) ∨
      Misplaced.span ⟨-1, 1⟩ = .onLine ∧ troubled.HasLineError ∧
        (replaceParseErrors scribe troubled garbled).1 = troubled) ∧
    troubled.heeded [⟨⟨1, 1⟩, "E3"⟩] garbled = [⟨1, 1, 1, "E3"⟩, ⟨3, 1, 1, "E1"⟩] ∧
    ∃ t, Rejected scribe garbled [⟨⟨1, 1⟩, "E3"⟩] ⟨⟨-1, 1⟩, "E4"⟩ troubled t := by
  have hmade : Run Command.Made Aside scribe (empty none []) troubled := by
    refine run_mono (fun t c hc => ?_) (fun _ _ => id) run_troubled
    cases c with
    | add b => exact hc
    | _ => trivial
  obtain ⟨herror, hproper⟩ :=
    rejected_of_run (.aloof records_scribe.aloof) hmade records_scribe.aloof garbled
  obtain ⟨-, -, hrejected⟩ := hproper records_scribe.aloof run_troubled
  have hfails : (replaceParseErrors scribe troubled garbled).2 = .error (.span ⟨-1, 1⟩) := by
    decide +kernel
  refine ⟨run_troubled, herror _ _ (Prod.ext rfl hfails), by decide +kernel, ?_⟩
  exact hrejected _ _ [⟨⟨5, 1⟩, "E5"⟩, ⟨⟨3, 1⟩, "E1"⟩] (by decide +kernel) (by decide) (by decide)

/-- The old parse error goes with its marker, and a bookmark that nothing tracks comes. -/
theorem store_corrupted_troubled :
    Run Command.Proper Aside scribe (empty none []) troubled ∧
    (replaceParseErrors scribe troubled [⟨-1, 1, 1, "E4"⟩]).2 = .error (.span ⟨-1, 1⟩) ∧
    troubled.stored = [0] ∧ troubled.live = [0] ∧ troubled.tracker.trackedSpans = [0] ∧
    (replaceParseErrors scribe troubled [⟨-1, 1, 1, "E4"⟩]).1.stored = [1] ∧
    (replaceParseErrors scribe troubled [⟨-1, 1, 1, "E4"⟩]).1.live = [] ∧
    (replaceParseErrors scribe troubled [⟨-1, 1, 1, "E4"⟩]).1.tracker.trackedSpans = [] ∧
    (replaceParseErrors scribe troubled [⟨-1, 1, 1, "E4"⟩]).1.shared =
      troubled.shared ++ [⟨.changed 0 true, []⟩] := by
  refine ⟨run_troubled, ?_⟩
  decide +kernel

end Margin

end Scriptorium
