import Mathlib.Logic.Function.Basic
import Scriptorium.Proofs.Margin.Stable

/-!
The ruling: what of the margin concerns whole lines. Markers, spans and notices are left out, and
what remains changes in five ways only. A bookmark is made, on a line or on a span; it enters; it
leaves; its anchor is followed again when its marker is lost; and an edit moves the lines.

`Closed` asks that an invariant of rulings survives the first four. Every command other than an
edit of whole lines then keeps it (`perform_keeps`), whatever lawful listeners do meanwhile.
-/

namespace Scriptorium
set_option autoImplicit false

structure Ruling where
  lines : Registry Int
  tracked : List LineId
  stored : List BookmarkId
  size : Nat
  kind : BookmarkId → Kind
  anchor : BookmarkId → Anchor

namespace Ruling

def lineNumber? (r : Ruling) (b : BookmarkId) : Option Int := (r.anchor b).line?.map r.lines.get

def pushLine (r : Ruling) (kind : Kind) (line : Int) : Ruling :=
  { r with
    lines := (r.lines.push line).1
    size := r.size + 1
    kind := Function.update r.kind r.size kind
    anchor := Function.update r.anchor r.size (.line r.lines.size) }

def pushSpan (r : Ruling) (kind : Kind) (i : SpanId) : Ruling :=
  { r with
    size := r.size + 1
    kind := Function.update r.kind r.size kind
    anchor := Function.update r.anchor r.size (.span i) }

/-- The anchor of the bookmark is tracked from now on. -/
def follow (r : Ruling) (b : BookmarkId) : Ruling :=
  match r.anchor b with
  | .line i => if i ∈ r.tracked then r else { r with tracked := r.tracked ++ [i] }
  | .span _ => r

def enter (r : Ruling) (b : BookmarkId) : Ruling :=
  { r.follow b with stored := r.stored ++ [b] }

def leave (r : Ruling) (b : BookmarkId) : Ruling :=
  { r with
    stored := r.stored.filter (· ≠ b)
    tracked := match r.anchor b with
      | .line i => r.tracked.erase i
      | .span _ => r.tracked }

/-- Whether the anchor can be tracked where it stands. -/
def Placed (r : Ruling) (b : BookmarkId) : Prop :=
  ∀ i, r.anchor b = .line i → i ∈ r.tracked ∨ 1 ≤ r.lines.get i

/-- What is known of a bookmark that is not refused. -/
def Admits (r : Ruling) (b : BookmarkId) : Prop :=
  (r.kind b).OnLine → ∃ i, r.anchor b = .line i ∧ 1 ≤ r.lines.get i ∧
    (r.kind b = .breakpoint →
      ∀ c ∈ r.stored, r.kind c = .breakpoint → r.lineNumber? c ≠ r.lineNumber? b)

/-- An invariant of rulings that survives all but the edits of lines. -/
structure Closed (K : BookmarkId → Prop) (L : Int → Prop) (I : Ruling → Prop) : Prop where
  known : ∀ r, I r → ∀ b ∈ r.stored, b < r.size
  kept : ∀ r b, K b → I r → b < r.size
  pushLine : ∀ r kind line, I r → I (r.pushLine kind line)
  pushSpan : ∀ r kind i, I r → I (r.pushSpan kind i)
  follow : ∀ r b, b ∈ r.stored → r.Placed b → I r → I (r.follow b)
  enter : ∀ r b, b ∉ r.stored → b < r.size → r.Admits b → r.Placed b →
    (∀ line, r.lineNumber? b = some line → L line) → I r → I (r.enter b)
  leave : ∀ r b, K b → I r → I (r.leave b)

end Ruling

namespace Margin
variable {κ ω : Type}

def ruling (s : Margin κ ω) : Ruling where
  lines := s.tracker.lines
  tracked := s.tracker.trackedLines
  stored := s.stored
  size := s.bookmarks.size
  kind b := (s.bookmark b).kind
  anchor b := (s.bookmark b).anchor

@[simp] theorem ruling_log (s : Margin κ ω) (e : Entry) : (s.log e).ruling = s.ruling := rfl

@[simp] theorem ruling_modifyMarker (s : Margin κ ω) (m : MarkerId) (f : Marker κ → Marker κ) :
    (s.modifyMarker m f).ruling = s.ruling := rfl

@[simp] theorem ruling_watch (s : Margin κ ω) (b : BookmarkId) (m : MarkerId) :
    (s.watch b m).ruling = s.ruling := rfl

theorem ruling_setMarker (s : Margin κ ω) {b : BookmarkId} (hb : b < s.bookmarks.size)
    (m : Option MarkerId) :
    (s.modifyBookmark b fun x => { x with marker := m }).ruling = s.ruling := by
  have hsize : (s.modifyBookmark b fun x => { x with marker := m }).bookmarks.size =
      s.bookmarks.size := Registry.size_modify_of_lt _ hb _
  simp only [ruling, hsize, kind_setMarker, anchor_setMarker]
  rfl

theorem ruling_push (s : Margin κ ω) (t : Tracker) (x : Bookmark) :
    { s with tracker := t, bookmarks := (s.bookmarks.push x).1 }.ruling =
      { s.ruling with
        lines := t.lines
        tracked := t.trackedLines
        size := s.bookmarks.size + 1
        kind := Function.update s.ruling.kind s.bookmarks.size x.kind
        anchor := Function.update s.ruling.anchor s.bookmarks.size x.anchor } := by
  simp only [ruling, bookmark, Registry.size_push]
  congr 1
  · funext b
    rw [Registry.get_push, Function.update_apply]
    split <;> rfl
  · funext b
    rw [Registry.get_push, Function.update_apply]
    split <;> rfl

theorem ruling_newBookmark_line (s : Margin κ ω) (kind : Kind) (line : Int) (message : String)
    (marker : Option MarkerId) :
    (s.newBookmark kind (.line line) message marker).1.ruling = s.ruling.pushLine kind line := by
  rw [newBookmark_line, ruling_push]
  rfl

theorem ruling_newBookmark_span (s : Margin κ ω) (kind : Kind) (x : Span) (message : String)
    (marker : Option MarkerId) :
    (s.newBookmark kind (.span x) message marker).1.ruling =
      s.ruling.pushSpan kind s.tracker.spans.size := by
  rw [newBookmark_span, ruling_push]
  rfl

theorem ruling_newBookmark_marker (s : Margin κ ω) (kind : Kind) (m : MarkerId) (message : String)
    (marker : Option MarkerId) :
    (s.newBookmark kind (.marker m) message marker).1.ruling =
      s.ruling.pushSpan kind (s.marker m).span := by
  rw [newBookmark_marker, ruling_push]
  rfl

theorem lines_of_track_span {t u : Tracker} {i : SpanId} (ht : t.track (.span i) = .ok u) :
    u.lines = t.lines ∧ u.trackedLines = t.trackedLines := by
  rcases Tracker.track_cases ht with ⟨_, rfl⟩ | ⟨j, hj, _⟩ | ⟨j, _, _, _, rfl⟩
  · exact ⟨rfl, rfl⟩
  · cases hj
  · exact ⟨rfl, rfl⟩

theorem ruling_track {s : Margin κ ω} {b : BookmarkId} {t : Tracker}
    (ht : s.tracker.track (s.bookmark b).anchor = .ok t) :
    s.ruling.Placed b ∧ { s with tracker := t }.ruling = s.ruling.follow b := by
  rcases Tracker.track_cases ht with ⟨hi, rfl⟩ | ⟨i, ha, hi, hl, rfl⟩ | ⟨i, ha, _, _, rfl⟩
  · have hline : ∀ i, s.ruling.anchor b = .line i → i ∈ s.ruling.tracked := by
      intro i ha
      have ha' : (s.bookmark b).anchor = .line i := ha
      rwa [ha'] at hi
    refine ⟨fun i ha => .inl (hline i ha), ?_⟩
    unfold Ruling.follow
    split
    · rename_i i ha
      rw [if_pos (hline i ha)]
    · rfl
  · refine ⟨?_, ?_⟩
    · intro j hj
      have : i = j := by simpa [ruling, ha] using hj
      exact .inr (this ▸ hl)
    · simp [Ruling.follow, ruling, bookmark, hi, show (s.bookmarks.get b).anchor = .line i from ha]
  · refine ⟨?_, ?_⟩
    · intro j hj
      simp [ruling, ha] at hj
    · simp [Ruling.follow, ruling, bookmark, show (s.bookmarks.get b).anchor = .span i from ha]

theorem ruling_insertCharacters (s : Margin κ ω) (start count : Int) :
    { s with tracker := (s.tracker.insertCharacters start count).1 }.ruling = s.ruling := by
  unfold Tracker.insertCharacters
  split <;> rfl

theorem ruling_deleteCharacters (s : Margin κ ω) (start count : Int) :
    { s with tracker := (s.tracker.deleteCharacters start count).1 }.ruling = s.ruling := by
  unfold Tracker.deleteCharacters
  split <;> rfl

theorem ruling_aside [DecidableEq κ] {s t : Margin κ ω} (ha : Aside s t) : t.ruling = s.ruling := by
  cases ha with
  | share => rfl
  | subscribe k c => cases c <;> rfl
  | unsubscribe k c => cases c <;> rfl

theorem ruling_createMarkerOver {s t : Margin κ ω} {i : SpanId} {m : MarkerId}
    (ht : s.createMarkerOver i = .ok (t, m)) : t.ruling = s.ruling := by
  unfold createMarkerOver at ht
  split at ht
  · cases ht
  · rename_i u hu
    cases ht
    obtain ⟨hl, htr⟩ := lines_of_track_span hu
    simp only [ruling, hl, htr]
    rfl

theorem ruling_createMarker {s t : Margin κ ω} {x : Span} {m : MarkerId}
    (ht : s.createMarker x = .ok (t, m)) : t.ruling = s.ruling := by
  unfold createMarker Tracker.trackSpan at ht
  cases hu : (s.tracker.newSpan x).1.track (.span (s.tracker.newSpan x).2) with
  | error e => simp [hu, bind, Except.bind] at ht
  | ok u =>
    simp only [hu, bind, Except.bind, pure, Except.pure] at ht
    rw [ruling_createMarkerOver ht]
    obtain ⟨hl, htr⟩ := lines_of_track_span hu
    simp only [ruling, hl, htr]
    rfl

theorem ruling_release (s : Margin κ ω) (b : BookmarkId) (m : MarkerId) :
    (s.release b m).1.ruling = s.ruling ∨
    (b ∈ s.stored ∧ s.ruling.Placed b ∧ (s.release b m).1.ruling = s.ruling.follow b) := by
  unfold release
  split
  · rename_i hm
    have hset := s.ruling_setMarker (lt_size_of_marker hm) none
    dsimp only
    split
    · rename_i hb
      split
      · rename_i t ht
        obtain ⟨hp, hf⟩ := ruling_track ht
        rw [hset] at hp hf
        exact .inr ⟨hb, hp, hf⟩
      · exact .inl hset
    · exact .inl hset
  · exact .inl rfl

theorem ruling_without (s : Margin κ ω) {b : BookmarkId} (hb : b < s.bookmarks.size) :
    (s.without b).ruling = s.ruling.leave b := by
  refine (ruling_setMarker _ ?_ none).trans ?_
  · exact hb
  · unfold ruling Ruling.leave Tracker.untrack
    cases ha : (s.bookmark b).anchor with
    | line i => simp [bookmark, show (s.bookmarks.get b).anchor = .line i from ha]
    | span i => simp [bookmark, show (s.bookmarks.get b).anchor = .span i from ha]

theorem ruling_taken {s : Margin κ ω} {b : BookmarkId} {t : Tracker}
    (ht : { s with tracker := t }.ruling = s.ruling.follow b) :
    (s.taken b t).ruling = s.ruling.enter b := by
  unfold taken Ruling.enter
  rw [← ht]
  dsimp only
  split <;> rfl

theorem anchor_of_lineNumber {s : Margin κ ω} {b : BookmarkId} {line : Int}
    (hl : s.lineNumber? b = some line) :
    ∃ i, (s.bookmark b).anchor = .line i ∧ s.tracker.line i = line := by
  unfold lineNumber? at hl
  cases ha : (s.bookmark b).anchor with
  | line i => exact ⟨i, rfl, by simpa [ha, Anchor.line?] using hl⟩
  | span i => simp [ha, Anchor.line?] at hl

theorem ruling_paired (s : Margin κ ω) {b : BookmarkId} (hb : b < s.bookmarks.size)
    (m : MarkerId) (tooltip : Label → Label) : (s.paired b m tooltip).ruling = s.ruling :=
  (ruling_setMarker _ hb _).trans rfl

theorem ruling_reported (s : Margin κ ω) (f : Finding) :
    (s.reported f).ruling =
      (s.ruling.pushSpan .parseError s.tracker.spans.size).enter s.bookmarks.size := by
  have hpush := s.ruling_newBookmark_span .parseError f.span f.message none
  unfold Ruling.enter
  rw [← hpush]
  simp [Ruling.follow, reported, ruling, newBookmark_span, bookmark,
    Registry.get_push]

/-- Whether the command moves no line, and puts bookmarks that were made on lines in `L` only. -/
def Command.Places (L : Int → Prop) (s : Margin κ ω) : Command → Prop
  | .add b => b < s.bookmarks.size ∧ ∀ line, s.lineNumber? b = some line → L line
  | .toggleBreakpoint line | .setDebugPoint line => L line
  | .linesInserted _ _ | .linesDeleted _ _ => False
  | _ => True

section Closed
variable {h : Reaction κ ω} {K : BookmarkId → Prop} {L : Int → Prop} {I : Ruling → Prop}
variable (hI : Ruling.Closed K L I) (hn : Heeds h fun s => I s.ruling) {s : Margin κ ω}
include hI hn

theorem removeMarker_keeps (m : MarkerId) (hs : I s.ruling) : I (removeMarker h s m).1.ruling := by
  unfold removeMarker
  split
  · refine notifyDeleted_keeps hn (fun _ _ => id) m ?_ ?_
    · intro t b ht
      rcases ruling_release t b m with he | ⟨hb, hp, he⟩
      · rwa [he]
      · rw [he]
        exact hI.follow _ b hb hp ht
    · exact notifyMarkerRedraw_keeps hn (fun _ _ => id) m hs
  · exact hs

theorem discard_keeps {b : BookmarkId} (hb : b < s.bookmarks.size) (hs : I (s.ruling.leave b)) :
    I (discard h s b).ruling := by
  rw [discard_eq]
  split
  · apply removeMarker_keeps hI hn
    rwa [ruling_without s hb]
  · rwa [ruling_without s hb]

omit hn in
theorem taken_keeps {b : BookmarkId} {t : Tracker} (hnew : b ∉ s.stored)
    (hb : b < s.bookmarks.size) (hr : s.refusal? b = none)
    (ht : s.tracker.track (s.bookmark b).anchor = .ok t)
    (hL : ∀ line, s.lineNumber? b = some line → L line) (hs : I s.ruling) :
    I (s.taken b t).ruling := by
  obtain ⟨hplaced, hfollow⟩ := ruling_track ht
  rw [ruling_taken hfollow]
  refine hI.enter _ b hnew hb ?_ hplaced hL hs
  intro hk
  obtain ⟨line, hline, hrange, hfree⟩ := admitted_of_refusal hr hk
  obtain ⟨i, ha, hi⟩ := anchor_of_lineNumber hline
  refine ⟨i, ha, ?_, ?_⟩
  · have hone : 1 ≤ s.tracker.line i := hi ▸ hrange.1
    exact hone
  · intro hbreak c hc hcb hcl
    exact hfree hbreak c hc ⟨hcb, hcl.trans hline⟩

theorem stable_of_closed : Stable h K L fun s => I s.ruling where
  heeds := hn
  log _ _ := id
  allocate s kind line _ hs := by
    rw [ruling_newBookmark_line]
    exact hI.pushLine _ kind line hs
  take _ _ _ hnew hb hr ht hL hs := taken_keeps hI hnew hb hr ht hL hs
  discard s b hb hs := discard_keeps hI hn (hI.kept _ b hb hs) (hI.leave _ b hb hs)

omit hI in
theorem setStyle_keeps (m : MarkerId) (p : StyleProperty) (v : Option String) (hs : I s.ruling) :
    I (setStyle h s m p v).ruling := by
  unfold setStyle
  split
  · exact hs
  · exact notifyMarkerRedraw_keeps hn (fun _ _ => id) m hs

theorem attachMarker_keeps {b : BookmarkId} (hK : ∀ b ∈ s.stored, K b) (x : Span)
    (hs : I s.ruling) : I (attachMarker h s b x).1.ruling := by
  have hunmarked : I (unmarked h s b).ruling := by
    unfold unmarked
    split
    · exact removeMarker_keeps hI hn _ hs
    · exact hs
  rcases attachMarker_cases h s b x with he | ⟨_, he⟩ | ⟨hb, u, m, kind, hu, he⟩
  · rwa [he]
  · rwa [he]
  · rw [he]
    have hsame := ruling_createMarker hu
    rw [← hsame] at hunmarked
    have hbu : b < u.bookmarks.size := hI.kept u.ruling b (hK b hb) hunmarked
    apply setStyle_keeps hn
    rw [ruling_watch, ruling_paired u hbu]
    exact hunmarked

omit hI in
theorem markParseError_keeps {b : BookmarkId} (hb : b < s.bookmarks.size) (hs : I s.ruling) :
    I (markParseError h s b).1.ruling := by
  cases ha : (s.bookmark b).anchor with
  | line i => rwa [markParseError_of_line ha]
  | span i =>
    rw [markParseError_of_span ha]
    split
    · exact hs
    · rename_i u m hu
      have hsame := ruling_createMarkerOver hu
      have hsize : u.bookmarks.size = s.bookmarks.size := congrArg Ruling.size hsame
      rw [ruling_watch]
      apply setStyle_keeps hn
      rw [ruling_paired u (hsize ▸ hb), hsame]
      exact hs

theorem keepParseErrors_keeps {bs : List BookmarkId} (hbs : ∀ b ∈ bs, K b) (wanted : List Finding)
    (flag : Bool) (hs : I s.ruling) : I (keepParseErrors h bs wanted flag s).1.ruling := by
  have hst := stable_of_closed hI hn
  have hrest : ∀ {b : BookmarkId} {bs : List BookmarkId}, (∀ c ∈ b :: bs, K c) → ∀ c ∈ bs, K c :=
    fun hK c hc => hK c (List.mem_cons_of_mem _ hc)
  refine (keepParseErrors_induction (I := fun bs t => (∀ b ∈ bs, K b) ∧ I t.ruling) ?_ ?_ ?_
    wanted flag ⟨hbs, hs⟩).2
  · exact fun b bs t ht => ⟨hrest ht.1, ht.2⟩
  · intro b bs t _ ht
    have hb := hI.kept _ b (ht.1 b List.mem_cons_self) ht.2
    exact ⟨hrest ht.1, markParseError_keeps hn hb ht.2⟩
  · intro b bs t ht
    have hgone := hst.discard t b (ht.1 b List.mem_cons_self) ht.2
    exact ⟨hrest ht.1, hst.changed b true hgone⟩

omit hn in
theorem reported_keeps (f : Finding) (hs : I s.ruling) : I (s.reported f).ruling := by
  rw [ruling_reported]
  have hanchor : (s.ruling.pushSpan .parseError s.tracker.spans.size).anchor s.bookmarks.size =
      .span s.tracker.spans.size := by
    simp [Ruling.pushSpan, ruling]
  apply hI.enter _ _ _ _ _ _ _ (hI.pushSpan _ _ _ hs)
  · intro hmem
    exact Nat.lt_irrefl _ (hI.known _ hs _ hmem)
  · exact Nat.lt_succ_self _
  · intro hk
    exact absurd (by simp [Ruling.pushSpan, ruling]) hk
  · intro i hi
    simp [hanchor] at hi
  · intro line hline
    simp [Ruling.lineNumber?, hanchor, Anchor.line?] at hline

theorem addParseErrors_keeps (fs : List Finding) (hs : I s.ruling) :
    I (addParseErrors h fs s).1.ruling := by
  induction fs generalizing s with
  | nil => exact hs
  | cons f fs ih =>
    have hb : s.bookmarks.size < (s.reported f).bookmarks.size := by
      simp [reported, newBookmark_span]
    have hm := markParseError_keeps hn hb (reported_keeps hI f hs)
    rw [addParseErrors_cons]
    split
    · rename_i t ht
      rw [ht] at hm
      exact ih ((stable_of_closed hI hn).changed _ _ hm)
    · rename_i t e ht
      rw [ht] at hm
      exact hm

theorem replaceParseErrors_keeps (hK : ∀ b ∈ s.stored, K b) (ds : List Diagnostic)
    (hs : I s.ruling) : I (replaceParseErrors h s ds).1.ruling := by
  have hbs : ∀ b ∈ s.bookmarksOf .parseError, K b := fun b hb => hK b (mem_bookmarksOf.mp hb).1
  refine replaceParseErrors_induction (I := fun t => I t.ruling) hs ?_ ?_ ?_
  · exact keepParseErrors_keeps hI hn hbs _ _ hs
  · exact fun fs t _ _ _ ht => addParseErrors_keeps hI hn fs ht
  · exact fun t ht => (stable_of_closed hI hn).redraw ht

omit hn in
theorem newBookmark_keeps (kind : Kind) (place : Place) (message : String)
    (marker : Option MarkerId) (hs : I s.ruling) :
    I (s.newBookmark kind place message marker).1.ruling := by
  cases place with
  | line l =>
    rw [ruling_newBookmark_line]
    exact hI.pushLine _ _ _ hs
  | span x =>
    rw [ruling_newBookmark_span]
    exact hI.pushSpan _ _ _ hs
  | marker m =>
    rw [ruling_newBookmark_marker]
    exact hI.pushSpan _ _ _ hs

theorem charactersInserted_keeps (start count : Int) (hs : I s.ruling) :
    I (charactersInserted h s start count).ruling := by
  have hmoved : I ({ s with tracker := (s.tracker.insertCharacters start count).1 }).ruling := by
    rwa [ruling_insertCharacters]
  exact (stable_of_closed hI hn).announce _ _ hmoved

theorem charactersDeleted_keeps (start count : Int) (hs : I s.ruling) :
    I (charactersDeleted h s start count).ruling := by
  have hmoved : I ({ s with tracker := (s.tracker.deleteCharacters start count).1 }).ruling := by
    rwa [ruling_deleteCharacters]
  exact (stable_of_closed hI hn).announce _ _ hmoved

/-- What is closed is kept by every command that moves no line and puts bookmarks on lines in `L`
only. -/
theorem perform_keeps {c : Command} (hK : ∀ b ∈ s.stored, K b) (hc : c.Places L s)
    (hs : I s.ruling) : I (perform h s c).1.ruling := by
  have hst := stable_of_closed hI hn
  cases c with
  | new kind place message marker => exact newBookmark_keeps hI kind place message marker hs
  | add b => exact hst.add hc.1 hc.2 hs
  | remove b =>
    by_cases hb : b ∈ s.stored
    · exact hst.remove (hK b hb) hs
    · simpa [perform, remove, hb] using hs
  | removeAt kind line => exact hst.removeAt kind line hK hs
  | toggleBreakpoint line => exact hst.toggleBreakpoint hc hK hs
  | setDebugPoint line => exact hst.setDebugPoint hc hK hs
  | clearDebugPoint => exact hst.clearDebugPoint hK hs
  | replaceParseErrors ds => exact replaceParseErrors_keeps hI hn hK ds hs
  | attachMarker b x => exact attachMarker_keeps hI hn hK x hs
  | linesInserted first count => exact hc.elim
  | linesDeleted first count => exact hc.elim
  | charactersInserted start count => exact charactersInserted_keeps hI hn start count hs
  | charactersDeleted start count => exact charactersDeleted_keeps hI hn start count hs
  | createMarker x =>
    unfold perform
    dsimp only
    split
    · rename_i u m hu
      rwa [ruling_createMarker hu]
    · exact hs
  | createMarkerFor b =>
    unfold perform
    dsimp only
    split
    · exact hs
    · split
      · rename_i u m hu
        rwa [ruling_createMarkerOver hu]
      · exact hs
  | setStyle m p v => exact setStyle_keeps hn m p v hs
  | deleteMarker m => exact removeMarker_keeps hI hn m hs
  | removeMarker m => exact removeMarker_keeps hI hn m hs
  | removeMarkersWhere test =>
    refine List.foldlRecOn (motive := fun t : Margin κ ω => I t.ruling) _ _ hs ?_
    intro t ht m _
    exact removeMarker_keeps hI hn m ht
  | redrawMarker m => exact notifyMarkerRedraw_keeps hn (fun _ _ => id) m hs
  | _ => exact hs

end Closed

end Margin

end Scriptorium
