import Scriptorium.Proofs.Margin.Adoption

/-!
The course of an operation: which bookmarks it puts into the margin and takes out, and what it tells
of that, in this order. `Command.events` lists these events for every command; which they are may
hang on what the listeners do meanwhile, since operations look at the margin in between.

`Course` is the relation between the margin before and after, taken apart at the events. What an
operation does between them is of three kinds only: it writes something that is neither stored nor
told of (`Silent`), it makes a marker, or it deletes or restyles one. `course_perform` says that each
command takes the course of its events, whoever listens; a law of commands is then proved by
induction on the course.
-/

namespace Scriptorium
set_option autoImplicit false

inductive Event where
  | enter (b : BookmarkId)
  | leave (b : BookmarkId)
  | told (b : BookmarkId) (removed : Bool)
  | redraw
  deriving DecidableEq, Repr

/-- Whether the entry tells that a marker was deleted. -/
def Entry.isRemoval (e : Entry) : Bool := "Removed marker at ".toList.isPrefixOf e.text.toList

/-- How many deletions of markers the journal tells of. -/
def removals (j : Journal) : Nat := j.countP Entry.isRemoval

namespace Margin
variable {κ ω : Type}

section Events
variable (h : Reaction κ ω)

def leaving (s : Margin κ ω) (b : BookmarkId) : List Event :=
  if b ∈ s.stored then [.leave b] else []

theorem mem_leaving {s : Margin κ ω} {b : BookmarkId} {e : Event} (he : e ∈ s.leaving b) :
    e = .leave b := by
  unfold leaving at he
  split at he
  · exact List.mem_singleton.mp he
  · cases he

def entryEvents (s : Margin κ ω) (b : BookmarkId) : List Event :=
  match (add h s b).2 with
  | .ok true => [.enter b, .redraw, .told b false]
  | _ => []

def removalEvents (s : Margin κ ω) (b : BookmarkId) : List Event :=
  if b ∈ s.stored then [.leave b, .redraw, .told b true] else []

def removalsEvents : List BookmarkId → Margin κ ω → List Event
  | [], _ => []
  | b :: bs, s => s.removalEvents b ++ removalsEvents bs (remove h s b).1

def discardsEvents : List BookmarkId → Margin κ ω → List Event
  | [], _ => []
  | b :: bs, s => s.leaving b ++ discardsEvents bs (discard h s b)

def dropsEvents : List BookmarkId → Margin κ ω → List Event
  | [], _ => []
  | b :: bs, s =>
    s.leaving b ++ .told b true :: dropsEvents bs (notifyChanged h (discard h s b) b true)

def sweepEvents (s : Margin κ ω) (kind : Kind) (line : Int) : List Event :=
  let doomed := s.stored.filter fun b => s.IsAt kind line b
  dropsEvents h doomed s ++ if doomed.isEmpty then [] else [.redraw]

def lineEvents (s : Margin κ ω) (kind : Kind) (line : Int) : List Event :=
  entryEvents h (s.newBookmark kind (.line line) "" none).1 s.bookmarks.size

def announceEvents (s : Margin κ ω) (removed : List BookmarkId) (anchors : List Anchor) :
    List Event :=
  let moved := s.stored.filter fun b => (s.bookmark b).anchor ∈ anchors
  removed.map (.told · true) ++ moved.map (.told · false) ++
    if removed.isEmpty && moved.isEmpty then [] else [.redraw]

/-- The parse errors that were there before: those that are not reported any more are dropped. -/
def keepEvents : List BookmarkId → List Finding → Margin κ ω → List Event
  | [], _, _ => []
  | b :: bs, wanted, s =>
    if s.findingOf b ∈ wanted then
      if (s.bookmark b).marker = none then
        match markParseError h s b with
        | (t, .ok ()) => keepEvents bs (wanted.erase (s.findingOf b)) t
        | (_, .error _) => []
      else keepEvents bs (wanted.erase (s.findingOf b)) s
    else
      s.leaving b ++ .told b true :: keepEvents bs wanted (notifyChanged h (discard h s b) b true)

/-- A parse error that cannot be shown is stored and not told of. -/
def reportEvents : List Finding → Margin κ ω → List Event
  | [], _ => []
  | f :: fs, s => .enter s.bookmarks.size ::
    match markParseError h (s.reported f) s.bookmarks.size with
    | (t, .ok ()) =>
      .told s.bookmarks.size false :: reportEvents fs (notifyChanged h t s.bookmarks.size false)
    | (_, .error _) => []

/-- The findings that no parse error accounts for, and the redraw for all that changed. -/
def missingEvents (s : Margin κ ω) (wanted : List Finding) (changed : Bool) : List Event :=
  reportEvents h wanted s ++
    match addParseErrors h wanted s with
    | (_, .error _) => []
    | (_, .ok ()) => if changed || !wanted.isEmpty then [.redraw] else []

/-- While a parse error is on a line, nothing is begun. -/
def replaceEvents (s : Margin κ ω) (ds : List Diagnostic) : List Event :=
  if s.HasLineError then []
  else keepEvents h (s.bookmarksOf .parseError) (findings ds) s ++
    match keepParseErrors h (s.bookmarksOf .parseError) (findings ds) false s with
    | (_, .error _) => []
    | (t, .ok (wanted, changed)) => missingEvents h t wanted changed

/-- What the command itself does to the store and tells of, in order. -/
def Command.events (s : Margin κ ω) : Command → List Event
  | .add b => entryEvents h s b
  | .remove b => s.removalEvents b
  | .removeAt kind line => sweepEvents h s kind line
  | .toggleBreakpoint line =>
    match Margin.removeAt h s .breakpoint line with
    | (t, 0) => sweepEvents h s .breakpoint line ++ lineEvents h t .breakpoint line
    | (_, _ + 1) => sweepEvents h s .breakpoint line
  | .setDebugPoint line =>
    removalsEvents h (s.bookmarksOf .debugPoint) s ++
      lineEvents h (Margin.clearDebugPoint h s) .debugPoint line
  | .clearDebugPoint => removalsEvents h (s.bookmarksOf .debugPoint) s
  | .replaceParseErrors ds => replaceEvents h s ds
  | .linesInserted first count =>
    let (tracker, moved) := s.tracker.insertLines first count
    announceEvents { s with tracker := tracker } [] (moved.map .line)
  | .linesDeleted first count =>
    let (tracker, displaced) := s.tracker.deleteLines first count
    let s := { s with tracker := tracker }
    let removed := s.stored.filter fun b => (s.bookmark b).anchor ∈ displaced.removed.map .line
    discardsEvents h removed s ++
      announceEvents (removed.foldl (discard h) s) removed (displaced.moved.map .line)
  | .charactersInserted start count =>
    let (tracker, moved) := s.tracker.insertCharacters start count
    announceEvents { s with tracker := tracker } [] (moved.map .span)
  | .charactersDeleted start count =>
    let (tracker, moved) := s.tracker.deleteCharacters start count
    announceEvents { s with tracker := tracker } [] (moved.map .span)
  | _ => []

end Events

/-- Nothing was stored, taken out or deleted meanwhile, no marker was made, and nobody was told of
anything or came to listen from outside. -/
structure Silent [DecidableEq κ] (s t : Margin κ ω) : Prop where
  stored : t.stored = s.stored
  live : t.live = s.live
  bookmarks : s.bookmarks.size ≤ t.bookmarks.size
  markers : s.markers.size ≤ t.markers.size
  callers : ∀ m k, (t.marker m).deleted.listeners.count (.outside k) =
    (s.marker m).deleted.listeners.count (.outside k)
  redraw : t.redraw = s.redraw
  changed : t.changed = s.changed
  shared : t.shared = s.shared
  removals : removals t.journal = removals s.journal

variable [DecidableEq κ]

namespace Silent
variable {s t u : Margin κ ω}

theorem refl (s : Margin κ ω) : Silent s s :=
  ⟨rfl, rfl, Nat.le_refl _, Nat.le_refl _, fun _ _ => rfl, rfl, rfl, rfl, rfl⟩

theorem trans (hst : Silent s t) (htu : Silent t u) : Silent s u where
  stored := htu.stored.trans hst.stored
  live := htu.live.trans hst.live
  bookmarks := Nat.le_trans hst.bookmarks htu.bookmarks
  markers := Nat.le_trans hst.markers htu.markers
  callers m k := (htu.callers m k).trans (hst.callers m k)
  redraw := htu.redraw.trans hst.redraw
  changed := htu.changed.trans hst.changed
  shared := htu.shared.trans hst.shared
  removals := htu.removals.trans hst.removals

theorem tracker (s : Margin κ ω) (t : Tracker) : Silent s { s with tracker := t } :=
  ⟨rfl, rfl, Nat.le_refl _, Nat.le_refl _, fun _ _ => rfl, rfl, rfl, rfl, rfl⟩

theorem lineCount (s : Margin κ ω) (n : Option Int) : Silent s { s with lineCount := n } :=
  ⟨rfl, rfl, Nat.le_refl _, Nat.le_refl _, fun _ _ => rfl, rfl, rfl, rfl, rfl⟩

theorem logRefusal (s : Margin κ ω) (r : Refusal) : Silent s (s.logRefusal r) := by
  cases r with
  | outOfRange => exact refl s
  | occupied line =>
    refine ⟨rfl, rfl, Nat.le_refl _, Nat.le_refl _, fun _ _ => rfl, rfl, rfl, rfl, ?_⟩
    simp [Margin.logRefusal, Margin.log, Scriptorium.removals, Entry.isRemoval]

theorem newBookmark (s : Margin κ ω) (kind : Kind) (place : Place) (message : String)
    (marker : Option MarkerId) : Silent s (s.newBookmark kind place message marker).1 := by
  cases place <;>
    exact ⟨rfl, rfl, by simp [Margin.newBookmark], Nat.le_refl _, fun _ _ => rfl, rfl, rfl, rfl,
      rfl⟩

theorem modifyBookmark (s : Margin κ ω) (b : BookmarkId) (f : Bookmark → Bookmark) :
    Silent s (s.modifyBookmark b f) :=
  ⟨rfl, rfl, Registry.size_le_size_modify _ b f, Nat.le_refl _, fun _ _ => rfl, rfl, rfl, rfl, rfl⟩

theorem modifyMarker (s : Margin κ ω) (m : MarkerId) {f : Marker κ → Marker κ}
    (hf : ∀ x k, (f x).deleted.listeners.count (.outside k) =
      x.deleted.listeners.count (.outside k)) : Silent s (s.modifyMarker m f) := by
  refine ⟨rfl, rfl, Nat.le_refl _, Registry.size_le_size_modify _ m f, ?_, rfl, rfl, rfl, rfl⟩
  intro n k
  rw [marker_modifyMarker]
  split
  · exact hf _ k
  · rfl

theorem watch (s : Margin κ ω) (b : BookmarkId) (m : MarkerId) : Silent s (s.watch b m) :=
  modifyMarker s m fun x k => by simp

theorem paired (s : Margin κ ω) (b : BookmarkId) (m : MarkerId) (tooltip : Label → Label) :
    Silent s (s.paired b m tooltip) := by
  refine Silent.trans ?_ (modifyBookmark _ b _)
  exact modifyMarker s m fun _ _ => rfl

/-- A bookmark that is told of the loss of its marker writes to itself and to the tracker only. -/
theorem release (s : Margin κ ω) (b : BookmarkId) (m : MarkerId) : Silent s (s.release b m).1 := by
  unfold Margin.release
  split
  · have hforget : Silent s (s.modifyBookmark b fun x => { x with marker := none }) :=
      modifyBookmark s b _
    dsimp only
    split
    · split
      · exact hforget.trans (tracker _ _)
      · exact hforget
    · exact hforget
  · exact refl s

end Silent

/-- From one margin to another by way of these events. -/
inductive Course (h : Reaction κ ω) : List Event → Margin κ ω → Margin κ ω → Prop where
  | done (s : Margin κ ω) : Course h [] s s
  | silent {l : List Event} {s t u : Margin κ ω} : Silent s t → Course h l t u → Course h l s u
  | make {l : List Event} {s u : Margin κ ω} (t : Tracker) (i : SpanId) :
      Course h l (s.marked t i) u → Course h l s u
  | restyle {l : List Event} {s u : Margin κ ω} (m : MarkerId) :
      Course h l (notifyMarkerRedraw h s m) u → Course h l s u
  | delete {l : List Event} {s u : Margin κ ω} (m : MarkerId) :
      Course h l (removeMarker h s m).1 u → Course h l s u
  | enter {l : List Event} {s u : Margin κ ω} (b : BookmarkId) : b ∉ s.stored →
      b < s.bookmarks.size → Course h l { s with stored := s.stored ++ [b] } u →
      Course h (.enter b :: l) s u
  | report {l : List Event} {s u : Margin κ ω} (f : Finding) :
      Course h l (s.reported f) u → Course h (.enter s.bookmarks.size :: l) s u
  | leave {l : List Event} {s u : Margin κ ω} (b : BookmarkId) : b ∈ s.stored →
      Course h l { s with stored := s.stored.filter (· ≠ b) } u → Course h (.leave b :: l) s u
  | tell {l : List Event} {s u : Margin κ ω} (b : BookmarkId) (removed : Bool) :
      Course h l (notifyChanged h s b removed) u → Course h (.told b removed :: l) s u
  | redraw {l : List Event} {s u : Margin κ ω} :
      Course h l (notifyRedraw h s) u → Course h (.redraw :: l) s u

variable {h : Reaction κ ω} {s t u : Margin κ ω} {l l' : List Event} {b : BookmarkId} {m : MarkerId}

namespace Course

theorem trans (hst : Course h l s t) (htu : Course h l' t u) : Course h (l ++ l') s u := by
  induction hst with
  | done => exact htu
  | silent hs _ ih => exact .silent hs (ih htu)
  | make t i _ ih => exact .make t i (ih htu)
  | restyle m _ ih => exact .restyle m (ih htu)
  | delete m _ ih => exact .delete m (ih htu)
  | enter b hnew hb _ ih => exact .enter b hnew hb (ih htu)
  | report f _ ih => exact .report f (ih htu)
  | leave b hb _ ih => exact .leave b hb (ih htu)
  | tell b removed _ ih => exact .tell b removed (ih htu)
  | redraw _ ih => exact .redraw (ih htu)

theorem of_silent (hst : Silent s t) : Course h [] s t := .silent hst (.done t)

theorem quiet (hst : Course h [] s t) (htu : Course h l t u) : Course h l s u := hst.trans htu

theorem told (b : BookmarkId) (removed : Bool) :
    Course h [.told b removed] s (notifyChanged h s b removed) := .tell b removed (.done _)

theorem redrawn : Course h [.redraw] s (notifyRedraw h s) := .redraw (.done _)

end Course

theorem course_removeMarker (m : MarkerId) : Course h [] s (removeMarker h s m).1 :=
  .delete m (.done _)

theorem course_setStyle (m : MarkerId) (p : StyleProperty) (v : Option String) :
    Course h [] s (setStyle h s m p v) := by
  unfold setStyle
  split
  · exact .done s
  · refine .silent ?_ (.restyle m (.done _))
    exact .modifyMarker s m fun _ _ => rfl

theorem course_discard (s : Margin κ ω) (b : BookmarkId) :
    Course h (s.leaving b) s (discard h s b) := by
  have hwithout : Course h (s.leaving b) s (s.without b) := by
    have hforget : Silent { s with stored := s.stored.filter (· ≠ b) } (s.without b) :=
      (Silent.tracker _ (s.tracker.untrack (s.bookmark b).anchor)).trans (.modifyBookmark _ b _)
    unfold leaving
    split
    · rename_i hb
      exact .leave b hb (.of_silent hforget)
    · rename_i hb
      have hsame : s.stored.filter (· ≠ b) = s.stored :=
        List.filter_eq_self.mpr fun c hc => decide_eq_true fun hcb : c = b => hb (hcb ▸ hc)
      rw [hsame] at hforget
      exact .of_silent hforget
  rw [discard_eq]
  split
  · rename_i m _
    have hdeleted := hwithout.trans (course_removeMarker m)
    rwa [List.append_nil] at hdeleted
  · exact hwithout

theorem course_taken (hnew : b ∉ s.stored) (hb : b < s.bookmarks.size) (u : Tracker) :
    Course h [.enter b] s (s.taken b u) := by
  refine .silent (.tracker s u) (.enter b hnew hb ?_)
  unfold taken
  dsimp only
  split
  · exact .of_silent (.watch _ b _)
  · exact .done _

theorem course_add (hb : b < s.bookmarks.size) : Course h (entryEvents h s b) s (add h s b).1 := by
  by_cases hnew : b ∈ s.stored
  · simp only [entryEvents, add, if_pos hnew]
    exact .done s
  cases hr : s.refusal? b with
  | some r =>
    simp only [entryEvents, add, if_neg hnew, hr]
    exact .of_silent (.logRefusal s r)
  | none =>
    cases ht : s.tracker.track (s.bookmark b).anchor with
    | error e =>
      simp only [entryEvents, add, if_neg hnew, hr, ht]
      exact .done s
    | ok u =>
      simp only [entryEvents, add, if_neg hnew, hr, ht]
      exact (course_taken hnew hb u).trans (.redraw (.told b false))

theorem course_remove (s : Margin κ ω) (b : BookmarkId) :
    Course h (s.removalEvents b) s (remove h s b).1 := by
  unfold removalEvents remove
  split
  · rename_i hb
    have hgone := course_discard (h := h) s b
    rw [leaving, if_pos hb] at hgone
    exact hgone.trans (.redraw (.told b true))
  · exact .done s

theorem course_removals (bs : List BookmarkId) (s : Margin κ ω) :
    Course h (removalsEvents h bs s) s (bs.foldl (fun s b => (remove h s b).1) s) := by
  induction bs generalizing s with
  | nil => exact .done s
  | cons b bs ih => exact (course_remove s b).trans (ih _)

theorem course_discards (bs : List BookmarkId) (s : Margin κ ω) :
    Course h (discardsEvents h bs s) s (bs.foldl (discard h) s) := by
  induction bs generalizing s with
  | nil => exact .done s
  | cons b bs ih => exact (course_discard s b).trans (ih _)

theorem course_discardEach (bs : List BookmarkId) (s : Margin κ ω) :
    Course h (dropsEvents h bs s) s (discardEach h s bs) := by
  induction bs generalizing s with
  | nil => exact .done s
  | cons b bs ih => exact (course_discard s b).trans (.tell b true (ih _))

theorem course_removeAt (kind : Kind) (line : Int) :
    Course h (sweepEvents h s kind line) s (removeAt h s kind line).1 := by
  unfold sweepEvents removeAt
  refine (course_discardEach _ s).trans ?_
  dsimp only
  split
  · exact .done _
  · exact .redrawn

omit [DecidableEq κ] in
theorem addOnLine_fst (h : Reaction κ ω) (s : Margin κ ω) (kind : Kind) (line : Int) :
    (addOnLine h s kind line).1 =
      (add h (s.newBookmark kind (.line line) "" none).1 s.bookmarks.size).1 := by
  unfold addOnLine
  rw [newBookmark_line]
  dsimp only
  split <;> simp_all

theorem course_addOnLine (kind : Kind) (line : Int) :
    Course h (lineEvents h s kind line) s (addOnLine h s kind line).1 := by
  rw [addOnLine_fst]
  refine .silent (.newBookmark s kind (.line line) "" none) (course_add ?_)
  simp [newBookmark_line]

theorem course_announce (removed : List BookmarkId) (anchors : List Anchor) :
    Course h (s.announceEvents removed anchors) s (announce h s removed anchors) := by
  have each : ∀ (bs : List BookmarkId) (flag : Bool) (t : Margin κ ω),
      Course h (bs.map (.told · flag)) t (bs.foldl (fun t b => notifyChanged h t b flag) t) := by
    intro bs flag
    induction bs with
    | nil => exact fun t => .done t
    | cons b bs ih => exact fun t => .tell b flag (ih _)
  unfold announceEvents announce
  dsimp only
  refine ((each removed true s).trans (each _ false _)).trans ?_
  split
  · exact .done _
  · exact .redrawn

theorem course_createMarkerOver {i : SpanId} (hu : s.createMarkerOver i = .ok (u, m)) :
    Course h [] s u := by
  unfold createMarkerOver at hu
  split at hu
  · cases hu
  · rename_i t ht
    cases hu
    exact .make t i (.done _)

theorem course_createMarker {x : Span} (hu : s.createMarker x = .ok (u, m)) : Course h [] s u := by
  obtain ⟨t, _, rfl, _⟩ := createMarker_cases hu
  exact .make t s.tracker.spans.size (.done _)

theorem course_attachMarker (b : BookmarkId) (x : Span) :
    Course h [] s (attachMarker h s b x).1 := by
  have hunmarked : Course h [] s (unmarked h s b) := by
    unfold unmarked
    split
    · exact course_removeMarker _
    · exact .done s
  rcases attachMarker_cases h s b x with he | ⟨_, he⟩ | ⟨_, u, m, kind, hu, he⟩
  · rw [he]
    exact .done s
  · rwa [he]
  · rw [he]
    refine (hunmarked.trans (course_createMarker hu)).trans ?_
    exact .silent ((Silent.paired u b m id).trans (.watch _ b m)) (course_setStyle m _ _)

theorem course_markParseError (s : Margin κ ω) (b : BookmarkId) :
    Course h [] s (markParseError h s b).1 := by
  cases ha : (s.bookmark b).anchor with
  | line i =>
    rw [markParseError_of_line ha]
    exact .done s
  | span i =>
    rw [markParseError_of_span ha]
    split
    · exact .done s
    · rename_i u m hu
      have hpaired : Course h [] s (u.paired b m fun _ => .text (u.bookmark b).message) :=
        (course_createMarkerOver hu).trans (.of_silent (.paired u b m _))
      exact (hpaired.trans (course_setStyle m _ _)).trans (.of_silent (.watch _ b m))

theorem course_keepParseErrors (bs : List BookmarkId) (wanted : List Finding) (flag : Bool)
    (s : Margin κ ω) :
    Course h (keepEvents h bs wanted s) s (keepParseErrors h bs wanted flag s).1 := by
  induction bs generalizing s wanted flag with
  | nil => exact .done s
  | cons b bs ih =>
    unfold keepEvents keepParseErrors
    split
    · dsimp only
      split
      · have hmark := course_markParseError (h := h) s b
        rcases hr : markParseError h s b with ⟨t, e | ⟨⟩⟩
        · rw [hr] at hmark
          exact hmark
        · rw [hr] at hmark
          exact hmark.quiet (ih _ _ _)
      · exact ih _ _ _
    · exact (course_discard s b).trans (.tell b true (ih _ _ _))

theorem course_addParseErrors (fs : List Finding) (s : Margin κ ω) :
    Course h (reportEvents h fs s) s (addParseErrors h fs s).1 := by
  induction fs generalizing s with
  | nil => exact .done s
  | cons f fs ih =>
    have hmark := course_markParseError (h := h) (s.reported f) s.bookmarks.size
    rw [addParseErrors_cons]
    unfold reportEvents
    refine .report f ?_
    rcases hr : markParseError h (s.reported f) s.bookmarks.size with ⟨t, e | ⟨⟩⟩
    · rw [hr] at hmark
      exact hmark
    · rw [hr] at hmark
      exact hmark.quiet (.tell _ false (ih _))

theorem course_replaceParseErrors (ds : List Diagnostic) :
    Course h (replaceEvents h s ds) s (replaceParseErrors h s ds).1 := by
  have hkeep := course_keepParseErrors (h := h) (s.bookmarksOf .parseError) (findings ds) false s
  unfold replaceEvents
  by_cases hline : s.HasLineError
  · rw [if_pos hline, replaceParseErrors_of_hasLineError hline]
    exact .done s
  rw [if_neg hline, replaceParseErrors_of_not_hasLineError hline, reconcile]
  refine hkeep.trans ?_
  rcases keepParseErrors h (s.bookmarksOf .parseError) (findings ds) false s with
    ⟨t, e | ⟨wanted, changed⟩⟩
  · exact .done t
  · have hadd := course_addParseErrors (h := h) wanted t
    dsimp only [missingEvents]
    refine hadd.trans ?_
    rcases addParseErrors h wanted t with ⟨u, e | ⟨⟩⟩
    · exact .done u
    · dsimp only
      split
      · exact .redrawn
      · exact .done u

/-- The command takes in no bookmark that was never made. -/
def Command.Made (s : Margin κ ω) : Command → Prop
  | .add b => b < s.bookmarks.size
  | _ => True

/-- Whoever listens and whatever they do, a command takes the course of its own events. -/
theorem course_perform {c : Command} (hc : c.Made s) :
    Course h (c.events h s) s (perform h s c).1 := by
  cases c with
  | new kind place message marker => exact .of_silent (.newBookmark s kind place message marker)
  | add b => exact course_add hc
  | remove b => exact course_remove s b
  | removeAt kind line => exact course_removeAt kind line
  | toggleBreakpoint line =>
    have hremoved := course_removeAt (h := h) (s := s) .breakpoint line
    unfold Command.events perform toggleBreakpoint
    dsimp only
    generalize Margin.removeAt h s .breakpoint line = r at hremoved ⊢
    obtain ⟨t, _ | n⟩ := r
    · exact hremoved.trans (course_addOnLine .breakpoint line)
    · exact hremoved
  | setDebugPoint line =>
    exact (course_removals _ s).trans (course_addOnLine .debugPoint line)
  | clearDebugPoint => exact course_removals _ s
  | replaceParseErrors ds => exact course_replaceParseErrors ds
  | attachMarker b x => exact course_attachMarker b x
  | linesInserted first count =>
    exact .silent (.tracker s (s.tracker.insertLines first count).1) (course_announce _ _)
  | linesDeleted first count =>
    refine .silent (.tracker s (s.tracker.deleteLines first count).1) ?_
    exact (course_discards _ _).trans (course_announce _ _)
  | charactersInserted start count =>
    exact .silent (.tracker s (s.tracker.insertCharacters start count).1) (course_announce _ _)
  | charactersDeleted start count =>
    exact .silent (.tracker s (s.tracker.deleteCharacters start count).1) (course_announce _ _)
  | setLineCount count => exact .of_silent (.lineCount s count)
  | createMarker x =>
    unfold perform
    dsimp only
    split
    · rename_i u m hu
      exact course_createMarker hu
    · exact .done s
  | createMarkerFor b =>
    unfold perform
    dsimp only
    split
    · exact .done s
    · split
      · rename_i u m hu
        exact course_createMarkerOver hu
      · exact .done s
  | setStyle m p v => exact course_setStyle m p v
  | setTag m l => exact .of_silent (.modifyMarker s m fun _ _ => rfl)
  | setTooltip m l => exact .of_silent (.modifyMarker s m fun _ _ => rfl)
  | moveMarker m start => exact .of_silent (.tracker s _)
  | resizeMarker m length => exact .of_silent (.tracker s _)
  | deleteMarker m => exact course_removeMarker m
  | removeMarker m => exact course_removeMarker m
  | removeMarkersWhere test =>
    refine List.foldlRecOn (motive := Course h [] s) _ _ (.done s) ?_
    exact fun t ht m _ => ht.trans (course_removeMarker m)
  | redrawMarker m => exact .restyle m (.done _)
  | _ => exact .done s

end Margin

end Scriptorium
