import Scriptorium.Proofs.Margin.Aggregate
import Scriptorium.Proofs.Margin.Footing

/-!
What an edit of the text tells of, notice by notice. First come the bookmarks that went with their
line and then those that stand somewhere else now, each group in the order of the margin; a redraw
follows if there were any. One bookmark too many may be told of: a parse error of no length that
stands just where characters are taken out is listed by the tracker and told of as moved, although
it stays (`Command.Grazes`).

Two lines of thought meet here. Which notices a command sends, in order, can be read off its events
(`heard_news`); and the tracker lists as moved what it did move (`mem_moved_iff`), so that the
notices of an edit can be told from how the margin was before and how it is afterwards.
-/

namespace Scriptorium
set_option autoImplicit false

/-- What is told on account of the event. -/
def Event.notice? : Event → Option Notice
  | .told b removed => some (.changed b removed)
  | .redraw => some .redraw
  | _ => none

/-- The notice is about the bookmarks, and not about a marker. -/
def Notice.isNews : Notice → Bool
  | .changed _ _ | .redraw => true
  | _ => false

namespace Margin
variable {κ ω : Type}

def news (l : List Sighting) : List Notice := (l.map Sighting.notice).filter Notice.isNews

theorem news_append (l l' : List Sighting) : news (l ++ l') = news l ++ news l' := by
  simp [news]

section Heard
variable [DecidableEq κ] {h : Reaction κ ω} {k : κ} {heard : ω → List Sighting}

/-- From one margin to the other `k` hears just these news, and stays subscribed. -/
structure Hears (k : κ) (heard : ω → List Sighting) (ns : List Notice) (s t : Margin κ ω) :
    Prop where
  changed : t.changed.listeners.count k = s.changed.listeners.count k
  redraw : t.redraw.listeners.count k = s.redraw.listeners.count k
  heard : ∃ l, heard t.shared = heard s.shared ++ l ∧ news l = ns

namespace Hears
variable {s t u : Margin κ ω} {ns ms : List Notice}

theorem of_eq (hchanged : t.changed = s.changed) (hredraw : t.redraw = s.redraw)
    (hshared : t.shared = s.shared) : Hears k heard [] s t :=
  ⟨by rw [hchanged], by rw [hredraw], [], by rw [hshared, List.append_nil], rfl⟩

theorem refl (s : Margin κ ω) : Hears k heard [] s s := of_eq rfl rfl rfl

theorem trans (hst : Hears k heard ns s t) (htu : Hears k heard ms t u) :
    Hears k heard (ns ++ ms) s u where
  changed := htu.changed.trans hst.changed
  redraw := htu.redraw.trans hst.redraw
  heard := by
    obtain ⟨l, hl, rfl⟩ := hst.heard
    obtain ⟨l', hl', rfl⟩ := htu.heard
    exact ⟨l ++ l', by rw [hl', hl, List.append_assoc], news_append l l'⟩

theorem quiet (hst : Hears k heard [] s t) (htu : Hears k heard ms t u) :
    Hears k heard ms s u := hst.trans htu

theorem silent (hst : Silent s t) : Hears k heard [] s t := of_eq hst.changed hst.redraw hst.shared

end Hears

variable {s t : Margin κ ω} (hrec : Attends h k heard)
include hrec

theorem hears_deliver (n : Notice) (f : Margin κ ω → Entry) (ks : List κ) (s : Margin κ ω) :
    Hears k heard ((List.replicate (ks.count k) n).filter Notice.isNews) s
      (deliver (fun j s => h j n s) (fun s => s.log (f s)) ks s) := by
  obtain ⟨-, -, hchanged, hheard⟩ := hrec.deliver n f ks s
  refine ⟨hchanged, ?_, _, hheard, by simp [news]⟩
  refine deliver_induction (fun j s => h j n s) (fun s => s.log (f s))
    (I := fun t => t.redraw.listeners.count k = s.redraw.listeners.count k) ?_ ?_ rfl
  · exact fun j _ t ht => (hrec.redraw j n t).trans ht
  · exact fun _ => id

theorem hears_changed (b : BookmarkId) (removed : Bool) (hs : s.changed.listeners.count k = 1) :
    Hears k heard [.changed b removed] s (notifyChanged h s b removed) := by
  have htold := hears_deliver hrec (.changed b removed) (fun _ => s.changed.failure)
    s.changed.listeners s
  rwa [hs] at htold

theorem hears_redraw (hs : s.redraw.listeners.count k = 1) :
    Hears k heard [.redraw] s (notifyRedraw h s) := by
  have htold := hears_deliver hrec .redraw (fun _ => s.redraw.failure) s.redraw.listeners s
  rwa [hs] at htold

theorem hears_call {n : Notice} (hn : n.isNews = false) (j : κ) (s : Margin κ ω) :
    Hears k heard [] s (h j n s).1 := by
  refine ⟨hrec.attends j n s, hrec.redraw j n s, ?_⟩
  by_cases hj : j = k
  · subst hj
    exact ⟨_, hrec.hears n s, by simp [news, hn]⟩
  · exact ⟨[], by rw [hrec.others j n s hj, List.append_nil], rfl⟩

theorem hears_markerRedraw (m : MarkerId) : Hears k heard [] s (notifyMarkerRedraw h s m) := by
  have htold := hears_deliver hrec (.markerRedraw m) (fun _ => s.markerRedraw.failure)
    s.markerRedraw.listeners s
  rwa [List.filter_replicate_of_neg Bool.false_ne_true] at htold

theorem hears_deleted (m : MarkerId) : Hears k heard [] s (notifyDeleted h s m) := by
  refine deliver_induction (callWatcher h m) _ (I := Hears k heard [] s) ?_ ?_ (.refl s)
  · intro x _ t ht
    cases x with
    | owner b => exact ht.quiet (.silent (.release t b m))
    | outside j =>
      have hcalled : Hears k heard [] t (h j (.markerDeleted m) t).1 := hears_call hrec rfl j t
      exact ht.quiet hcalled
  · exact fun t ht => ht.quiet (.silent (.failure t _))

theorem hears_removeMarker (m : MarkerId) : Hears k heard [] s (removeMarker h s m).1 := by
  by_cases hm : m ∈ s.live
  · rw [removeMarker_of_mem h hm]
    have hunlived : Hears k heard [] s ((s.unlived m).log ((s.unlived m).removalEntry m)) :=
      .of_eq rfl rfl rfl
    exact hunlived.quiet ((hears_markerRedraw hrec m).quiet (hears_deleted hrec m))
  · rw [removeMarker_of_not_mem h hm]
    exact .refl s

/-- Along its course a command tells of its events, in their order, and of nothing else. -/
theorem hears_course {l : List Event} (hc : Course h l s t)
    (hchanged : s.changed.listeners.count k = 1) (hredraw : s.redraw.listeners.count k = 1) :
    Hears k heard (l.filterMap Event.notice?) s t := by
  -- what comes first, and the course from there
  have hfirst : ∀ {ns ms : List Notice} {s t u : Margin κ ω},
      s.changed.listeners.count k = 1 → s.redraw.listeners.count k = 1 → Hears k heard ns s t →
      (t.changed.listeners.count k = 1 → t.redraw.listeners.count k = 1 → Hears k heard ms t u) →
      Hears k heard (ns ++ ms) s u := by
    intro ns ms s t u hs hs' hst hrest
    exact hst.trans (hrest (hst.changed.trans hs) (hst.redraw.trans hs'))
  have hsame : ∀ {ms : List Notice} {s t u : Margin κ ω}, Hears k heard ms t u →
      t.changed = s.changed → t.redraw = s.redraw → t.shared = s.shared → Hears k heard ms s u :=
    fun htu hchanged hredraw hshared => (Hears.of_eq hchanged hredraw hshared).quiet htu
  induction hc with
  | done s => exact .refl s
  | silent hst _ ih => exact hfirst hchanged hredraw (.silent hst) ih
  | make u i _ ih => exact hsame (ih hchanged hredraw) rfl rfl rfl
  | restyle m _ ih => exact hfirst hchanged hredraw (hears_markerRedraw hrec m) ih
  | delete m _ ih => exact hfirst hchanged hredraw (hears_removeMarker hrec m) ih
  | enter b _ _ _ ih => exact hsame (ih hchanged hredraw) rfl rfl rfl
  | report f _ ih => exact hsame (ih hchanged hredraw) rfl rfl rfl
  | leave b _ _ ih => exact hsame (ih hchanged hredraw) rfl rfl rfl
  | tell b removed _ ih =>
    exact hfirst hchanged hredraw (hears_changed hrec b removed hchanged) ih
  | redraw _ ih => exact hfirst hchanged hredraw (hears_redraw hrec hredraw) ih

end Heard

/-- The anchors of the bookmarks are the same, and each is in the same place. -/
structure Rests (s t : Margin κ ω) : Prop where
  lines : t.tracker.lines = s.tracker.lines
  spans : t.tracker.spans = s.tracker.spans
  anchor : ∀ b, (t.bookmark b).anchor = (s.bookmark b).anchor

namespace Rests
variable {s t u : Margin κ ω}

theorem refl (s : Margin κ ω) : Rests s s := ⟨rfl, rfl, fun _ => rfl⟩

theorem trans (hst : Rests s t) (htu : Rests t u) : Rests s u where
  lines := htu.lines.trans hst.lines
  spans := htu.spans.trans hst.spans
  anchor b := (htu.anchor b).trans (hst.anchor b)

theorem aside [DecidableEq κ] (hst : Aside s t) : Rests s t := by
  cases hst with
  | share => exact ⟨rfl, rfl, fun _ => rfl⟩
  | subscribe k c => cases c <;> exact ⟨rfl, rfl, fun _ => rfl⟩
  | unsubscribe k c => cases c <;> exact ⟨rfl, rfl, fun _ => rfl⟩

theorem release (s : Margin κ ω) (b : BookmarkId) (m : MarkerId) : Rests s (s.release b m).1 := by
  unfold Margin.release
  split
  · have hforgets : Rests s (s.modifyBookmark b fun x => { x with marker := none }) :=
      ⟨rfl, rfl, fun c => anchor_setMarker s b c none⟩
    dsimp only
    split
    · split
      · rename_i v hv
        refine hforgets.trans ⟨?_, Tracker.spans_of_track hv, fun _ => rfl⟩
        rcases Tracker.track_cases hv with ⟨-, rfl⟩ | ⟨_, -, -, -, rfl⟩ | ⟨_, -, -, -, rfl⟩ <;> rfl
      · exact hforgets
    · exact hforgets
  · exact .refl s

theorem without (s : Margin κ ω) (b : BookmarkId) : Rests s (s.without b) where
  lines := by
    change (s.tracker.untrack _).lines = _
    cases (s.bookmark b).anchor <;> rfl
  spans := Tracker.spans_untrack
  anchor c := anchor_setMarker _ b c none

theorem lineNumber? (hst : Rests s t) (b : BookmarkId) : t.lineNumber? b = s.lineNumber? b := by
  have hline : t.tracker.line = s.tracker.line := by
    funext i
    rw [Tracker.line, hst.lines]
    rfl
  rw [Margin.lineNumber?, hst.anchor, hline]
  rfl

theorem span? (hst : Rests s t) (b : BookmarkId) : t.span? b = s.span? b := by
  have hspan : t.tracker.span = s.tracker.span := by
    funext i
    rw [Tracker.span, hst.spans]
    rfl
  rw [Margin.span?, hst.anchor, hspan]
  rfl

end Rests

section Aloof
variable [DecidableEq κ] {h : Reaction κ ω} (ha : Aloof h)
include ha

theorem Aloof.heeds_rests (s : Margin κ ω) : Heeds h (Rests s) :=
  heeds_of_aloof ha fun _ _ hstep ht => ht.trans (.aside hstep)

theorem rests_announce (s : Margin κ ω) (removed : List BookmarkId) (anchors : List Anchor) :
    Rests s (announce h s removed anchors) :=
  announce_keeps (ha.heeds_rests s) (fun _ _ ht => ht.trans ⟨rfl, rfl, fun _ => rfl⟩) removed
    anchors (.refl s)

theorem rests_discard (s : Margin κ ω) (b : BookmarkId) : Rests s (discard h s b) := by
  have hn := ha.heeds_rests s
  rw [discard_eq]
  split
  · rename_i m _
    by_cases hm : m ∈ (s.without b).live
    · rw [removeMarker_of_mem h hm]
      have hlog : ∀ t e, Rests s t → Rests s (t.log e) :=
        fun _ _ ht => ht.trans ⟨rfl, rfl, fun _ => rfl⟩
      refine notifyDeleted_keeps hn hlog m (fun t b ht => ht.trans (.release t b m)) ?_
      refine notifyMarkerRedraw_keeps hn hlog m ((Rests.without s b).trans ?_)
      exact ⟨rfl, Tracker.spans_untrack, fun _ => rfl⟩
    · rw [removeMarker_of_not_mem h hm]
      exact .without s b
  · exact .without s b

theorem rests_discards (s : Margin κ ω) (bs : List BookmarkId) :
    Rests s (bs.foldl (discard h) s) := by
  refine List.foldlRecOn bs _ (.refl s) ?_
  exact fun t ht b _ => ht.trans (rests_discard ha t b)

end Aloof

/-- What an edit comes to for the tracker: how it is afterwards, which anchors it gave up with their
lines, and which it lists as moved. -/
structure Edited where
  tracker : Tracker
  removed : List Anchor
  moved : List Anchor

def Command.edited? (t : Tracker) : Command → Option Edited
  | .linesInserted first count =>
    some ⟨(t.insertLines first count).1, [], (t.insertLines first count).2.map .line⟩
  | .linesDeleted first count =>
    some ⟨(t.deleteLines first count).1, (t.deleteLines first count).2.removed.map .line,
      (t.deleteLines first count).2.moved.map .line⟩
  | .charactersInserted start count =>
    some ⟨(t.insertCharacters start count).1, [], (t.insertCharacters start count).2.map .span⟩
  | .charactersDeleted start count =>
    some ⟨(t.deleteCharacters start count).1, [], (t.deleteCharacters start count).2.map .span⟩
  | _ => none

/-- The anchor stands on an empty span just where the command takes characters out. -/
def Command.Grazes (t : Tracker) (a : Anchor) : Command → Prop
  | .charactersDeleted start count =>
    0 < count ∧ t.IsTracked a ∧ a.span?.map t.span = some ⟨start, 0⟩
  | _ => False

instance (t : Tracker) (a : Anchor) (c : Command) : Decidable (c.Grazes t a) := by
  unfold Command.Grazes; split <;> infer_instance

/-- What an edit lists as moved is what it did move, and what it grazes. -/
theorem mem_moved_iff {t : Tracker} (ht : t.Sound) {c : Command} {e : Edited}
    (hc : c.edited? t = some e) (a : Anchor) :
    a ∈ e.moved ↔ a.line?.map e.tracker.line ≠ a.line?.map t.line ∨
      a.span?.map e.tracker.span ≠ a.span?.map t.span ∨ c.Grazes t a := by
  cases c with
  | linesInserted first count =>
    obtain rfl := Option.some.inj hc
    cases a <;> simp [Anchor.line?, Anchor.span?, Command.Grazes, ht.mem_moved_insertLines]
  | linesDeleted first count =>
    obtain rfl := Option.some.inj hc
    cases a <;> simp [Anchor.line?, Anchor.span?, Command.Grazes, ht.mem_moved_deleteLines]
  | charactersInserted start count =>
    obtain rfl := Option.some.inj hc
    cases a <;> simp [Anchor.line?, Anchor.span?, Command.Grazes, ht.mem_moved_insertCharacters]
  | charactersDeleted start count =>
    obtain rfl := Option.some.inj hc
    cases a <;> simp [Anchor.line?, Anchor.span?, Command.Grazes, Tracker.IsTracked,
      ht.mem_moved_deleteCharacters]
  | _ => cases hc

section Edit
variable {h : Reaction κ ω} {s t : Margin κ ω} {c : Command} {e : Edited}

def Command.Edits : Command → Prop
  | .linesInserted _ _ | .linesDeleted _ _ => True
  | .charactersInserted _ _ | .charactersDeleted _ _ => True
  | _ => False

theorem Command.Edits.edited (hc : c.Edits) (t : Tracker) : ∃ e, c.edited? t = some e := by
  cases c with
  | linesInserted first count => exact ⟨_, rfl⟩
  | linesDeleted first count => exact ⟨_, rfl⟩
  | charactersInserted start count => exact ⟨_, rfl⟩
  | charactersDeleted start count => exact ⟨_, rfl⟩
  | _ => exact hc.elim

/-- The bookmarks that go with their anchors. -/
def uprooted (s : Margin κ ω) (e : Edited) : List BookmarkId :=
  s.stored.filter fun b => (s.bookmark b).anchor ∈ e.removed

/-- The margin once the edit is made and before it is told of. -/
def edited (h : Reaction κ ω) (s : Margin κ ω) (e : Edited) : Margin κ ω :=
  (s.uprooted e).foldl (discard h) { s with tracker := e.tracker }

theorem uprooted_of_nil (hnone : e.removed = []) : s.uprooted e = [] := by
  simp [uprooted, hnone]

theorem edited_of_nil (hnone : e.removed = []) : edited h s e = { s with tracker := e.tracker } := by
  rw [edited, uprooted_of_nil hnone]
  rfl

theorem perform_edit (hc : c.edited? s.tracker = some e) :
    (perform h s c).1 = announce h (edited h s e) (s.uprooted e) e.moved ∧
      c.events h s = discardsEvents h (s.uprooted e) { s with tracker := e.tracker } ++
        (edited h s e).announceEvents (s.uprooted e) e.moved := by
  cases c with
  | linesDeleted first count =>
    obtain rfl := Option.some.inj hc
    exact ⟨rfl, rfl⟩
  | linesInserted first count =>
    obtain rfl := Option.some.inj hc
    rw [uprooted_of_nil rfl, edited_of_nil rfl]
    exact ⟨rfl, rfl⟩
  | charactersInserted start count =>
    obtain rfl := Option.some.inj hc
    rw [uprooted_of_nil rfl, edited_of_nil rfl]
    exact ⟨rfl, rfl⟩
  | charactersDeleted start count =>
    obtain rfl := Option.some.inj hc
    rw [uprooted_of_nil rfl, edited_of_nil rfl]
    exact ⟨rfl, rfl⟩
  | _ => cases hc

theorem notices_discards (bs : List BookmarkId) (s : Margin κ ω) :
    (discardsEvents h bs s).filterMap Event.notice? = [] := by
  induction bs generalizing s with
  | nil => rfl
  | cons b bs ih =>
    have hleaving : (s.leaving b).filterMap Event.notice? = [] := by
      unfold leaving
      split <;> rfl
    rw [discardsEvents, List.filterMap_append, hleaving, ih]
    rfl

theorem notices_announce (s : Margin κ ω) (removed : List BookmarkId) (anchors : List Anchor) :
    (s.announceEvents removed anchors).filterMap Event.notice? =
      let moved := s.stored.filter fun b => (s.bookmark b).anchor ∈ anchors
      removed.map (.changed · true) ++ moved.map (.changed · false) ++
        if removed.isEmpty && moved.isEmpty then [] else [.redraw] := by
  have htold : ∀ (bs : List BookmarkId) (flag : Bool),
      (bs.map (Event.told · flag)).filterMap Event.notice? = bs.map (.changed · flag) := by
    intro bs flag
    simp [List.filterMap_map, Function.comp_def, Event.notice?]
  unfold announceEvents
  simp only [List.filterMap_append, htold]
  split <;> rfl

/-- The bookmark is on another line, or on another stretch of text, than before. -/
def Displaced (s t : Margin κ ω) (b : BookmarkId) : Prop :=
  t.lineNumber? b ≠ s.lineNumber? b ∨ t.span? b ≠ s.span? b

instance (s t : Margin κ ω) (b : BookmarkId) : Decidable (s.Displaced t b) := by
  unfold Displaced; infer_instance

/-- What is to be told of an edit that led from `s` to `t`: which bookmarks are gone, and which are
somewhere else. Those that the edit grazes are told of as well. -/
def Command.notices (c : Command) (s t : Margin κ ω) : List Notice :=
  let removed := s.stored.filter fun b => b ∉ t.stored
  let moved := t.stored.filter fun b =>
    s.Displaced t b ∨ c.Grazes s.tracker (s.bookmark b).anchor
  removed.map (.changed · true) ++ moved.map (.changed · false) ++
    if removed.isEmpty && moved.isEmpty then [] else [.redraw]

variable [DecidableEq κ] {k : κ} {heard : ω → List Sighting}

/-- Just those bookmarks are gone whose anchors the tracker gave up. -/
theorem stored_edit (hrec : Records h k heard) (hc : c.edited? s.tracker = some e) :
    (perform h s c).1.stored = s.stored.filter fun b => b ∉ s.uprooted e := by
  rw [(perform_edit hc).1, (announce_alike hrec.aloof _ _ _).stored]
  exact (hushed_discardAll hrec { s with tracker := e.tracker } (s.uprooted e)).stored

theorem rests_edit (ha : Aloof h) (hc : c.edited? s.tracker = some e) :
    Rests { s with tracker := e.tracker } (edited h s e) ∧
      Rests (edited h s e) (perform h s c).1 := by
  rw [(perform_edit hc).1]
  exact ⟨rests_discards ha _ _, rests_announce ha _ _ _⟩

theorem displaced_or_grazed_iff (ha : Aloof h) (hs : s.tracker.Sound)
    (hc : c.edited? s.tracker = some e) (b : BookmarkId) :
    (s.Displaced (perform h s c).1 b ∨ c.Grazes s.tracker (s.bookmark b).anchor) ↔
      (s.bookmark b).anchor ∈ e.moved := by
  obtain ⟨hedited, htold⟩ := rests_edit ha hc
  have hrests := hedited.trans htold
  rw [mem_moved_iff hs hc, Displaced, hrests.lineNumber?, hrests.span?, or_assoc]
  rfl

/-- Whatever happened before, a recorder hears of an edit just what is to be told of it, in order,
and each stored bookmark has one place in the order. -/
theorem edit_told {g : Reaction κ ω} (hg : Lawful Command.Fair g) {lineCount : Option Int} {w : ω}
    (hr : Run Command.Fair Aside g (empty lineCount w) s) (hrec : Attends h k heard)
    (hchanged : s.changed.listeners.count k = 1) (hredraw : s.redraw.listeners.count k = 1)
    (hc : c.Edits) :
    s.stored.Nodup ∧ (perform h s c).1.stored.Sublist s.stored ∧
    ∃ l, heard (perform h s c).1.shared = heard s.shared ++ l ∧
      news l = c.notices s (perform h s c).1 := by
  obtain ⟨e, he⟩ := hc.edited s.tracker
  have hsound := sound_of_run hg hr
  have hlisted := listed_of_run (hg.mono fun _ _ => Command.Fair.made)
    (run_mono (fun _ _ => Command.Fair.made) (fun _ _ => id) hr)
  have hmade : c.Made s := by
    cases c with
    | add b => exact hc.elim
    | _ => trivial
  have hstored := stored_edit hrec.toRecords he
  obtain ⟨-, -, l, hl, hnews⟩ := hears_course hrec (course_perform hmade) hchanged hredraw
  refine ⟨hlisted.nodup, hstored ▸ List.filter_sublist, l, hl, ?_⟩
  have hgone : s.stored.filter (fun b => b ∉ (perform h s c).1.stored) = s.uprooted e := by
    refine List.filter_congr fun b hb => ?_
    simp [hstored, hb, uprooted]
  have hmoved : (edited h s e).stored.filter
      (fun b => ((edited h s e).bookmark b).anchor ∈ e.moved) =
      (perform h s c).1.stored.filter
        fun b => s.Displaced (perform h s c).1 b ∨ c.Grazes s.tracker (s.bookmark b).anchor := by
    have hsame : (perform h s c).1.stored = (edited h s e).stored := by
      rw [(perform_edit he).1, (announce_alike hrec.aloof _ _ _).stored]
    rw [hsame]
    refine List.filter_congr fun b _ => decide_eq_decide.mpr ?_
    rw [displaced_or_grazed_iff hrec.aloof hsound he, (rests_edit hrec.aloof he).1.anchor]
    rfl
  rw [hnews, (perform_edit he).2, List.filterMap_append, notices_discards, notices_announce,
    List.nil_append]
  dsimp only [Command.notices]
  rw [hmoved, hgone]

end Edit

/-- Two breakpoints, and a parse error of no length. -/
def pinned : Margin Bool (List Sighting) :=
  performAll scribe (((empty none []).subscribe true .changed).subscribe true .redraw)
    [.toggleBreakpoint 3, .toggleBreakpoint 5, .replaceParseErrors [⟨5, 0, 1, "unexpected end"⟩]]

theorem run_pinned : Run Command.Fair Aside scribe (empty none []) pinned := by
  refine .head (.aside (.subscribe _ true .changed trivial)) ?_
  refine .head (.aside (.subscribe _ true .redraw trivial)) ?_
  refine run_performAll_cons trivial (run_performAll_cons trivial (run_performAll_cons ?_ .refl))
  simp [Command.Fair, Diagnostic.finding, Span.Valid]

theorem edit_told_pinned :
    Run Command.Fair Aside scribe (empty none []) pinned ∧ Attends scribe true id ∧
    pinned.changed.listeners.count true = 1 ∧ pinned.redraw.listeners.count true = 1 ∧
    (Command.linesDeleted 3 1).notices pinned (perform scribe pinned (.linesDeleted 3 1)).1 =
      [.changed 0 true, .changed 1 false, .redraw] ∧
    pinned.stored.Nodup ∧
    (perform scribe pinned (.linesDeleted 3 1)).1.stored.Sublist pinned.stored ∧
    ∃ l, id (perform scribe pinned (.linesDeleted 3 1)).1.shared = id pinned.shared ++ l ∧
      news l = (Command.linesDeleted 3 1).notices pinned
        (perform scribe pinned (.linesDeleted 3 1)).1 :=
  ⟨run_pinned, attends_scribe, by decide +kernel, by decide +kernel, by decide +kernel,
    edit_told (.aloof records_scribe.aloof) run_pinned attends_scribe (by decide +kernel)
      (by decide +kernel) trivial⟩

/-- Nothing is anywhere else after the deletion, and the parse error is told of all the same. -/
theorem told_in_vain_pinned :
    Run Command.Fair Aside scribe (empty none []) pinned ∧ Attends scribe true id ∧
    pinned.changed.listeners.count true = 1 ∧ pinned.redraw.listeners.count true = 1 ∧
    (perform scribe pinned (.charactersDeleted 5 1)).1.stored = pinned.stored ∧
    (∀ b ∈ pinned.stored, ¬ pinned.Displaced (perform scribe pinned (.charactersDeleted 5 1)).1 b) ∧
    (perform scribe pinned (.charactersDeleted 5 1)).1.shared =
      pinned.shared ++ [⟨.changed 2 false, [0, 1, 2]⟩, ⟨.redraw, [0, 1, 2]⟩] :=
  ⟨run_pinned, attends_scribe, by decide +kernel, by decide +kernel, by decide +kernel,
    by decide +kernel, by decide +kernel⟩

end Margin

end Scriptorium
