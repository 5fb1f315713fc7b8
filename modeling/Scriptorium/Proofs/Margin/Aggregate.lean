import Scriptorium.Proofs.Margin.Account
import Scriptorium.Proofs.Margin.Consistent
import Scriptorium.Proofs.Margin.Mirror

/-!
How often a command asks for a redraw, when no listener calls back. What such a listener hears of
bookmarks and redraws is what the command tells of, so it is enough to look at the events. Most
commands ask for one redraw at most, at the end, and for one if they told of anything. Those that
move the debug point are put together from others, and each part asks for a redraw of its own.
-/

namespace Scriptorium
set_option autoImplicit false

def Notice.isChange : Notice → Bool
  | .changed _ _ => true
  | _ => false

def Event.isChange : Event → Bool
  | .told _ _ => true
  | _ => false

namespace Margin
variable {κ ω : Type}

def redraws (l : List Sighting) : Nat := l.countP fun x => x.notice = .redraw

def changes (l : List Sighting) : Nat := l.countP fun x => x.notice.isChange

section Events
variable {h : Reaction κ ω} {s : Margin κ ω}

/-- One redraw is asked for at most, and one if anything is told of. -/
structure Aggregate (l : List Event) : Prop where
  most : l.count .redraw ≤ 1
  told : ∀ e ∈ l, e.isChange → .redraw ∈ l

/-- No redraw is asked for but at the end. -/
theorem aggregate_append {l l' : List Event} (hl : .redraw ∉ l) (hl' : l'.count .redraw ≤ 1)
    (htold : ∀ e ∈ l ++ l', e.isChange → .redraw ∈ l') : Aggregate (l ++ l') where
  most := by
    rw [List.count_append, List.count_eq_zero_of_not_mem hl, zero_add]
    exact hl'
  told e he hchange := List.mem_append_right l (htold e he hchange)

theorem aggregate_nil : Aggregate [] := ⟨Nat.zero_le _, fun _ he => by cases he⟩

theorem aggregate_entry (s : Margin κ ω) (b : BookmarkId) : Aggregate (entryEvents h s b) := by
  unfold entryEvents
  split
  · exact ⟨by simp, fun _ _ _ => by simp⟩
  · exact aggregate_nil

theorem aggregate_removal (s : Margin κ ω) (b : BookmarkId) : Aggregate (s.removalEvents b) := by
  unfold removalEvents
  split
  · exact ⟨by simp, fun _ _ _ => by simp⟩
  · exact aggregate_nil

theorem redraw_leaving (s : Margin κ ω) (b : BookmarkId) : .redraw ∉ s.leaving b :=
  fun hmem => nomatch mem_leaving hmem

theorem redraw_drops (bs : List BookmarkId) (s : Margin κ ω) : .redraw ∉ dropsEvents h bs s := by
  induction bs generalizing s with
  | nil => exact List.not_mem_nil
  | cons b bs ih =>
    unfold dropsEvents
    simp [redraw_leaving, ih]

theorem redraw_discards (bs : List BookmarkId) (s : Margin κ ω) :
    .redraw ∉ discardsEvents h bs s := by
  induction bs generalizing s with
  | nil => exact List.not_mem_nil
  | cons b bs ih =>
    unfold discardsEvents
    simp [redraw_leaving, ih]

theorem silent_discards (bs : List BookmarkId) (s : Margin κ ω) :
    ∀ e ∈ discardsEvents h bs s, ¬ e.isChange := by
  induction bs generalizing s with
  | nil => exact nofun
  | cons b bs ih =>
    intro e he
    rcases List.mem_append.mp he with he | he
    · exact mem_leaving he ▸ Bool.false_ne_true
    · exact ih _ e he

theorem redraw_keep (bs : List BookmarkId) (wanted : List Finding) (s : Margin κ ω) :
    .redraw ∉ keepEvents h bs wanted s := by
  induction bs generalizing wanted s with
  | nil => exact List.not_mem_nil
  | cons b bs ih =>
    unfold keepEvents
    split
    · split
      · split
        · exact ih _ _
        · exact List.not_mem_nil
      · exact ih _ _
    · simp [redraw_leaving, ih]

theorem redraw_report (fs : List Finding) (s : Margin κ ω) : .redraw ∉ reportEvents h fs s := by
  induction fs generalizing s with
  | nil => exact List.not_mem_nil
  | cons f fs ih =>
    unfold reportEvents
    split <;> simp [ih]

theorem aggregate_sweep (s : Margin κ ω) (kind : Kind) (line : Int) :
    Aggregate (sweepEvents h s kind line) := by
  unfold sweepEvents
  dsimp only
  rcases s.stored.filter (fun b => s.IsAt kind line b) with _ | ⟨b, bs⟩
  · exact aggregate_nil
  · exact aggregate_append (redraw_drops _ s) (by simp) fun _ _ _ => by simp

theorem aggregate_announce {l : List Event} (hl : .redraw ∉ l) (hsilent : ∀ e ∈ l, ¬ e.isChange)
    (s : Margin κ ω) (removed : List BookmarkId) (anchors : List Anchor) :
    Aggregate (l ++ s.announceEvents removed anchors) := by
  unfold announceEvents
  dsimp only
  rw [← List.append_assoc]
  refine aggregate_append (by simp [hl]) (by split <;> simp) ?_
  intro e he hchange
  split
  · rename_i hnone
    simp only [Bool.and_eq_true, List.isEmpty_iff] at hnone
    rw [if_pos (by simp [hnone]), hnone.1, hnone.2, List.append_nil] at he
    exact absurd hchange (hsilent e (by simpa using he))
  · exact List.mem_singleton_self _

theorem changed_keep (bs : List BookmarkId) (wanted : List Finding) (flag : Bool) (s : Margin κ ω)
    {r : List Finding × Bool} (hr : (keepParseErrors h bs wanted flag s).2 = .ok r) :
    (flag = true → r.2 = true) ∧ ∀ e ∈ keepEvents h bs wanted s, e.isChange → r.2 = true := by
  induction bs generalizing wanted flag s with
  | nil =>
    cases hr
    exact ⟨id, fun e he => by cases he⟩
  | cons b bs ih =>
    unfold keepParseErrors at hr
    unfold keepEvents
    split at hr
    · rename_i hwanted
      rw [if_pos hwanted]
      dsimp only at hr
      split at hr
      · rename_i hfree
        rw [if_pos hfree]
        generalize markParseError h s b = marked at hr ⊢
        obtain ⟨t, _ | ⟨⟩⟩ := marked
        · cases hr
        · obtain ⟨hflag, htold⟩ := ih _ _ _ hr
          exact ⟨fun _ => hflag rfl, htold⟩
      · rename_i hfree
        rw [if_neg hfree]
        exact ih _ _ _ hr
    · rename_i hwanted
      rw [if_neg hwanted]
      obtain ⟨hflag, _⟩ := ih _ _ _ hr
      exact ⟨fun _ => hflag rfl, fun _ _ _ => hflag rfl⟩

/-- Setting the debug point and clearing it are put together from operations that ask for a redraw
each. -/
def Command.MovesDebugPoint : Command → Prop
  | .setDebugPoint _ | .clearDebugPoint => True
  | _ => False

theorem error_of_map {α β : Type} {f : α → β} {r : Except Misplaced α} {e : Misplaced}
    (he : r.map f = .error e) : r = .error e := by
  cases r with
  | error e' =>
    cases he
    rfl
  | ok a => cases he

theorem entryEvents_of_error {b : BookmarkId} {e : Misplaced} (he : (add h s b).2 = .error e) :
    entryEvents h s b = [] := by
  rw [entryEvents, he]

theorem lineEvents_of_error {kind : Kind} {line : Int} {e : Misplaced}
    (he : (addOnLine h s kind line).2 = .error e) : lineEvents h s kind line = [] := by
  unfold addOnLine at he
  rw [newBookmark_line] at he
  dsimp only at he
  refine entryEvents_of_error (e := e) ?_
  rw [newBookmark_line]
  split at he
  · cases he
  · cases he
  · rename_i heq
    cases he
    rw [heq]

theorem sweepEvents_of_none (kind : Kind) (line : Int) (hr : (removeAt h s kind line).2 = 0) :
    sweepEvents h s kind line = [] := by
  have hnone : s.stored.filter (fun b => s.IsAt kind line b) = [] :=
    List.eq_nil_of_length_eq_zero hr
  rw [sweepEvents, hnone]
  rfl

/-- When a parse error cannot be shown, what was told of before is not followed by a redraw. -/
theorem aggregate_replace (ds : List Diagnostic)
    (hleft : ¬ s.HasLineError → ¬ (replaceParseErrors h s ds).1.HasLineError) :
    (∀ bs, (replaceParseErrors h s ds).2 = .ok bs → Aggregate (replaceEvents h s ds)) ∧
    ∀ e, (replaceParseErrors h s ds).2 = .error e → .redraw ∉ replaceEvents h s ds := by
  have hkeep := fun r =>
    changed_keep (h := h) (s.bookmarksOf .parseError) (findings ds) false s (r := r)
  have hnone := redraw_keep (h := h) (s.bookmarksOf .parseError) (findings ds) s
  unfold replaceEvents
  by_cases hline : s.HasLineError
  · rw [if_pos hline]
    exact ⟨fun _ _ => aggregate_nil, fun _ _ => List.not_mem_nil⟩
  rw [if_neg hline]
  have hcall := replaceParseErrors_of_not_hasLineError hline h ds
  rw [reconcile] at hcall
  rcases hkept : keepParseErrors h (s.bookmarksOf .parseError) (findings ds) false s with
    ⟨t, e | ⟨wanted, changed⟩⟩
  · rw [hkept] at hcall
    rw [hcall]
    exact ⟨fun _ he => (by cases he), fun _ _ => by simpa using hnone⟩
  · obtain ⟨_, htold⟩ := hkeep _ (congrArg Prod.snd hkept)
    have hreport := redraw_report (h := h) wanted t
    rw [hkept] at hcall
    dsimp only [missingEvents] at hcall ⊢
    rcases hadded : addParseErrors h wanted t with ⟨u, e | done⟩
    · rw [hadded] at hcall
      rw [hcall]
      exact ⟨fun _ he => (by cases he), fun _ _ => by simp [hnone, hreport]⟩
    · cases done
      rw [hadded] at hcall
      replace hleft := hleft hline
      rw [hcall] at hleft ⊢
      dsimp only at hleft ⊢
      rw [arranged_of_not_hasLineError hleft]
      refine ⟨fun _ _ => ?_, fun _ he => (by cases he)⟩
      rw [← List.append_assoc]
      refine aggregate_append (by simp [hnone, hreport]) (by split <;> simp) ?_
      intro e he hchange
      have hchanged : (changed || !wanted.isEmpty) = true := by
        rcases wanted with _ | ⟨f, fs⟩
        · cases changed with
          | true => rfl
          | false => exact htold e (by simpa [reportEvents] using he) hchange
        · simp
      simp [hchanged]

theorem aggregate_events [DecidableEq κ] (ha : Aloof h)
    (hknown : ∀ b ∈ s.stored, b < s.bookmarks.size) {c : Command} (hc : ¬ c.MovesDebugPoint) :
    (∀ r, (perform h s c).2 = .ok r → Aggregate (c.events h s)) ∧
    ∀ e, (perform h s c).2 = .error e → .redraw ∉ c.events h s := by
  cases c with
  | add b =>
    refine ⟨fun _ _ => aggregate_entry s b, fun e he => ?_⟩
    change Event.redraw ∉ entryEvents h s b
    rw [entryEvents_of_error (error_of_map he)]
    exact List.not_mem_nil
  | remove b => exact ⟨fun _ _ => aggregate_removal s b, nofun⟩
  | removeAt kind line => exact ⟨fun _ _ => aggregate_sweep s kind line, nofun⟩
  | toggleBreakpoint line =>
    have hsweep := aggregate_sweep (h := h) s .breakpoint line
    have hnone := sweepEvents_of_none (h := h) (s := s) .breakpoint line
    unfold Command.events perform toggleBreakpoint
    dsimp only
    generalize Margin.removeAt h s .breakpoint line = r at hnone ⊢
    obtain ⟨t, _ | n⟩ := r
    · rw [hnone rfl]
      refine ⟨fun _ _ => aggregate_entry _ _, fun e he => ?_⟩
      change Event.redraw ∉ lineEvents h t .breakpoint line
      rw [lineEvents_of_error (error_of_map he)]
      exact List.not_mem_nil
    · exact ⟨fun _ _ => hsweep, nofun⟩
  | setDebugPoint line => exact absurd trivial hc
  | clearDebugPoint => exact absurd trivial hc
  | replaceParseErrors ds =>
    obtain ⟨hok, herror⟩ :=
      aggregate_replace ds fun hs => not_hasLineError_replaced ha hknown hs ds
    refine ⟨fun r hr => ?_, fun e he => herror e (error_of_map he)⟩
    cases hreply : (replaceParseErrors h s ds).2 with
    | ok bs => exact hok bs hreply
    | error e =>
      have heq : (replaceParseErrors h s ds).2.map Reply.bookmarks = .ok r := hr
      rw [hreply] at heq
      cases heq
  | linesInserted first count =>
    exact ⟨fun _ _ => aggregate_announce (l := []) List.not_mem_nil nofun _ _ _, nofun⟩
  | linesDeleted first count =>
    exact ⟨fun _ _ => aggregate_announce (redraw_discards _ _) (silent_discards _ _) _ _ _, nofun⟩
  | charactersInserted start count =>
    exact ⟨fun _ _ => aggregate_announce (l := []) List.not_mem_nil nofun _ _ _, nofun⟩
  | charactersDeleted start count =>
    exact ⟨fun _ _ => aggregate_announce (l := []) List.not_mem_nil nofun _ _ _, nofun⟩
  | _ => exact ⟨fun _ _ => aggregate_nil, fun _ _ => List.not_mem_nil⟩

end Events

section DebugPoint
variable [DecidableEq κ] {h : Reaction κ ω} {s : Margin κ ω} (ha : Aloof h)
include ha

theorem stored_remove (s : Margin κ ω) (b : BookmarkId) :
    (remove h s b).1.stored = s.stored.filter (· ≠ b) := by
  unfold remove
  split
  · rw [(notifyChanged_alike ha _ b true).stored, (notifyRedraw_alike ha _).stored,
      stored_discard ha]
  · rename_i hb
    refine (List.filter_eq_self.mpr fun c hc => ?_).symm
    exact decide_eq_true fun hcb : c = b => hb (hcb ▸ hc)

/-- Each of them is still stored when its turn comes. -/
theorem redraws_removals {bs : List BookmarkId} (hn : bs.Nodup) (hbs : ∀ b ∈ bs, b ∈ s.stored) :
    (removalsEvents h bs s).count .redraw = bs.length := by
  induction bs generalizing s with
  | nil => rfl
  | cons b bs ih =>
    obtain ⟨hb, hn⟩ := List.nodup_cons.mp hn
    have hrest : ∀ c ∈ bs, c ∈ (remove h s b).1.stored := by
      intro c hc
      rw [stored_remove ha]
      refine List.mem_filter.mpr ⟨hbs c (List.mem_cons_of_mem b hc), ?_⟩
      exact decide_eq_true fun hcb : c = b => hb (hcb ▸ hc)
    unfold removalsEvents removalEvents
    rw [if_pos (hbs b List.mem_cons_self), List.count_append, ih hn hrest]
    simp [add_comm]

end DebugPoint

/-- How many bookmarks the answer names. -/
def taken? : Except Misplaced (Option BookmarkId) → Nat
  | .ok (some _) => 1
  | _ => 0

theorem redraws_line (h : Reaction κ ω) (s : Margin κ ω) (kind : Kind) (line : Int) :
    (lineEvents h s kind line).count .redraw = taken? (addOnLine h s kind line).2 := by
  unfold lineEvents entryEvents addOnLine
  rw [newBookmark_line]
  dsimp only
  generalize add h _ s.bookmarks.size = r
  obtain ⟨t, _ | _ | _⟩ := r <;> rfl

/-- Listener `k` records what it hears and stays subscribed; no listener calls back. -/
structure Attends [DecidableEq κ] (h : Reaction κ ω) (k : κ) (heard : ω → List Sighting) : Prop
    extends Records h k heard where
  redraw : ∀ j n s, (h j n s).1.redraw.listeners.count k = s.redraw.listeners.count k

section Heard
variable [DecidableEq κ] {h : Reaction κ ω} {k : κ} {heard : ω → List Sighting} {s : Margin κ ω}
variable {p : Notice → Bool}

def tally (p : Notice → Bool) (l : List Sighting) : Nat := l.countP fun x => p x.notice

/-- `k` hears of each change and each redraw once, and has heard `q` notices of the sort. -/
structure Tallied (k : κ) (heard : ω → List Sighting) (p : Notice → Bool) (q : ℤ)
    (s : Margin κ ω) : Prop where
  changed : s.changed.listeners.count k = 1
  redraw : s.redraw.listeners.count k = 1
  tally : (tally p (heard s.shared) : ℤ) = q

/-- What is heard of the event, if it is of the sort. -/
def share (p : Notice → Bool) : Event → ℤ
  | .told b removed => if p (.changed b removed) then 1 else 0
  | .redraw => if p .redraw then 1 else 0
  | _ => 0

omit [DecidableEq κ] in
theorem worth_share_redraw (l : List Event) :
    worth (share fun n => n = .redraw) l = l.count .redraw := by
  induction l with
  | nil => rfl
  | cons e l ih =>
    rw [worth_cons, ih, List.count_cons]
    cases e <;> simp [share, add_comm]

omit [DecidableEq κ] in
theorem worth_share_changes (l : List Event) :
    worth (share Notice.isChange) l = l.countP Event.isChange := by
  induction l with
  | nil => rfl
  | cons e l ih =>
    rw [worth_cons, ih, List.countP_cons]
    cases e <;> simp [share, Event.isChange, Notice.isChange, add_comm]

theorem accounts_tallied (hrec : Attends h k heard) :
    Accounts h k (Tallied k heard p) fun n => if p n then 1 else 0 where
  self n q s hs := by
    refine ⟨(hrec.attends k n s).trans hs.changed, (hrec.redraw k n s).trans hs.redraw, ?_⟩
    rw [hrec.hears, Margin.tally, List.countP_append, ← hs.tally]
    simp [Margin.tally, List.countP_singleton]
  others j hj n q s hs := by
    refine ⟨(hrec.attends j n s).trans hs.changed, (hrec.redraw j n s).trans hs.redraw, ?_⟩
    rw [hrec.others j n s hj]
    exact hs.tally
  silent q s t hst hs :=
    ⟨hst.changed ▸ hs.changed, hst.redraw ▸ hs.redraw, hst.shared ▸ hs.tally⟩

theorem carries_tallied (hrec : Attends h k heard)
    (hp : ∀ m, p (.markerRedraw m) = false ∧ p (.markerDeleted m) = false) :
    Carries h (Tallied k heard p) (share p) where
  silent := (accounts_tallied hrec).silent
  make _ _ _ _ hs := ⟨hs.changed, hs.redraw, hs.tally⟩
  restyle q s m hs := by simpa [(hp m).1] using (accounts_tallied hrec).markerRedraw m hs
  delete q s m hs := by
    refine (accounts_tallied hrec).removeMarker (fun m => by simp [hp m]) ?_ m hs
    exact fun _ _ _ hs => ⟨hs.changed, hs.redraw, hs.tally⟩
  enter q _ _ _ _ hs := (add_zero q).symm ▸ ⟨hs.changed, hs.redraw, hs.tally⟩
  report q _ _ hs := (add_zero q).symm ▸ ⟨hs.changed, hs.redraw, hs.tally⟩
  leave q _ _ _ hs := (add_zero q).symm ▸ ⟨hs.changed, hs.redraw, hs.tally⟩
  tell q s b removed hs := by
    simpa [share, hs.changed] using (accounts_tallied hrec).changed b removed hs
  redraw q s hs := by simpa [share, hs.redraw] using (accounts_tallied hrec).redraw hs

theorem kept_heard (l : List Sighting) : Kept fun t : Margin κ ω => l <+: heard t.shared where
  silent _ _ hst hs := hst.shared ▸ hs
  make _ _ _ hs := hs
  unlive _ _ _ hs := hs
  enter _ _ _ _ hs := hs
  report _ _ hs := hs
  leave _ _ _ hs := hs

theorem Attends.heeds_heard (hrec : Attends h k heard) (l : List Sighting) :
    Heeds h fun t => l <+: heard t.shared := by
  intro j n t ht
  by_cases hj : j = k
  · rw [hj, hrec.hears]
    exact ht.trans (List.prefix_append _ _)
  · rw [hrec.others j n t hj]
    exact ht

/-- What is heard of a command, told apart by the sort of the notices. -/
theorem heard_perform (hrec : Attends h k heard) (hchanged : s.changed.listeners.count k = 1)
    (hredraw : s.redraw.listeners.count k = 1) {c : Command} (hc : c.Made s) :
    ∃ l, heard (perform h s c).1.shared = heard s.shared ++ l ∧
      redraws l = (c.events h s).count .redraw ∧
      changes l = (c.events h s).countP Event.isChange := by
  obtain ⟨l, hl⟩ := (kept_heard (heard s.shared)).perform (hrec.heeds_heard _) hc List.prefix_rfl
  have htally : ∀ p : Notice → Bool,
      (∀ m, p (.markerRedraw m) = false ∧ p (.markerDeleted m) = false) →
      (tally p l : ℤ) = worth (share p) (c.events h s) := by
    intro p hp
    have hdone := ((carries_tallied hrec hp).perform hc ⟨hchanged, hredraw, rfl⟩).tally
    rw [← hl, tally, List.countP_append, Nat.cast_add] at hdone
    exact add_left_cancel hdone
  refine ⟨l, hl.symm, ?_, ?_⟩
  · have hcount := htally (fun n => n = .redraw) fun m => ⟨rfl, rfl⟩
    rw [worth_share_redraw] at hcount
    exact_mod_cast hcount
  · have hcount := htally Notice.isChange fun m => ⟨rfl, rfl⟩
    rw [worth_share_changes] at hcount
    exact_mod_cast hcount

/-- Whatever happened before, a command under listeners that do not call back asks for one redraw at
most, and for one if it told of anything and did not fail. Only moving the debug point takes a
redraw for each debug point that goes and one for the new one. -/
theorem redraws_of_command {g : Reaction κ ω} (hg : Lawful Command.Made g)
    {lineCount : Option Int} {w : ω} (hr : Run Command.Made Aside g (empty lineCount w) s)
    (hrec : Attends h k heard) (hchanged : s.changed.listeners.count k = 1)
    (hredraw : s.redraw.listeners.count k = 1) {c : Command} (hc : c.Made s) :
    ∃ l, heard (perform h s c).1.shared = heard s.shared ++ l ∧
      (¬ c.MovesDebugPoint → redraws l ≤ 1 ∧
        (∀ r, (perform h s c).2 = .ok r → 0 < changes l → redraws l = 1) ∧
        ∀ e, (perform h s c).2 = .error e → redraws l = 0) ∧
      (c = .clearDebugPoint → redraws l = (s.bookmarksOf .debugPoint).length) ∧
      ∀ line, c = .setDebugPoint line →
        redraws l = (s.bookmarksOf .debugPoint).length + taken? (setDebugPoint h s line).2 := by
  have hlisted := listed_of_run hg hr
  obtain ⟨l, hl, hredraws, hchanges⟩ := heard_perform hrec hchanged hredraw hc
  have hcleared : (removalsEvents h (s.bookmarksOf .debugPoint) s).count .redraw =
      (s.bookmarksOf .debugPoint).length :=
    redraws_removals hrec.aloof (nodup_bookmarksOf hlisted.nodup _)
      fun b hb => (mem_bookmarksOf.mp hb).1
  refine ⟨l, hl, fun hmoves => ?_, ?_, ?_⟩
  · obtain ⟨hok, herror⟩ := aggregate_events hrec.aloof hlisted.known hmoves
    rw [hredraws, hchanges]
    refine ⟨?_, fun r hr htold => ?_, fun e he => List.count_eq_zero_of_not_mem (herror e he)⟩
    · cases hreply : (perform h s c).2 with
      | ok r => exact (hok r hreply).most
      | error e => exact List.count_eq_zero_of_not_mem (herror e hreply) ▸ Nat.zero_le 1
    · obtain ⟨e, he, hchange⟩ := List.countP_pos_iff.mp htold
      have hmem := (hok r hr).told e he hchange
      exact Nat.le_antisymm (hok r hr).most (List.count_pos_iff.mpr hmem)
  · rintro rfl
    exact hredraws.trans hcleared
  · rintro line rfl
    refine hredraws.trans ?_
    change (removalsEvents h (s.bookmarksOf .debugPoint) s ++
      lineEvents h (clearDebugPoint h s) .debugPoint line).count .redraw = _
    rw [List.count_append, hcleared, redraws_line]
    rfl

end Heard

theorem attends_scribe : Attends scribe true id :=
  { records_scribe with
    redraw := by
      intro j n s
      cases j <;> rfl }

/-- A debug point and a breakpoint below it, each told of and followed by a redraw. -/
def paused : Margin Bool (List Sighting) :=
  performAll scribe (((empty none []).subscribe true .changed).subscribe true .redraw)
    [.setDebugPoint 3, .toggleBreakpoint 4]

theorem run_paused : Run Command.Made Aside scribe (empty none []) paused := by
  refine .head (.aside (.subscribe _ true .changed trivial)) ?_
  refine .head (.aside (.subscribe _ true .redraw trivial)) ?_
  exact run_performAll_cons trivial (run_performAll_cons trivial .refl)

theorem redraws_of_command_paused :
    Run Command.Made Aside scribe (empty none []) paused ∧
    paused.changed.listeners.count true = 1 ∧ paused.redraw.listeners.count true = 1 ∧
    ∃ l, id (perform scribe paused (.linesDeleted 3 1)).1.shared = id paused.shared ++ l ∧
      (¬ (Command.linesDeleted 3 1).MovesDebugPoint → redraws l ≤ 1 ∧
        (∀ r, (perform scribe paused (.linesDeleted 3 1)).2 = .ok r → 0 < changes l →
          redraws l = 1) ∧
        ∀ e, (perform scribe paused (.linesDeleted 3 1)).2 = .error e → redraws l = 0) ∧
      (.linesDeleted 3 1 = Command.clearDebugPoint →
        redraws l = (paused.bookmarksOf .debugPoint).length) ∧
      ∀ line, .linesDeleted 3 1 = Command.setDebugPoint line →
        redraws l = (paused.bookmarksOf .debugPoint).length +
          taken? (setDebugPoint scribe paused line).2 :=
  ⟨run_paused, by decide, by decide, redraws_of_command (.aloof records_scribe.aloof) run_paused
    attends_scribe (by decide) (by decide) trivial⟩

/-- The debug point moves from the third line to the fifth. -/
theorem two_redraws_paused :
    Run Command.Made Aside scribe (empty none []) paused ∧ Attends scribe true id ∧
    paused.changed.listeners.count true = 1 ∧ paused.redraw.listeners.count true = 1 ∧
    (perform scribe paused (.setDebugPoint 5)).2 = .ok (.bookmark (some 2)) ∧
    redraws (perform scribe paused (.setDebugPoint 5)).1.shared = redraws paused.shared + 2 := by
  refine ⟨run_paused, attends_scribe, ?_⟩
  decide +kernel

end Margin

end Scriptorium
