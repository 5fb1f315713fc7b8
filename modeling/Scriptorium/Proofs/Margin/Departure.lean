import Scriptorium.Proofs.Margin.Account
import Scriptorium.Proofs.Margin.Mirror

/-!
How often a departure is told of when listeners take bookmarks out in the middle of a command. What
a listener heard of the departures of a bookmark, and whether that is stored now, add up to an
account: whoever takes the bookmark out and then tells of it leaves the account as it was. So each
bookmark that leaves is told of, and more often than once only if a command tells of it without
having taken it out (`Command.Prompt`). That can happen only where a command goes through several
bookmarks that it found at its beginning and does not look again whether each is still stored
(`Command.Careful`).
-/

namespace Scriptorium
set_option autoImplicit false

/-- Nothing leaves, and nothing is told of as if it had left. -/
def Event.Stays : Event → Prop
  | .leave _ | .told _ true => False
  | _ => True

namespace Margin
variable {κ ω : Type}

section Counts
variable (h : Reaction κ ω) (s : Margin κ ω) (b : BookmarkId)

/-- The command tells of a departure only if it took the bookmark out itself. -/
def Command.Prompt (c : Command) : Prop :=
  ∀ b, (c.events h s).count (.told b true) = (c.events h s).count (.leave b)

/-- The command puts no bookmark into the margin. -/
def Command.Takes (c : Command) : Prop := c.Made s ∧ ∀ b, .enter b ∉ c.events h s

/-- As many departures are told of as there are, or more. -/
def Open (b : BookmarkId) (l : List Event) : Prop := l.count (.leave b) ≤ l.count (.told b true)

/-- As many departures are told of as there are. -/
def Matched (b : BookmarkId) (l : List Event) : Prop := l.count (.told b true) = l.count (.leave b)

variable {h s b} {l l' : List Event}

theorem Open.append (hl : Open b l) (hl' : Open b l') : Open b (l ++ l') := by
  unfold Open at hl hl' ⊢
  rw [List.count_append, List.count_append]
  exact Nat.add_le_add hl hl'

theorem Matched.append (hl : Matched b l) (hl' : Matched b l') : Matched b (l ++ l') := by
  unfold Matched at hl hl' ⊢
  rw [List.count_append, List.count_append, hl, hl']

/-- Nothing leaves. -/
theorem open_of_not_mem (hl : .leave b ∉ l) : Open b l := by
  unfold Open
  rw [List.count_eq_zero_of_not_mem hl]
  exact Nat.zero_le _

theorem count_leaving_le (s : Margin κ ω) (c : BookmarkId) :
    (s.leaving c).count (.leave b) ≤ if c = b then 1 else 0 := by
  unfold leaving
  split
  · simp [List.count_singleton]
  · simp

theorem open_drop (s : Margin κ ω) (c : BookmarkId) (hl : Open b l) :
    Open b (s.leaving c ++ .told c true :: l) := by
  have hleave := count_leaving_le (b := b) s c
  unfold Open at hl ⊢
  rw [List.count_append, List.count_append, List.count_cons, List.count_cons]
  by_cases hcb : c = b
  · subst hcb
    simp at hleave ⊢
    omega
  · simp [hcb] at hleave ⊢
    omega

theorem open_removal (s : Margin κ ω) (c : BookmarkId) : Open b (s.removalEvents c) := by
  unfold removalEvents
  split
  · simp [Open, List.count_cons]
  · exact Nat.le_refl _

theorem open_removals (bs : List BookmarkId) (s : Margin κ ω) : Open b (removalsEvents h bs s) := by
  induction bs generalizing s with
  | nil => exact Nat.le_refl _
  | cons c bs ih => exact (open_removal s c).append (ih _)

theorem open_drops (bs : List BookmarkId) (s : Margin κ ω) : Open b (dropsEvents h bs s) := by
  induction bs generalizing s with
  | nil => exact Nat.le_refl _
  | cons c bs ih => exact open_drop s c (ih _)

theorem open_keep (bs : List BookmarkId) (wanted : List Finding) (s : Margin κ ω) :
    Open b (keepEvents h bs wanted s) := by
  induction bs generalizing wanted s with
  | nil => exact Nat.le_refl _
  | cons c bs ih =>
    unfold keepEvents
    split
    · split
      · split
        · exact ih _ _
        · exact Nat.le_refl _
      · exact ih _ _
    · exact open_drop s c (ih _ _)

theorem count_discards_le (bs : List BookmarkId) (s : Margin κ ω) :
    (discardsEvents h bs s).count (.leave b) ≤ bs.count b := by
  induction bs generalizing s with
  | nil => exact Nat.le_refl _
  | cons c bs ih =>
    unfold discardsEvents
    rw [List.count_append, List.count_cons, add_comm]
    refine Nat.add_le_add (ih _) ((count_leaving_le s c).trans ?_)
    simp

theorem stays_entry (s : Margin κ ω) (c : BookmarkId) : ∀ e ∈ entryEvents h s c, e.Stays := by
  intro e he
  unfold entryEvents at he
  split at he
  · simp only [List.mem_cons, List.not_mem_nil, or_false] at he
    rcases he with rfl | rfl | rfl <;> trivial
  · cases he

theorem stays_report (fs : List Finding) (s : Margin κ ω) : ∀ e ∈ reportEvents h fs s, e.Stays := by
  induction fs generalizing s with
  | nil =>
    intro e he
    cases he
  | cons f fs ih =>
    intro e he
    unfold reportEvents at he
    rcases List.mem_cons.mp he with rfl | he
    · trivial
    · split at he
      · rcases List.mem_cons.mp he with rfl | he
        · trivial
        · exact ih _ e he
      · cases he

theorem stays_announce (s : Margin κ ω) (anchors : List Anchor) :
    ∀ e ∈ s.announceEvents [] anchors, e.Stays := by
  intro e he
  unfold announceEvents at he
  simp only [List.map_nil, List.nil_append, List.mem_append, List.mem_map] at he
  rcases he with ⟨c, _, rfl⟩ | he
  · trivial
  · split at he
    · cases he
    · obtain rfl := List.mem_singleton.mp he
      trivial

theorem open_of_stays (hl : ∀ e ∈ l, e.Stays) : Open b l :=
  open_of_not_mem fun hmem => hl _ hmem

theorem stays_missing (s : Margin κ ω) (wanted : List Finding) (changed : Bool) :
    ∀ e ∈ missingEvents h s wanted changed, e.Stays := by
  intro e he
  rcases List.mem_append.mp he with he | he
  · exact stays_report _ _ e he
  · split at he
    · cases he
    · split at he
      · obtain rfl := List.mem_singleton.mp he
        trivial
      · cases he

theorem open_replace (s : Margin κ ω) (ds : List Diagnostic) : Open b (replaceEvents h s ds) := by
  unfold replaceEvents
  split
  · exact Nat.le_refl _
  · refine (open_keep _ _ s).append ?_
    split
    · exact Nat.le_refl _
    · exact open_of_stays (stays_missing _ _ _)

theorem open_sweep (s : Margin κ ω) (kind : Kind) (line : Int) :
    Open b (sweepEvents h s kind line) := by
  refine (open_drops _ s).append (open_of_not_mem ?_)
  split <;> simp

theorem count_leave_announce (s : Margin κ ω) (bs : List BookmarkId) (anchors : List Anchor) :
    (s.announceEvents bs anchors).count (.leave b) = 0 := by
  refine List.count_eq_zero_of_not_mem fun hmem => ?_
  unfold announceEvents at hmem
  dsimp only at hmem
  split at hmem <;> simp at hmem

theorem count_told_announce (s : Margin κ ω) (bs : List BookmarkId) (anchors : List Anchor) :
    (s.announceEvents bs anchors).count (.told b true) = bs.count b := by
  have htold : (bs.map (Event.told · true)).count (.told b true) = bs.count b :=
    List.count_map_of_injective bs (fun c => Event.told c true)
      (fun _ _ heq => (Event.told.inj heq).1) b
  unfold announceEvents
  dsimp only
  rw [List.count_append, List.count_append, htold]
  split <;> simp [List.count_eq_zero]

theorem open_linesDeleted (bs : List BookmarkId) (s t : Margin κ ω) (anchors : List Anchor) :
    Open b (discardsEvents h bs s ++ t.announceEvents bs anchors) := by
  have hleave := count_discards_le (h := h) (b := b) bs s
  unfold Open
  rw [List.count_append, List.count_append, count_leave_announce, count_told_announce]
  omega

/-- Whatever command takes a bookmark out also tells of it. -/
theorem open_events (h : Reaction κ ω) (s : Margin κ ω) (c : Command) (b : BookmarkId) :
    Open b (c.events h s) := by
  cases c with
  | add c => exact open_of_stays (stays_entry s c)
  | remove c => exact open_removal s c
  | removeAt kind line => exact open_sweep s kind line
  | toggleBreakpoint line =>
    unfold Command.events
    dsimp only
    split
    · exact (open_sweep s _ line).append (open_of_stays (stays_entry _ _))
    · exact open_sweep s _ line
  | setDebugPoint line => exact (open_removals _ s).append (open_of_stays (stays_entry _ _))
  | clearDebugPoint => exact open_removals _ s
  | replaceParseErrors ds => exact open_replace s ds
  | linesInserted first count => exact open_of_stays (stays_announce _ _)
  | linesDeleted first count => exact open_linesDeleted _ _ _ _
  | charactersInserted start count => exact open_of_stays (stays_announce _ _)
  | charactersDeleted start count => exact open_of_stays (stays_announce _ _)
  | _ => exact Nat.le_refl _

theorem matched_of_not_mem (htold : .told b true ∉ l) (hleave : .leave b ∉ l) : Matched b l := by
  unfold Matched
  rw [List.count_eq_zero_of_not_mem htold, List.count_eq_zero_of_not_mem hleave]

theorem matched_of_stays (hl : ∀ e ∈ l, e.Stays) : Matched b l :=
  matched_of_not_mem (fun hmem => hl _ hmem) fun hmem => hl _ hmem

theorem matched_removal (s : Margin κ ω) (c : BookmarkId) : Matched b (s.removalEvents c) := by
  unfold removalEvents
  split
  · simp [Matched, List.count_cons]
  · rfl

theorem matched_removals (bs : List BookmarkId) (s : Margin κ ω) :
    Matched b (removalsEvents h bs s) := by
  induction bs generalizing s with
  | nil => rfl
  | cons c bs ih => exact (matched_removal s c).append (ih _)

/-- The bookmark is there when it is taken out, and nothing else happens. -/
theorem matched_drop {c : BookmarkId} (hc : c ∈ s.stored) :
    Matched b (s.leaving c ++ [.told c true]) := by
  simp [Matched, leaving, hc, List.count_cons]

theorem cases_of_length_le_one {bs : List BookmarkId} (hone : bs.length ≤ 1) :
    bs = [] ∨ ∃ c, bs = [c] := by
  rcases bs with _ | ⟨c, _ | ⟨d, bs⟩⟩
  · exact .inl rfl
  · exact .inr ⟨c, rfl⟩
  · simp at hone

section One
variable {bs : List BookmarkId} (hone : bs.length ≤ 1) (hbs : ∀ c ∈ bs, c ∈ s.stored)
include hone hbs

theorem matched_drops : Matched b (dropsEvents h bs s) := by
  rcases cases_of_length_le_one hone with rfl | ⟨c, rfl⟩
  · rfl
  · exact matched_drop (hbs c (List.mem_singleton_self c))

theorem matched_keep (wanted : List Finding) : Matched b (keepEvents h bs wanted s) := by
  rcases cases_of_length_le_one hone with rfl | ⟨c, rfl⟩
  · rfl
  · unfold keepEvents
    split
    · split
      · split <;> rfl
      · rfl
    · exact matched_drop (hbs c (List.mem_singleton_self c))

theorem matched_lineDeleted (t : Margin κ ω) (anchors : List Anchor) :
    Matched b (discardsEvents h bs s ++ t.announceEvents bs anchors) := by
  unfold Matched
  rw [List.count_append, List.count_append, count_leave_announce, count_told_announce]
  rcases cases_of_length_le_one hone with rfl | ⟨c, rfl⟩
  · rfl
  · simp [discardsEvents, leaving, hbs c (List.mem_singleton_self c), List.count_cons]

end One

theorem matched_sweep {kind : Kind} {line : Int}
    (hone : (s.stored.filter fun b => s.IsAt kind line b).length ≤ 1) :
    Matched b (sweepEvents h s kind line) := by
  refine (matched_drops hone fun c hc => (List.mem_filter.mp hc).1).append ?_
  split
  · rfl
  · exact matched_of_not_mem (by simp) (by simp)

/-- The command looks before it takes each bookmark out, or it finds one at most. -/
def Command.Careful (s : Margin κ ω) : Command → Prop
  | .removeAt kind line => (s.stored.filter fun b => s.IsAt kind line b).length ≤ 1
  | .toggleBreakpoint line => (s.stored.filter fun b => s.IsAt .breakpoint line b).length ≤ 1
  | .replaceParseErrors _ => (s.bookmarksOf .parseError).length ≤ 1
  | .linesDeleted first count => (s.stored.filter fun b =>
      (s.bookmark b).anchor ∈ (s.tracker.deleteLines first count).2.removed.map .line).length ≤ 1
  | _ => True

theorem Command.Careful.prompt {c : Command} (hc : c.Careful s) (h : Reaction κ ω) :
    c.Prompt h s := by
  intro b
  change Matched b (c.events h s)
  cases c with
  | add c => exact matched_of_stays (stays_entry s c)
  | remove c => exact matched_removal s c
  | removeAt kind line => exact matched_sweep hc
  | toggleBreakpoint line =>
    unfold Command.events
    dsimp only
    split
    · exact (matched_sweep hc).append (matched_of_stays (stays_entry _ _))
    · exact matched_sweep hc
  | setDebugPoint line =>
    exact (matched_removals _ s).append (matched_of_stays (stays_entry _ _))
  | clearDebugPoint => exact matched_removals _ s
  | replaceParseErrors ds =>
    have hkeep := matched_keep (h := h) (b := b) hc (fun c hc => (mem_bookmarksOf.mp hc).1)
      (findings ds)
    change Matched b (replaceEvents h s ds)
    unfold replaceEvents
    split
    · rfl
    · refine hkeep.append ?_
      split
      · rfl
      · exact matched_of_stays (stays_missing _ _ _)
  | linesInserted first count => exact matched_of_stays (stays_announce _ _)
  | linesDeleted first count =>
    exact matched_lineDeleted (s := { s with tracker := (s.tracker.deleteLines first count).1 }) hc
      (fun c hc => (List.mem_filter.mp hc).1) _ _
  | charactersInserted start count => exact matched_of_stays (stays_announce _ _)
  | charactersDeleted start count => exact matched_of_stays (stays_announce _ _)
  | _ => rfl

end Counts

section Owed
variable [DecidableEq κ] {h : Reaction κ ω} {k : κ} {heard : ω → List Sighting} {b : BookmarkId}
variable {τ : Prop} {q : ℤ} {s t : Margin κ ω}

/-- What an event adds to the account of the bookmark. -/
def dues (b : BookmarkId) : Event → ℤ
  | .enter c => if c = b then 1 else 0
  | .leave c => if c = b then -1 else 0
  | .told c removed => if c = b ∧ removed = true then 1 else 0
  | .redraw => 0

theorem worth_dues (b : BookmarkId) (l : List Event) :
    worth (dues b) l = l.count (.enter b) + l.count (.told b true) - l.count (.leave b) := by
  induction l with
  | nil => rfl
  | cons e l ih =>
    rw [worth_cons, ih]
    cases e with
    | enter c =>
      by_cases hcb : c = b
      · simp [dues, hcb]
        ring
      · simp [dues, hcb]
    | leave c =>
      by_cases hcb : c = b
      · simp [dues, hcb]
        ring
      · simp [dues, hcb]
    | told c removed =>
      by_cases hcb : c = b ∧ removed = true
      · simp [dues, hcb]
        ring
      · simp [dues, hcb]
    | redraw => simp [dues]

omit [DecidableEq κ] in
theorem present_concat {l : List BookmarkId} {c : BookmarkId} (hnew : c ∉ l) :
    (if b ∈ l ++ [c] then 1 else 0 : ℤ) = (if b ∈ l then 1 else 0) + if c = b then 1 else 0 := by
  by_cases hcb : c = b
  · subst hcb
    simp [hnew]
  · simp [hcb, Ne.symm hcb]

omit [DecidableEq κ] in
theorem present_filter {l : List BookmarkId} {c : BookmarkId} (hc : c ∈ l) :
    (if b ∈ l.filter (· ≠ c) then 1 else 0 : ℤ) =
      (if b ∈ l then 1 else 0) + if c = b then -1 else 0 := by
  by_cases hcb : c = b
  · subst hcb
    simp [hc]
  · simp [hcb, Ne.symm hcb]

/-- What `k` heard of the departures of the bookmark, and whether it is there: at least `q`
together, and no more if `τ` holds. -/
structure Owed (k : κ) (heard : ω → List Sighting) (b : BookmarkId) (τ : Prop) (q : ℤ)
    (s : Margin κ ω) : Prop where
  attends : s.changed.listeners.count k = 1
  listed : Listed s
  least : q ≤ departures b (heard s.shared) + if b ∈ s.stored then 1 else 0
  exact : τ → (departures b (heard s.shared) + if b ∈ s.stored then 1 else 0 : ℤ) = q

theorem Owed.moved {d : ℤ} (hs : Owed k heard b τ q s) (hchanged : t.changed = s.changed)
    (hlisted : Listed t)
    (hd : (departures b (heard t.shared) + if b ∈ t.stored then 1 else 0 : ℤ) =
      departures b (heard s.shared) + (if b ∈ s.stored then 1 else 0) + d) :
    Owed k heard b τ (q + d) t where
  attends := hchanged ▸ hs.attends
  listed := hlisted
  least := hd ▸ Int.add_le_add_right hs.least d
  exact hτ := hd ▸ congrArg (· + d) (hs.exact hτ)

/-- Only the notice that the bookmark went counts. -/
def departing (b : BookmarkId) (n : Notice) : ℤ := if n = .changed b true then 1 else 0

theorem accounts_owed (hn : Notes h k heard) (hm : Minds h k (Owed k heard b τ)) :
    Accounts h k (Owed k heard b τ) (departing b) where
  others := hm
  self n q s hs := by
    obtain ⟨w, hw, hheard⟩ := hn n s
    rw [hw]
    refine hs.moved rfl ⟨hs.listed.nodup, hs.listed.known⟩ ?_
    change (departures b (heard w) + _ : ℤ) = _
    rw [hheard, departures_concat, departing]
    push_cast
    ring
  silent q s t hst hs := by
    have hsame : Owed k heard b τ (q + 0) t := by
      refine hs.moved hst.changed (kept_listed.silent s t hst hs.listed) ?_
      rw [hst.shared, hst.stored, add_zero]
    rwa [add_zero] at hsame

theorem carries_owed (hJ : Accounts h k (Owed k heard b τ) (departing b)) :
    Carries h (Owed k heard b τ) (dues b) where
  silent := hJ.silent
  make q s u i hs := ⟨hs.attends, kept_listed.make s u i hs.listed, hs.least, hs.exact⟩
  restyle q s m hs := by simpa [departing] using hJ.markerRedraw m hs
  delete q s m hs := by
    refine hJ.removeMarker (fun m => ⟨by simp [departing], by simp [departing]⟩) ?_ m hs
    exact fun q s m hs => ⟨hs.attends, ⟨hs.listed.nodup, hs.listed.known⟩, hs.least, hs.exact⟩
  enter q s c hnew hc hs := by
    refine hs.moved rfl (kept_listed.enter s c hnew hc hs.listed) ?_
    change (departures b (heard s.shared) + _ : ℤ) = _
    rw [dues, add_assoc, ← present_concat hnew]
  report q s f hs := by
    refine hs.moved rfl (kept_listed.report s f hs.listed) ?_
    change (departures b (heard s.shared) + _ : ℤ) = _
    rw [dues, add_assoc, ← present_concat hs.listed.new]
    rfl
  leave q s c hc hs := by
    refine hs.moved rfl (kept_listed.leave s c hc hs.listed) ?_
    change (departures b (heard s.shared) + _ : ℤ) = _
    rw [dues, add_assoc, ← present_filter hc]
  tell q s c removed hs := by
    have htold := hJ.changed c removed hs
    rw [hs.attends] at htold
    simpa [departing, dues] using htold
  redraw q s hs := by simpa [departing, dues] using hJ.redraw hs

/-- An account that is up by something is not out, and if it is to be exact, it must not be up. -/
theorem Owed.eased {d : ℤ} (hd : 0 ≤ d) (hτ : τ → d = 0) (hs : Owed k heard b τ (q + d) s) :
    Owed k heard b τ q s where
  attends := hs.attends
  listed := hs.listed
  least := le_trans (le_add_of_nonneg_right hd) hs.least
  exact h := by rw [hs.exact h, hτ h, add_zero]

theorem Undisturbed.owed (hst : Undisturbed k heard s t) (hs : Owed k heard b τ q s) :
    Owed k heard b τ q t := by
  obtain ⟨hstored, _⟩ := hst.aside.stored_bookmarks
  exact {
    attends := hst.attends.trans hs.attends
    listed := hst.aside.listed hs.listed
    least := by rw [hstored, hst.heard]; exact hs.least
    exact := by rw [hstored, hst.heard]; exact hs.exact }

/-- Listeners of which `k` takes notes and the others put no bookmark in; if `τ` holds, they do not
tell of departures in vain either. -/
abbrev Retiring (τ : Prop) (k : κ) (heard : ω → List Sighting) (h : Reaction κ ω) : Prop :=
  Overheard (fun g s c => c.Takes g s ∧ (τ → c.Prompt g s)) (Undisturbed k heard) k heard h

theorem Retiring.carries (hh : Retiring τ k heard h) (b : BookmarkId) :
    Carries h (Owed k heard b τ) (dues b) := by
  have hcarries : ∀ g, Retiring τ k heard g → Minds g k (Owed k heard b τ) →
      Carries g (Owed k heard b τ) (dues b) :=
    fun g hg hm => carries_owed (accounts_owed hg.notes hm)
  refine hcarries h hh (hh.minds ?_ fun _ _ _ => Undisturbed.owed)
  rintro g hg hm q s c ⟨⟨hmade, henter⟩, hprompt⟩ hs
  refine ((hcarries g hg hm).perform hmade hs).eased ?_ ?_
  · have hopen := open_events g s c b
    unfold Open at hopen
    rw [worth_dues]
    omega
  · intro hτ
    rw [worth_dues, List.count_eq_zero_of_not_mem (henter b), hprompt hτ b]
    simp

theorem owed_subscribed (lineCount : Option Int) (w : ω) :
    ∃ q, Owed k heard b False q ((empty lineCount w).subscribe k .changed) := by
  obtain ⟨hnodup, hknown⟩ := listed_empty (κ := κ) lineCount w
  exact ⟨_, by simp [subscribe, empty], ⟨hnodup, hknown⟩, le_refl _, nofun⟩

end Owed

section Run
variable [DecidableEq κ] {h : Reaction κ ω} {k : κ} {heard : ω → List Sighting} {s : Margin κ ω}

/-- As often as a bookmark was in the margin before a command or came meanwhile, and is not there
any more, whoever hears of departures was told that it went. It was told more often just if the
command did so without having taken the bookmark out, unless another one that a listener gave did
the same. -/
theorem departures_of_run
    (hh : Overheard (fun g s c => c.Takes g s) (Undisturbed k heard) k heard h) {lineCount : Option Int} {w : ω}
    (hr : Run Command.Made (Undisturbed k heard) h ((empty lineCount w).subscribe k .changed) s)
    {c : Command} (hc : c.Made s) (b : BookmarkId) :
    let t := (perform h s c).1
    let before := departures b (heard s.shared) + (if b ∈ s.stored then 1 else 0) +
      (c.events h s).count (.enter b)
    let after := departures b (heard t.shared) + if b ∈ t.stored then 1 else 0
    before ≤ after ∧
    (Overheard (fun g s c => c.Takes g s ∧ c.Prompt g s) (Undisturbed k heard) k heard h →
      (before = after ↔ (c.events h s).count (.told b true) = (c.events h s).count (.leave b)) ∧
      (c.Careful s → before = after)) := by
  have hloose : Retiring False k heard h := hh.mono fun _ _ _ hc => ⟨hc, False.elim⟩
  obtain ⟨q, hs⟩ : ∃ q, Owed k heard b False q s := by
    refine run_induction (I := fun t => ∃ q, Owed k heard b False q t) ?_ ?_ hr
      (owed_subscribed lineCount w)
    · rintro t c hc ⟨q, ht⟩
      exact ⟨_, (hloose.carries b).perform hc ht⟩
    · rintro t u ha ⟨q, ht⟩
      exact ⟨q, ha.owed ht⟩
  have hopen := open_events h s c b
  have hafter : ∀ {τ : Prop}, Retiring τ k heard h → Owed k heard b τ
      (departures b (heard s.shared) + (if b ∈ s.stored then 1 else 0) +
        worth (dues b) (c.events h s)) (perform h s c).1 :=
    fun hτ => (hτ.carries b).perform hc ⟨hs.attends, hs.listed, le_refl _, fun _ => rfl⟩
  unfold Open at hopen
  rw [worth_dues] at hafter
  refine ⟨?_, fun hprompt => ?_⟩
  · have hleast := (hafter hloose).least
    split_ifs at hleast ⊢ <;> omega
  · have hstrict : Retiring True k heard h := hprompt.mono fun _ _ _ hc => ⟨hc.1, fun _ => hc.2⟩
    have hexact := (hafter hstrict).exact trivial
    refine ⟨?_, fun hcareful => ?_⟩
    · split_ifs at hexact ⊢ <;> omega
    · have hsame : _ = (c.events h s).count (.leave b) := hcareful.prompt h b
      split_ifs at hexact ⊢ <;> omega

end Run

theorem takes_remove {g : Reaction κ ω} {s : Margin κ ω} (b : BookmarkId) :
    (Command.remove b).Takes g s := by
  refine ⟨trivial, fun c hc => ?_⟩
  unfold Command.events removalEvents at hc
  dsimp only at hc
  split at hc <;> simp at hc

/-- A listener that takes the second bookmark out when the first has gone, and then fails. -/
def usher (_ : Bool) (n : Notice) (_ : Margin Bool (List Sighting)) : List Command × Bool :=
  match n with
  | .changed 0 true => ([.remove 1], true)
  | _ => ([], false)

theorem overheard_usher
    {P : Reaction Bool (List Sighting) → Margin Bool (List Sighting) → Command → Prop}
    (hP : ∀ b g t, P g t (.remove b)) :
    Overheard P (Undisturbed true id) true id (attended true usher 2) := by
  refine overheard_attended (fun j n s c hc g t => ?_) 2
  unfold usher at hc
  split at hc
  · obtain rfl := List.mem_singleton.mp hc
    exact hP 1 g t
  · cases hc

theorem prompt_usher :
    Overheard (fun g s c => c.Takes g s ∧ c.Prompt g s) (Undisturbed true id) true id
      (attended true usher 2) := by
  refine overheard_usher fun b g t => ⟨takes_remove b, ?_⟩
  exact Command.Careful.prompt (c := .remove b) trivial g

/-- Two listen, of which one takes notes. -/
def ushered : Margin Bool (List Sighting) :=
  ((empty none []).subscribe true .changed).subscribe false .changed

/-- Two debug points and a breakpoint. -/
def crowded : Margin Bool (List Sighting) :=
  performAll (attended true usher 2) ushered
    [.new .debugPoint (.line 3) "" none, .new .debugPoint (.line 5) "" none, .add 0, .add 1,
      .toggleBreakpoint 4]

theorem departures_of_run_crowded :
    Overheard (fun g s c => c.Takes g s) (Undisturbed true id) true id (attended true usher 2) ∧
    Overheard (fun g s c => c.Takes g s ∧ c.Prompt g s) (Undisturbed true id) true id
      (attended true usher 2) ∧
    Run Command.Made (Undisturbed true id) (attended true usher 2)
      ((empty none []).subscribe true .changed) crowded ∧
    crowded.stored = [0, 1, 2] ∧ (clearDebugPoint (attended true usher 2) crowded).stored = [2] ∧
    ∀ b, let t := (perform (attended true usher 2) crowded .clearDebugPoint).1
      let before := departures b (id crowded.shared) + (if b ∈ crowded.stored then 1 else 0) +
        (Command.clearDebugPoint.events (attended true usher 2) crowded).count (.enter b)
      let after := departures b (id t.shared) + if b ∈ t.stored then 1 else 0
      before ≤ after ∧ before = after := by
  have htakes : Overheard (fun g s c => c.Takes g s) (Undisturbed true id) true id
      (attended true usher 2) := overheard_usher fun b g t => takes_remove b
  have hrun : Run Command.Made (Undisturbed true id) (attended true usher 2)
      ((empty none []).subscribe true .changed) crowded := by
    refine .head (.aside ⟨.subscribe _ false .changed trivial, rfl, rfl⟩) ?_
    refine run_performAll_cons trivial (run_performAll_cons trivial (run_performAll_cons ?_
      (run_performAll_cons ?_ (run_performAll_cons trivial .refl))))
    · change 0 < _
      decide +kernel
    · change 1 < _
      decide +kernel
  refine ⟨htakes, prompt_usher, hrun, by decide +kernel, by decide +kernel, fun b => ?_⟩
  obtain ⟨hle, hexact⟩ := departures_of_run htakes hrun (c := .clearDebugPoint) trivial b
  exact ⟨hle, (hexact prompt_usher).2 trivial⟩

/-- Two parse errors. -/
def faulty : Margin Bool (List Sighting) :=
  performAll (attended true usher 2) ushered
    [.replaceParseErrors [⟨4, 2, 1, "unexpected end"⟩, ⟨7, 1, 1, "missing bracket"⟩]]

/-- Neither is reported any more. The second goes with the first, and is told of when it is its
turn. -/
theorem twice_departed_faulty :
    Overheard (fun g s c => c.Takes g s ∧ c.Prompt g s) (Undisturbed true id) true id
      (attended true usher 2) ∧
    Run Command.Made (Undisturbed true id) (attended true usher 2)
      ((empty none []).subscribe true .changed) faulty ∧
    1 ∈ faulty.stored ∧ departures 1 faulty.shared = 0 ∧
    1 ∉ (perform (attended true usher 2) faulty (.replaceParseErrors [])).1.stored ∧
    departures 1 (perform (attended true usher 2) faulty (.replaceParseErrors [])).1.shared = 2 := by
  have hrun : Run Command.Made (Undisturbed true id) (attended true usher 2)
      ((empty none []).subscribe true .changed) faulty := by
    refine .head (.aside ⟨.subscribe _ false .changed trivial, rfl, rfl⟩) ?_
    exact run_performAll_cons trivial .refl
  have hsorted : faulty.bookmarksOf .parseError = [0, 1] := by
    have hfound : faulty.stored.filter (fun b => (faulty.bookmark b).kind = .parseError) = [0, 1] := by
      decide +kernel
    unfold bookmarksOf
    rw [hfound, if_pos rfl]
    exact List.mergeSort_of_pairwise (by decide +kernel)
  refine ⟨prompt_usher, hrun, by decide +kernel, by decide +kernel, ?_⟩
  change 1 ∉ (replaceParseErrors _ faulty []).1.stored ∧
    departures 1 (replaceParseErrors _ faulty []).1.shared = 2
  rw [replaceParseErrors_of_not_hasLineError (by decide +kernel), reconcile, hsorted]
  decide +kernel

end Margin

end Scriptorium
