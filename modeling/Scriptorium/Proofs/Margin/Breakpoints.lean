import Mathlib.Data.List.Nodup
import Scriptorium.Proofs.Margin.Ruling
import Scriptorium.Proofs.Tracker.Lines

/-!
At most one breakpoint to a line, whatever the listeners do. An edit that deletes lines first
takes their anchors away and then discards the bookmarks on them one by one, and each marker that
goes with one lets listeners in. Meanwhile the bookmarks still to be discarded are stored but not
tracked, so that they miss the edits of the listeners, and may come to share a line with others.

The invariant `Ordered` therefore carries the list of those that are still to be discarded, over
all deletions under way, and says of the others only that they are tracked, each on a line of its
own. Since the operations under way discard every bookmark of the list, the list is empty when
none is left.
-/

namespace Scriptorium
set_option autoImplicit false

namespace Ruling

/-- Every stored bookmark that no deletion is still to discard is tracked, and no two breakpoints
of that sort are on one line. At least `n` bookmarks were made. -/
structure Ordered (doomed : List BookmarkId) (n : Nat) (r : Ruling) : Prop where
  bound : n ≤ r.size
  storedNodup : r.stored.Nodup
  trackedNodup : r.tracked.Nodup
  known : ∀ b ∈ r.stored, b < r.size
  made : ∀ b i, b < r.size → r.anchor b = .line i → i < r.lines.size
  own : ∀ b c i, b < r.size → c < r.size → r.anchor b = .line i → r.anchor c = .line i → b = c
  owned : ∀ i ∈ r.tracked, ∃ b ∈ r.stored, r.anchor b = .line i
  onLine : ∀ b ∈ r.stored, (r.kind b).OnLine → ∃ i, r.anchor b = .line i
  stays : ∀ b ∈ r.stored, b ∉ doomed → ∀ i, r.anchor b = .line i →
    i ∈ r.tracked ∧ 1 ≤ r.lines.get i
  apart : ∀ b ∈ r.stored, ∀ c ∈ r.stored, b ∉ doomed → c ∉ doomed →
    r.kind b = .breakpoint → r.kind c = .breakpoint → r.lineNumber? b = r.lineNumber? c → b = c

variable {r : Ruling} {D : List BookmarkId} {n : Nat} {b : BookmarkId}

theorem follow_eq : r.follow b = { r with tracked := (r.follow b).tracked } := by
  unfold follow
  split
  · split <;> rfl
  · rfl

@[simp] theorem lines_follow : (r.follow b).lines = r.lines := by rw [follow_eq]

@[simp] theorem stored_follow : (r.follow b).stored = r.stored := by rw [follow_eq]

@[simp] theorem size_follow : (r.follow b).size = r.size := by rw [follow_eq]

@[simp] theorem kind_follow : (r.follow b).kind = r.kind := by rw [follow_eq]

@[simp] theorem anchor_follow : (r.follow b).anchor = r.anchor := by rw [follow_eq]

@[simp] theorem mem_tracked_follow {i : LineId} :
    i ∈ (r.follow b).tracked ↔ i ∈ r.tracked ∨ r.anchor b = .line i := by
  unfold follow
  split
  · rename_i j hj
    split
    · rename_i hmem
      rw [hj]
      constructor
      · exact .inl
      · rintro (h | h)
        · exact h
        · cases h
          exact hmem
    · simp [hj, eq_comm]
  · rename_i j hj
    simp [hj]

theorem nodup_follow (hn : r.tracked.Nodup) : (r.follow b).tracked.Nodup := by
  unfold follow
  split
  · split
    · exact hn
    · rename_i i _ hi
      simpa using hn.concat hi
  · exact hn

namespace Ordered

theorem mono {E : List BookmarkId} (h : Ordered D n r) (hDE : ∀ b ∈ D, b ∈ E) :
    Ordered E n r :=
  { h with
    stays := fun b hb hE => h.stays b hb fun hD => hE (hDE b hD)
    apart := fun b hb c hc hbE hcE =>
      h.apart b hb c hc (fun hD => hbE (hDE b hD)) fun hD => hcE (hDE c hD) }

theorem follow (h : Ordered D n r) (hb : b ∈ r.stored) : Ordered D n (r.follow b) where
  bound := by simpa using h.bound
  storedNodup := by simpa using h.storedNodup
  trackedNodup := nodup_follow h.trackedNodup
  known := by simpa using h.known
  made := by simpa using h.made
  own := by simpa using h.own
  owned i hi := by
    rcases mem_tracked_follow.mp hi with hi | hi
    · simpa using h.owned i hi
    · exact ⟨b, by simpa using hb, by simpa using hi⟩
  onLine := by simpa using h.onLine
  stays c hc hD i hi := by
    obtain ⟨hmem, hline⟩ := h.stays c (by simpa using hc) hD i (by simpa using hi)
    exact ⟨mem_tracked_follow.mpr (.inl hmem), by simpa using hline⟩
  apart := by simpa [lineNumber?] using h.apart

theorem enter (h : Ordered D n r) (hnew : b ∉ r.stored) (hb : b < r.size) (hadm : r.Admits b)
    (hplaced : r.Placed b) : Ordered D n (r.enter b) where
  bound := by simpa [Ruling.enter] using h.bound
  storedNodup := by simpa [Ruling.enter] using h.storedNodup.concat hnew
  trackedNodup := nodup_follow h.trackedNodup
  known c hc := by
    rcases List.mem_append.mp hc with hc | hc
    · simpa [Ruling.enter] using h.known c hc
    · simpa [Ruling.enter, List.mem_singleton.mp hc] using hb
  made := by simpa [Ruling.enter] using h.made
  own := by simpa [Ruling.enter] using h.own
  owned i hi := by
    rcases mem_tracked_follow.mp hi with hi | hi
    · obtain ⟨c, hc, hci⟩ := h.owned i hi
      exact ⟨c, List.mem_append_left _ hc, by simpa [Ruling.enter] using hci⟩
    · exact ⟨b, List.mem_append_right _ (List.mem_singleton_self b), by simpa [Ruling.enter] using hi⟩
  onLine c hc hk := by
    rcases List.mem_append.mp hc with hc | hc
    · simpa [Ruling.enter] using h.onLine c hc (by simpa [Ruling.enter] using hk)
    · obtain rfl := List.mem_singleton.mp hc
      obtain ⟨i, hi, _⟩ := hadm (by simpa [Ruling.enter] using hk)
      exact ⟨i, by simpa [Ruling.enter] using hi⟩
  stays c hc hD i hi := by
    have hi' : r.anchor c = .line i := by simpa [Ruling.enter] using hi
    rcases List.mem_append.mp hc with hc | hc
    · obtain ⟨hmem, hline⟩ := h.stays c hc hD i hi'
      exact ⟨mem_tracked_follow.mpr (.inl hmem), by simpa [Ruling.enter] using hline⟩
    · obtain rfl := List.mem_singleton.mp hc
      refine ⟨mem_tracked_follow.mpr (.inr hi'), ?_⟩
      rcases hplaced i hi' with hmem | hline
      · -- a tracked anchor belongs to a stored bookmark, which this one is not
        obtain ⟨d, hd, hdi⟩ := h.owned i hmem
        exact absurd (h.own c d i hb (h.known d hd) hi' hdi ▸ hd) hnew
      · simpa [Ruling.enter] using hline
  apart c hc d hd hcD hdD hck hdk hl := by
    have hfree : r.kind b = .breakpoint → ∀ c ∈ r.stored, r.kind c = .breakpoint →
        r.lineNumber? c ≠ r.lineNumber? b := by
      intro hk
      obtain ⟨_, _, _, hfree⟩ := hadm (by rw [hk]; decide)
      exact hfree hk
    have hck' : r.kind c = .breakpoint := by simpa [Ruling.enter] using hck
    have hdk' : r.kind d = .breakpoint := by simpa [Ruling.enter] using hdk
    have hl' : r.lineNumber? c = r.lineNumber? d := by simpa [Ruling.enter, lineNumber?] using hl
    rcases List.mem_append.mp hc with hc' | hc' <;> rcases List.mem_append.mp hd with hd' | hd'
    · exact h.apart c hc' d hd' hcD hdD hck' hdk' hl'
    · obtain rfl := List.mem_singleton.mp hd'
      exact absurd hl' (hfree hdk' c hc' hck')
    · obtain rfl := List.mem_singleton.mp hc'
      exact absurd hl'.symm (hfree hck' d hd' hdk')
    · rw [List.mem_singleton.mp hc', List.mem_singleton.mp hd']

/-- Once it has left, a bookmark is no longer among those to be discarded. -/
theorem leave (h : Ordered (b :: D) n r) (hb : b < r.size) : Ordered D n (r.leave b) := by
  have hstored : ∀ c, c ∈ (r.leave b).stored ↔ c ∈ r.stored ∧ c ≠ b := by
    simp [Ruling.leave]
  have htracked : ∀ i, i ∈ (r.leave b).tracked ↔ i ∈ r.tracked ∧ r.anchor b ≠ .line i := by
    intro i
    unfold Ruling.leave
    dsimp only
    split
    · rename_i j hj
      rw [h.trackedNodup.mem_erase_iff, hj]
      simp [and_comm, eq_comm]
    · rename_i j hj
      simp [hj]
  exact {
    bound := h.bound
    storedNodup := h.storedNodup.filter _
    trackedNodup := by
      unfold Ruling.leave
      dsimp only
      split
      · exact h.trackedNodup.erase _
      · exact h.trackedNodup
    known := fun c hc => h.known c ((hstored c).mp hc).1
    made := h.made
    own := h.own
    owned := by
      intro i hi
      obtain ⟨hmem, hne⟩ := (htracked i).mp hi
      obtain ⟨c, hc, hci⟩ := h.owned i hmem
      exact ⟨c, (hstored c).mpr ⟨hc, fun hcb => hne (hcb ▸ hci)⟩, hci⟩
    onLine := fun c hc => h.onLine c ((hstored c).mp hc).1
    stays := by
      intro c hc hD i hi
      obtain ⟨hmem, hne⟩ := (hstored c).mp hc
      obtain ⟨ht, hl⟩ := h.stays c hmem (by simp [hne, hD]) i hi
      exact ⟨(htracked i).mpr ⟨ht, fun hbi => hne (h.own c b i (h.known c hmem) hb hi hbi)⟩, hl⟩
    apart := by
      intro c hc d hd hcD hdD
      obtain ⟨hcm, hcb⟩ := (hstored c).mp hc
      obtain ⟨hdm, hdb⟩ := (hstored d).mp hd
      exact h.apart c hcm d hdm (by simp [hcb, hcD]) (by simp [hdb, hdD]) }

/-- A new bookmark, not yet stored, on an anchor of its own if that is on a line. -/
theorem push (h : Ordered D n r) {lines : Registry Int} (kind : Kind) (a : Anchor)
    (hgrow : r.lines.size ≤ lines.size)
    (hlines : ∀ i < r.lines.size, lines.get i = r.lines.get i)
    (ha : ∀ i, a = .line i → r.lines.size ≤ i ∧ i < lines.size) :
    Ordered D n { r with
      lines := lines
      size := r.size + 1
      kind := Function.update r.kind r.size kind
      anchor := Function.update r.anchor r.size a } := by
  have hkind : ∀ b ∈ r.stored, Function.update r.kind r.size kind b = r.kind b :=
    fun b hb => Function.update_of_ne (Nat.ne_of_lt (h.known b hb)) _ _
  have hanchor : ∀ b ∈ r.stored, Function.update r.anchor r.size a b = r.anchor b :=
    fun b hb => Function.update_of_ne (Nat.ne_of_lt (h.known b hb)) _ _
  -- an anchor on a line is either the new one or that of a bookmark made before
  have hline : ∀ b i, b < r.size + 1 → Function.update r.anchor r.size a b = .line i →
      (b = r.size ∧ r.lines.size ≤ i ∧ i < lines.size) ∨
      (b < r.size ∧ r.anchor b = .line i ∧ i < r.lines.size) := by
    intro b i hb hi
    by_cases hbn : b = r.size
    · subst hbn
      rw [Function.update_self] at hi
      exact .inl ⟨rfl, ha i hi⟩
    · rw [Function.update_of_ne hbn] at hi
      have hlt : b < r.size := by omega
      exact .inr ⟨hlt, hi, h.made b i hlt hi⟩
  exact {
    bound := Nat.le_succ_of_le h.bound
    storedNodup := h.storedNodup
    trackedNodup := h.trackedNodup
    known := fun b hb => Nat.lt_succ_of_lt (h.known b hb)
    made := by
      intro b i hb hi
      rcases hline b i hb hi with ⟨_, _, hlt⟩ | ⟨_, _, hlt⟩
      · exact hlt
      · exact Nat.lt_of_lt_of_le hlt hgrow
    own := by
      intro b c i hb hc hbi hci
      rcases hline b i hb hbi with ⟨rfl, hge, _⟩ | ⟨hbs, hbi', hlt⟩ <;>
        rcases hline c i hc hci with ⟨rfl, hge', _⟩ | ⟨hcs, hci', hlt'⟩
      · rfl
      · exact absurd hlt' (Nat.not_lt.mpr hge)
      · exact absurd hlt (Nat.not_lt.mpr hge')
      · exact h.own b c i hbs hcs hbi' hci'
    owned := by
      intro i hi
      obtain ⟨b, hb, hbi⟩ := h.owned i hi
      exact ⟨b, hb, (hanchor b hb).trans hbi⟩
    onLine := by
      intro b hb hk
      obtain ⟨i, hi⟩ := h.onLine b hb (hkind b hb ▸ hk)
      exact ⟨i, (hanchor b hb).trans hi⟩
    stays := by
      intro b hb hD i hi
      have hi' : r.anchor b = .line i := (hanchor b hb).symm.trans hi
      obtain ⟨ht, hl⟩ := h.stays b hb hD i hi'
      exact ⟨ht, (hlines i (h.made b i (h.known b hb) hi')).symm ▸ hl⟩
    apart := by
      intro b hb c hc hbD hcD hbk hck hl
      have hbk' : r.kind b = .breakpoint := (hkind b hb).symm.trans hbk
      have hck' : r.kind c = .breakpoint := (hkind c hc).symm.trans hck
      obtain ⟨i, hi⟩ := h.onLine b hb (by rw [hbk']; decide)
      obtain ⟨j, hj⟩ := h.onLine c hc (by rw [hck']; decide)
      apply h.apart b hb c hc hbD hcD hbk' hck'
      have hbl := hlines i (h.made b i (h.known b hb) hi)
      have hcl := hlines j (h.made c j (h.known c hc) hj)
      simpa [lineNumber?, hanchor b hb, hanchor c hc, hi, hj, Anchor.line?, hbl, hcl] using hl }

/-- An edit that moves the tracked lines by `f`, and tracks those lines no longer whose bookmarks
it adds to the ones that are to be discarded. -/
theorem edit (h : Ordered D n r) {E : List BookmarkId} {lines : Registry Int}
    {tracked : List LineId} (f : Int → Int) (hgrow : r.lines.size ≤ lines.size)
    (hnodup : tracked.Nodup) (hsub : ∀ i ∈ tracked, i ∈ r.tracked)
    (hline : ∀ i ∈ tracked, lines.get i = f (r.lines.get i))
    (hone : ∀ i ∈ tracked, 1 ≤ r.lines.get i → 1 ≤ f (r.lines.get i))
    (hinj : ∀ i ∈ tracked, ∀ j ∈ tracked, f (r.lines.get i) = f (r.lines.get j) →
      r.lines.get i = r.lines.get j)
    (hE : ∀ b ∈ r.stored, b ∉ E → b ∉ D ∧ ∀ i ∈ r.tracked, r.anchor b = .line i → i ∈ tracked) :
    Ordered E n { r with lines := lines, tracked := tracked } where
  bound := h.bound
  storedNodup := h.storedNodup
  trackedNodup := hnodup
  known := h.known
  made b i hb hi := Nat.lt_of_lt_of_le (h.made b i hb hi) hgrow
  own := h.own
  owned i hi := h.owned i (hsub i hi)
  onLine := h.onLine
  stays b hb hbE i hi := by
    obtain ⟨hbD, htr⟩ := hE b hb hbE
    obtain ⟨ht, hl⟩ := h.stays b hb hbD i hi
    have hmem := htr i ht hi
    exact ⟨hmem, (hline i hmem).symm ▸ hone i hmem hl⟩
  apart b hb c hc hbE hcE hbk hck hl := by
    obtain ⟨hbD, hbt⟩ := hE b hb hbE
    obtain ⟨hcD, hct⟩ := hE c hc hcE
    obtain ⟨i, hi⟩ := h.onLine b hb (by rw [hbk]; decide)
    obtain ⟨j, hj⟩ := h.onLine c hc (by rw [hck]; decide)
    have hit := hbt i (h.stays b hb hbD i hi).1 hi
    have hjt := hct j (h.stays c hc hcD j hj).1 hj
    have hsame : f (r.lines.get i) = f (r.lines.get j) := by
      rw [← hline i hit, ← hline j hjt]
      simpa [lineNumber?, hi, hj, Anchor.line?] using hl
    apply h.apart b hb c hc hbD hcD hbk hck
    simp [lineNumber?, hi, hj, Anchor.line?, hinj i hit j hjt hsame]

end Ordered

/-- The bookmarks that a deletion begun earlier is to discard are among the `n` made by then. -/
theorem closed_ordered (D : List BookmarkId) (n : Nat) :
    Closed (fun b => b < n) (fun _ => True) (Ordered D n) where
  known _ h := h.known
  kept _ _ hb h := Nat.lt_of_lt_of_le hb h.bound
  pushLine r kind line h := by
    refine h.push kind _ ?_ ?_ ?_
    · simp
    · intro i hi
      rw [Registry.get_push, if_neg (Nat.ne_of_lt hi)]
    · intro i hi
      cases hi
      exact ⟨Nat.le_refl _, by simp⟩
  pushSpan r kind i h := by
    refine h.push kind _ (Nat.le_refl _) (fun _ _ => rfl) ?_
    intro j hj
    cases hj
  follow _ _ hb _ h := h.follow hb
  enter _ _ hnew hb hadm hplaced _ h := h.enter hnew hb hadm hplaced
  leave _ b hb h := (h.mono fun _ => List.mem_cons_of_mem b).leave (Nat.lt_of_lt_of_le hb h.bound)

theorem Ordered.rebound (h : Ordered D n r) {m : Nat} (hm : m ≤ r.size) : Ordered D m r :=
  { h with bound := hm }

end Ruling

namespace Margin
variable {κ ω : Type} {h : Reaction κ ω} {s : Margin κ ω} {D : List BookmarkId} {n : Nat}

/-- The command takes in no bookmark that was never made, and deletes no line above the first. -/
def Command.Sensible (s : Margin κ ω) : Command → Prop
  | .add b => b < s.bookmarks.size
  | .linesDeleted first _ => 1 ≤ first
  | _ => True

theorem linesInserted_ordered (hn : Heeds h fun s => s.ruling.Ordered D n) (first count : Int)
    (hs : s.ruling.Ordered D n) : (linesInserted h s first count).ruling.Ordered D n := by
  have hmoved : Ruling.Ordered D n
      ({ s with tracker := (s.tracker.insertLines first count).1 } : Margin κ ω).ruling := by
    by_cases hc : 0 < count
    · have hline : ∀ i ∈ s.tracker.trackedLines,
          (s.tracker.insertLines first count).1.lines.get i =
            lineInserted first count (s.tracker.lines.get i) :=
        fun i hi => Tracker.line_insertLines hs.trackedNodup hc hi
      have hedit := hs.edit (E := D) (lineInserted first count)
        (Tracker.size_insertLines (t := s.tracker)) hs.trackedNodup (fun _ => id) hline
        (fun _ _ => one_le_lineInserted hc) (fun _ _ _ _ => lineInserted_inj hc)
        (fun b _ hD => ⟨hD, fun i hi _ => hi⟩)
      rw [Tracker.insertLines_of_pos _ hc] at hedit ⊢
      exact hedit
    · rwa [Tracker.insertLines_of_nonpos _ (Int.not_lt.mp hc)]
  exact (stable_of_closed (Ruling.closed_ordered D n) hn).announce _ _ hmoved

/-- Discarding the bookmarks one after the other, with listeners in between, leaves nothing of
them to be discarded. -/
theorem discardAll_ordered (hn : ∀ D n, Heeds h fun s => s.ruling.Ordered D n)
    {bs : List BookmarkId} (hb : ∀ b ∈ bs, b < n) (hs : s.ruling.Ordered (bs ++ D) n) :
    (bs.foldl (discard h) s).ruling.Ordered D n := by
  induction bs generalizing s with
  | nil => exact hs
  | cons b bs ih =>
    apply ih fun c hc => hb c (List.mem_cons_of_mem b hc)
    have hbs : b < s.bookmarks.size := Nat.lt_of_lt_of_le (hb b List.mem_cons_self) hs.bound
    exact discard_keeps (Ruling.closed_ordered (bs ++ D) n) (hn _ n) hbs (hs.leave hbs)

theorem linesDeleted_ordered (hn : ∀ D n, Heeds h fun s => s.ruling.Ordered D n) {first : Int}
    (hf : 1 ≤ first) (count : Int) (hs : s.ruling.Ordered D n) :
    (linesDeleted h s first count).ruling.Ordered D n := by
  have hbound := hs.bound
  replace hs := hs.rebound (Nat.le_refl _)
  have hst := stable_of_closed (Ruling.closed_ordered D s.bookmarks.size)
    (hn D s.bookmarks.size)
  suffices hdone : (linesDeleted h s first count).ruling.Ordered D s.bookmarks.size from
    hdone.rebound (Nat.le_trans hbound hdone.bound)
  unfold linesDeleted
  dsimp only
  apply hst.announce
  apply discardAll_ordered hn
  · intro b hb
    exact hs.known b (List.mem_filter.mp hb).1
  · by_cases hc : 0 < count
    · have hline : ∀ i ∈ (s.tracker.deleteLines first count).1.trackedLines,
          (s.tracker.deleteLines first count).1.lines.get i =
            lineDeleted first count (s.tracker.lines.get i) :=
        fun i hi => Tracker.line_deleteLines hs.trackedNodup hc hi
      apply hs.edit (lineDeleted first count) Tracker.size_deleteLines
        (Tracker.nodup_deleteLines hs.trackedNodup) _ hline (fun _ _ => one_le_lineDeleted hf)
      · intro i hi j hj
        exact lineDeleted_inj ((Tracker.mem_trackedLines_deleteLines hc).mp hi).2
          ((Tracker.mem_trackedLines_deleteLines hc).mp hj).2
      · intro b hb hE
        rw [List.mem_append, not_or] at hE
        refine ⟨hE.2, ?_⟩
        intro i hi ha
        rw [Tracker.mem_trackedLines_deleteLines hc]
        refine ⟨hi, fun hgone => hE.1 ?_⟩
        refine List.mem_filter.mpr ⟨hb, decide_eq_true ?_⟩
        exact List.mem_map.mpr ⟨i, (Tracker.mem_removed_deleteLines hc).mpr ⟨hi, hgone⟩, ha.symm⟩
      · intro i hi
        exact ((Tracker.mem_trackedLines_deleteLines hc).mp hi).1
    · rw [Tracker.deleteLines_of_nonpos _ (Int.not_lt.mp hc)]
      exact hs.mono fun b => List.mem_append_right _

theorem perform_ordered (hn : ∀ D n, Heeds h fun s => s.ruling.Ordered D n) {c : Command}
    (hc : c.Sensible s) (hs : s.ruling.Ordered D n) : (perform h s c).1.ruling.Ordered D n := by
  have hplaced : c.Places (fun _ => True) s → (perform h s c).1.ruling.Ordered D n := by
    intro hplaces
    have hdone := perform_keeps (Ruling.closed_ordered D s.bookmarks.size) (hn _ _) hs.known
      hplaces (hs.rebound (Nat.le_refl _))
    exact hdone.rebound (Nat.le_trans hs.bound hdone.bound)
  cases c with
  | linesInserted first count => exact linesInserted_ordered (hn D n) first count hs
  | linesDeleted first count => exact linesDeleted_ordered hn hc count hs
  | add b => exact hplaced ⟨hc, fun _ _ => trivial⟩
  | _ => exact hplaced trivial

theorem ordered_empty (lineCount : Option Int) (w : ω) :
    (empty lineCount w : Margin κ ω).ruling.Ordered [] 0 where
  bound := Nat.le_refl 0
  storedNodup := List.nodup_nil
  trackedNodup := List.nodup_nil
  known _ hb := by cases hb
  made _ _ hb := by cases hb
  own _ _ _ hb := by cases hb
  owned _ hi := by cases hi
  onLine _ hb := by cases hb
  stays _ hb := by cases hb
  apart _ hb := by cases hb

variable [DecidableEq κ]

theorem ordered_of_lawful (hh : Lawful Command.Sensible h) (D : List BookmarkId) (n : Nat) :
    Heeds h fun s => s.ruling.Ordered D n := by
  refine hh.heeds (J := fun (i : List BookmarkId × Nat) s => s.ruling.Ordered i.1 i.2) ?_ ?_ (D, n)
  · intro g hg i s c hc hs
    exact perform_ordered (fun D n => hg (D, n)) hc hs
  · intro i s t ha hs
    rwa [ruling_aside ha]

theorem ordered_of_run (hh : Lawful Command.Sensible h) {lineCount : Option Int} {w : ω}
    (hr : Run Command.Sensible Aside h (empty lineCount w) s) : s.ruling.Ordered [] 0 := by
  refine run_induction (I := fun t => t.ruling.Ordered [] 0) ?_ ?_ hr (ordered_empty lineCount w)
  · intro t c hc ht
    exact perform_ordered (ordered_of_lawful hh) hc ht
  · intro t u ha ht
    rwa [ruling_aside ha]

/-- Whenever no command is under way, each line has at most one breakpoint and every bookmark of a
line follows the edits there, from the first line on. -/
theorem breakpoints_apart (hh : Lawful Command.Sensible h) {lineCount : Option Int} {w : ω}
    (hr : Run Command.Sensible Aside h (empty lineCount w) s) :
    ((s.bookmarksOf .breakpoint).map s.lineNumber?).Nodup ∧
    ∀ b ∈ s.stored, (s.bookmark b).kind.OnLine →
      ∃ line, s.lineNumber? b = some line ∧ 1 ≤ line ∧ s.tracker.IsTracked (s.bookmark b).anchor := by
  have hs := ordered_of_run hh hr
  refine ⟨?_, ?_⟩
  · refine List.Nodup.map_on ?_ (hs.storedNodup.filter _)
    intro b hb c hc hl
    obtain ⟨hbs, hbk⟩ := mem_bookmarksOf.mp hb
    obtain ⟨hcs, hck⟩ := mem_bookmarksOf.mp hc
    exact hs.apart b hbs c hcs List.not_mem_nil List.not_mem_nil hbk hck hl
  · intro b hb hk
    obtain ⟨i, hi⟩ := hs.onLine b hb hk
    obtain ⟨ht, hl⟩ := hs.stays b hb List.not_mem_nil i hi
    have ha : (s.bookmark b).anchor = .line i := hi
    refine ⟨s.tracker.line i, ?_, hl, ?_⟩
    · simp [lineNumber?, ha, Anchor.line?]
    · rw [ha]
      exact ht

/-- A listener that waits for the last marker to go, then sets a breakpoint on line 2, moves all
lines down and fails. -/
def intruder (_ : Unit) (n : Notice) (s : Margin Unit Unit) : List Command × Bool :=
  match n, s.live with
  | .markerRedraw _, [] => ([.toggleBreakpoint 2, .linesInserted 1 1], true)
  | _, _ => ([], false)

/-- The marker of the breakpoint on line 2 lets the intruder in while the breakpoint of line 3 is
stored and no longer tracked. -/
def intruded : Margin Unit Unit :=
  performAll (scripted intruder 2) ((empty none ()).subscribe () .markerRedraw)
    [.toggleBreakpoint 2, .toggleBreakpoint 3, .toggleBreakpoint 5, .attachMarker 0 ⟨0, 3⟩,
      .linesDeleted 2 2]

theorem breakpoints_apart_intruded :
    Lawful Command.Sensible (scripted intruder 2) ∧
    Run Command.Sensible Aside (scripted intruder 2) (empty none ()) intruded ∧
    (intruded.bookmarksOf .breakpoint).map intruded.lineNumber? = [some 4, some 3] ∧
    ((intruded.bookmarksOf .breakpoint).map intruded.lineNumber?).Nodup ∧
    ∀ b ∈ intruded.stored, (intruded.bookmark b).kind.OnLine →
      ∃ line, intruded.lineNumber? b = some line ∧ 1 ≤ line ∧
        intruded.tracker.IsTracked (intruded.bookmark b).anchor := by
  have hlawful : Lawful Command.Sensible (scripted intruder 2) := by
    apply lawful_scripted
    intro k n s c hc t
    unfold intruder at hc
    split at hc
    · simp only [List.mem_cons, List.not_mem_nil, or_false] at hc
      rcases hc with rfl | rfl <;> trivial
    · cases hc
  have hrun : Run Command.Sensible Aside (scripted intruder 2) (empty none ()) intruded := by
    refine .head (.aside (.subscribe _ () .markerRedraw trivial)) (run_performAll _ _ ?_)
    intro c hc t
    simp only [List.mem_cons, List.not_mem_nil, or_false] at hc
    rcases hc with rfl | rfl | rfl | rfl | rfl <;> simp [Command.Sensible]
  exact ⟨hlawful, hrun, by decide, breakpoints_apart hlawful hrun⟩

end Margin

end Scriptorium
