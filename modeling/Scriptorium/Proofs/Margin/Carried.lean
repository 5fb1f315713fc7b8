import Scriptorium.Proofs.Margin.Breakpoints
import Scriptorium.Proofs.Margin.Recorder

/-!
What a command does not touch. `Carries` says that whatever was made before still stands where it
stood, and `Settles` that whatever came since stands on a line in `L`. Both are closed, so that
every command keeps them that moves no line; where lines are moved, the first is what the
announcements and the discarded bookmarks leave of the tracker's own work.
-/

namespace Scriptorium
set_option autoImplicit false

namespace Ruling

/-- All that was made by the time of `q` is in `r` what it was, and where it was. -/
structure Carries (q r : Ruling) : Prop where
  bound : q.size ≤ r.size
  lineBound : q.lines.size ≤ r.lines.size
  known : ∀ b ∈ r.stored, b < r.size
  kind : ∀ b < q.size, r.kind b = q.kind b
  anchor : ∀ b < q.size, r.anchor b = q.anchor b
  line : ∀ i < q.lines.size, r.lines.get i = q.lines.get i

/-- Every bookmark of a line that is stored in `r` and was not in `q` stands on a line in `L`. -/
structure Settles (L : Int → Prop) (q r : Ruling) : Prop where
  ordered : r.Ordered [] q.size
  newly : ∀ b ∈ r.stored, b ∉ q.stored → ∀ line, r.lineNumber? b = some line → L line

/-- Every stored bookmark was made, and no parse error among them is on a line. -/
structure Spanned (n : Nat) (r : Ruling) : Prop where
  bound : n ≤ r.size
  known : ∀ b ∈ r.stored, b < r.size
  offLine : ∀ b ∈ r.stored, r.kind b = .parseError → (r.anchor b).line? = none

variable {q r : Ruling} {b : BookmarkId} {L : Int → Prop}

theorem Carries.refl (hknown : ∀ b ∈ r.stored, b < r.size) : Carries r r where
  bound := Nat.le_refl _
  lineBound := Nat.le_refl _
  known := hknown
  kind _ _ := rfl
  anchor _ _ := rfl
  line _ _ := rfl

theorem Carries.lineNumber? (h : Carries q r) (hb : b < q.size)
    (hmade : ∀ i, q.anchor b = .line i → i < q.lines.size) :
    r.lineNumber? b = q.lineNumber? b := by
  unfold Ruling.lineNumber?
  rw [h.anchor b hb]
  cases ha : q.anchor b with
  | line i => simp [Anchor.line?, h.line i (hmade i ha)]
  | span i => rfl

theorem carries_pushLine (hknown : ∀ b ∈ r.stored, b < r.size) (kind : Kind) (line : Int) :
    Carries r (r.pushLine kind line) where
  bound := Nat.le_succ _
  lineBound := by simp [pushLine]
  known b hb := Nat.lt_succ_of_lt (hknown b hb)
  kind _ hb := Function.update_of_ne (Nat.ne_of_lt hb) _ _
  anchor _ hb := Function.update_of_ne (Nat.ne_of_lt hb) _ _
  line i hi := by simp [pushLine, Registry.get_push, Nat.ne_of_lt hi]

theorem carries_pushSpan (hknown : ∀ b ∈ r.stored, b < r.size) (kind : Kind) (i : SpanId) :
    Carries r (r.pushSpan kind i) where
  bound := Nat.le_succ _
  lineBound := Nat.le_refl _
  known b hb := Nat.lt_succ_of_lt (hknown b hb)
  kind _ hb := Function.update_of_ne (Nat.ne_of_lt hb) _ _
  anchor _ hb := Function.update_of_ne (Nat.ne_of_lt hb) _ _
  line _ _ := rfl

theorem carries_follow (hknown : ∀ b ∈ r.stored, b < r.size) (b : BookmarkId) :
    Carries r (r.follow b) where
  bound := by simp
  lineBound := by simp
  known := by simpa using hknown
  kind := by simp
  anchor := by simp
  line := by simp

theorem carries_enter (hknown : ∀ b ∈ r.stored, b < r.size) (hb : b < r.size) :
    Carries r (r.enter b) :=
  { carries_follow hknown b with
    known := by
      intro c hc
      rcases List.mem_append.mp hc with hc | hc
      · simpa [enter] using hknown c hc
      · simpa [enter, List.mem_singleton.mp hc] using hb }

theorem carries_leave (hknown : ∀ b ∈ r.stored, b < r.size) (b : BookmarkId) :
    Carries r (r.leave b) :=
  { Carries.refl hknown with known := fun c hc => hknown c (List.mem_filter.mp hc).1 }

theorem Carries.trans {p : Ruling} (hpq : Carries p q) (hqr : Carries q r) : Carries p r where
  bound := Nat.le_trans hpq.bound hqr.bound
  lineBound := Nat.le_trans hpq.lineBound hqr.lineBound
  known := hqr.known
  kind b hb := (hqr.kind b (Nat.lt_of_lt_of_le hb hpq.bound)).trans (hpq.kind b hb)
  anchor b hb := (hqr.anchor b (Nat.lt_of_lt_of_le hb hpq.bound)).trans (hpq.anchor b hb)
  line i hi := (hqr.line i (Nat.lt_of_lt_of_le hi hpq.lineBound)).trans (hpq.line i hi)

theorem closed_carries (q : Ruling) :
    Closed (fun b => b < q.size) (fun _ => True) (Carries q) where
  known _ h := h.known
  kept _ _ hb h := Nat.lt_of_lt_of_le hb h.bound
  pushLine _ kind line h := h.trans (carries_pushLine h.known kind line)
  pushSpan _ kind i h := h.trans (carries_pushSpan h.known kind i)
  follow _ b _ _ h := h.trans (carries_follow h.known b)
  enter _ _ _ hb _ _ _ h := h.trans (carries_enter h.known hb)
  leave _ b _ h := h.trans (carries_leave h.known b)

theorem Settles.carried {t : Ruling} (h : Settles L q r) (ht : Carries r t)
    (hordered : t.Ordered [] q.size) (hstored : ∀ b ∈ t.stored, b ∈ r.stored) :
    Settles L q t where
  ordered := hordered
  newly b hb hq line hline := by
    have hbr := h.ordered.known b (hstored b hb)
    have hsame := ht.lineNumber? hbr fun i => h.ordered.made b i hbr
    exact h.newly b (hstored b hb) hq line (hsame ▸ hline)

theorem closed_settles (L : Int → Prop) (q : Ruling) :
    Closed (fun b => b < q.size) L (Settles L q) where
  known _ h := h.ordered.known
  kept _ _ hb h := Nat.lt_of_lt_of_le hb h.ordered.bound
  pushLine r kind line h :=
    h.carried (carries_pushLine h.ordered.known kind line)
      ((closed_ordered [] q.size).pushLine r kind line h.ordered) fun _ => id
  pushSpan r kind i h :=
    h.carried (carries_pushSpan h.ordered.known kind i)
      ((closed_ordered [] q.size).pushSpan r kind i h.ordered) fun _ => id
  follow r b hb hp h :=
    h.carried (carries_follow h.ordered.known b)
      ((closed_ordered [] q.size).follow r b hb hp h.ordered) (by simp)
  enter r b hnew hb hadm hplaced hL h := by
    refine ⟨h.ordered.enter hnew hb hadm hplaced, ?_⟩
    intro c hc hq line hline
    have hline' : r.lineNumber? c = some line := by simpa [enter, Ruling.lineNumber?] using hline
    rcases List.mem_append.mp hc with hc | hc
    · exact h.newly c hc hq line hline'
    · obtain rfl := List.mem_singleton.mp hc
      exact hL line hline'
  leave r b hb h :=
    h.carried (carries_leave h.ordered.known b)
      ((closed_ordered [] q.size).leave r b hb h.ordered) fun c hc => (List.mem_filter.mp hc).1

theorem Spanned.carried {n : Nat} {t : Ruling} (h : Spanned n r) (ht : Carries r t)
    (hstored : ∀ b ∈ t.stored, b ∈ r.stored) : Spanned n t where
  bound := Nat.le_trans h.bound ht.bound
  known := ht.known
  offLine b hb hkind := by
    have hbr := h.known b (hstored b hb)
    rw [ht.anchor b hbr]
    exact h.offLine b (hstored b hb) ((ht.kind b hbr).symm.trans hkind)

theorem closed_spanned (n : Nat) : Closed (fun b => b < n) (fun _ => False) (Spanned n) where
  known _ h := h.known
  kept _ _ hb h := Nat.lt_of_lt_of_le hb h.bound
  pushLine _ kind line h := h.carried (carries_pushLine h.known kind line) fun _ => id
  pushSpan _ kind i h := h.carried (carries_pushSpan h.known kind i) fun _ => id
  follow _ b _ _ h := h.carried (carries_follow h.known b) (by simp)
  enter r b _ hb _ _ hL h := by
    have hcarries := carries_enter h.known hb
    refine ⟨Nat.le_trans h.bound hcarries.bound, hcarries.known, ?_⟩
    intro c hc hkind
    rcases List.mem_append.mp hc with hc | hc
    · have hcr := h.known c hc
      rw [hcarries.anchor c hcr]
      exact h.offLine c hc ((hcarries.kind c hcr).symm.trans hkind)
    · obtain rfl := List.mem_singleton.mp hc
      rw [hcarries.anchor c hb]
      refine Option.eq_none_iff_forall_ne_some.mpr fun i hi => hL (r.lines.get i) ?_
      rw [Ruling.lineNumber?, hi]
      rfl
  leave _ b _ h := h.carried (carries_leave h.known b) fun c hc => (List.mem_filter.mp hc).1

end Ruling

namespace Margin
variable {κ ω : Type} [DecidableEq κ] {h : Reaction κ ω} {s : Margin κ ω} {b : BookmarkId}

theorem Aloof.heeds_ruling (ha : Aloof h) (I : Ruling → Prop) : Heeds h fun s => I s.ruling :=
  heeds_of_aloof ha fun s t hst hs => by rwa [ruling_aside hst]

omit [DecidableEq κ] in
theorem not_hasLineError_iff :
    ¬ s.HasLineError ↔
      ∀ b ∈ s.stored, (s.bookmark b).kind = .parseError → (s.bookmark b).anchor.line? = none := by
  have hanchor : ∀ b, s.span? b = none ↔ (s.bookmark b).anchor.line? ≠ none := by
    intro b
    rw [span?]
    cases (s.bookmark b).anchor <;> simp [Anchor.span?, Anchor.line?]
  simp only [HasLineError, hanchor, not_exists, not_and, not_not]

/-- Reconciling puts no parse error on a line. -/
theorem not_hasLineError_replaced (ha : Aloof h) (hknown : ∀ b ∈ s.stored, b < s.bookmarks.size)
    (hs : ¬ s.HasLineError) (ds : List Diagnostic) :
    ¬ (replaceParseErrors h s ds).1.HasLineError := by
  have hspanned : s.ruling.Spanned s.bookmarks.size :=
    ⟨Nat.le_refl _, hknown, not_hasLineError_iff.mp hs⟩
  have hleft := replaceParseErrors_keeps (Ruling.closed_spanned s.bookmarks.size)
    (ha.heeds_ruling _) hknown ds hspanned
  exact not_hasLineError_iff.mpr hleft.offLine

/-- A command that moves no line leaves those bookmarks where they are that were stored before,
and puts others on lines in `L` only. -/
theorem perform_settles (ha : Aloof h) {L : Int → Prop} {c : Command} (hc : c.Places L s)
    (hs : s.ruling.Ordered [] 0) :
    s.ruling.Carries (perform h s c).1.ruling ∧ s.ruling.Settles L (perform h s c).1.ruling := by
  have hplaced : c.Places (fun _ => True) s := by
    cases c with
    | add b => exact ⟨hc.1, fun _ _ => trivial⟩
    | linesInserted => exact hc
    | linesDeleted => exact hc
    | _ => exact trivial
  refine ⟨?_, ?_⟩
  · exact perform_keeps (Ruling.closed_carries s.ruling) (ha.heeds_ruling _) hs.known hplaced
      (.refl hs.known)
  · refine perform_keeps (Ruling.closed_settles L s.ruling) (ha.heeds_ruling _) hs.known hc ?_
    exact ⟨hs.rebound (Nat.le_refl _), fun b hb hnew => absurd hb hnew⟩

theorem ruling_announce (ha : Aloof h) (removed : List BookmarkId) (anchors : List Anchor) :
    (announce h s removed anchors).ruling = s.ruling :=
  announce_keeps (ha.heeds_ruling (· = s.ruling)) (fun _ _ => id) removed anchors rfl

theorem ruling_linesInserted (ha : Aloof h) (first count : Int) :
    (linesInserted h s first count).ruling =
      ({ s with tracker := (s.tracker.insertLines first count).1 } : Margin κ ω).ruling :=
  ruling_announce ha _ _

theorem ruling_charactersInserted (ha : Aloof h) (start count : Int) :
    (charactersInserted h s start count).ruling = s.ruling :=
  (ruling_announce ha _ _).trans (ruling_insertCharacters s start count)

theorem ruling_charactersDeleted (ha : Aloof h) (start count : Int) :
    (charactersDeleted h s start count).ruling = s.ruling :=
  (ruling_announce ha _ _).trans (ruling_deleteCharacters s start count)

theorem linesDeleted_carries (ha : Aloof h) (first count : Int)
    (hknown : ∀ b ∈ s.stored, b < s.bookmarks.size) :
    ({ s with tracker := (s.tracker.deleteLines first count).1 } : Margin κ ω).ruling.Carries
      (linesDeleted h s first count).ruling := by
  unfold linesDeleted
  dsimp only
  rw [ruling_announce ha]
  have hst := stable_of_closed (Ruling.closed_carries
    ({ s with tracker := (s.tracker.deleteLines first count).1 } : Margin κ ω).ruling)
    (ha.heeds_ruling _)
  refine hst.discardAll ?_ (.refl hknown)
  exact fun b hb => hknown b (List.mem_filter.mp hb).1

/-- Just those bookmarks leave whose anchors the tracker gave up. -/
theorem stored_linesDeleted {k : κ} {heard : ω → List Sighting} (hrec : Records h k heard)
    (first count : Int) :
    (linesDeleted h s first count).stored = s.stored.filter fun b =>
      (s.bookmark b).anchor ∉ (s.tracker.deleteLines first count).2.removed.map .line := by
  have hannounced : ∀ (t : Margin κ ω) (removed : List BookmarkId) (anchors : List Anchor),
      (announce h t removed anchors).stored = t.stored :=
    fun t _ _ => congrArg Ruling.stored (ruling_announce hrec.aloof _ _)
  unfold linesDeleted
  dsimp only
  rw [hannounced, (hushed_discardAll hrec _ _).stored]
  refine List.filter_congr fun b (hb : b ∈ s.stored) => ?_
  simp [hb, bookmark]

omit [DecidableEq κ] in
theorem tracked_of_lineNumber (hs : s.ruling.Ordered [] 0) (hb : b ∈ s.stored) {line : Int}
    (hline : s.lineNumber? b = some line) :
    ∃ i ∈ s.tracker.trackedLines, (s.bookmark b).anchor = .line i ∧ s.tracker.line i = line := by
  obtain ⟨i, ha, hi⟩ := anchor_of_lineNumber hline
  exact ⟨i, (hs.stays b hb List.not_mem_nil i ha).1, ha, hi⟩

theorem lineNumber?_linesInserted (ha : Aloof h) (hs : s.ruling.Ordered [] 0) (first count : Int)
    (hb : b ∈ s.stored) {line : Int} (hline : s.lineNumber? b = some line) :
    (linesInserted h s first count).lineNumber? b =
      some (lineInserted first count.toNat line) := by
  obtain ⟨i, hi, hanchor, rfl⟩ := tracked_of_lineNumber hs hb hline
  have hmoved : (linesInserted h s first count).lineNumber? b =
      some ((s.tracker.insertLines first count).1.line i) := by
    have hruling := congrArg (fun r => r.lineNumber? b) (ruling_linesInserted ha (s := s) first count)
    refine hruling.trans ?_
    change (s.bookmark b).anchor.line?.map _ = _
    rw [hanchor]
    rfl
  rw [hmoved]
  by_cases hc : 0 < count
  · rw [Tracker.line_insertLines hs.trackedNodup hc hi, Int.toNat_of_nonneg (Int.le_of_lt hc)]
  · rw [Tracker.insertLines_of_nonpos _ (Int.not_lt.mp hc), Int.toNat_of_nonpos (Int.not_lt.mp hc)]
    simp [lineInserted]

theorem mem_stored_linesDeleted {k : κ} {heard : ω → List Sighting} (hrec : Records h k heard)
    (hs : s.ruling.Ordered [] 0) (first count : Int) (hb : b ∈ s.stored) {line : Int}
    (hline : s.lineNumber? b = some line) :
    b ∈ (linesDeleted h s first count).stored ↔ ¬ LineGone first count.toNat line := by
  obtain ⟨i, hi, hanchor, rfl⟩ := tracked_of_lineNumber hs hb hline
  have hremoved : i ∈ (s.tracker.deleteLines first count).2.removed ↔
      LineGone first count.toNat (s.tracker.line i) := by
    by_cases hc : 0 < count
    · rw [Tracker.mem_removed_deleteLines hc, Int.toNat_of_nonneg (Int.le_of_lt hc)]
      exact and_iff_right hi
    · rw [Tracker.deleteLines_of_nonpos _ (Int.not_lt.mp hc),
        Int.toNat_of_nonpos (Int.not_lt.mp hc)]
      simp [LineGone]
  rw [stored_linesDeleted hrec, List.mem_filter, ← hremoved, hanchor]
  simp [hb]

theorem lineNumber?_linesDeleted {k : κ} {heard : ω → List Sighting} (hrec : Records h k heard)
    (hs : s.ruling.Ordered [] 0) (first count : Int) (hb : b ∈ s.stored) {line : Int}
    (hline : s.lineNumber? b = some line) (hstay : ¬ LineGone first count.toNat line) :
    (linesDeleted h s first count).lineNumber? b =
      some (lineDeleted first count.toNat line) := by
  obtain ⟨i, hi, hanchor, rfl⟩ := tracked_of_lineNumber hs hb hline
  have hknown := hs.known b hb
  have hmoved : (linesDeleted h s first count).lineNumber? b =
      some ((s.tracker.deleteLines first count).1.line i) := by
    have hcarries := linesDeleted_carries hrec.aloof first count hs.known
    refine (hcarries.lineNumber? hknown ?_).trans ?_
    · intro j hj
      exact Nat.lt_of_lt_of_le (hs.made b j hknown hj) Tracker.size_deleteLines
    · change (s.bookmark b).anchor.line?.map _ = _
      rw [hanchor]
      rfl
  rw [hmoved]
  by_cases hc : 0 < count
  · rw [Int.toNat_of_nonneg (Int.le_of_lt hc)] at hstay ⊢
    rw [Tracker.line_deleteLines hs.trackedNodup hc
      ((Tracker.mem_trackedLines_deleteLines hc).mpr ⟨hi, hstay⟩)]
  · rw [Tracker.deleteLines_of_nonpos _ (Int.not_lt.mp hc), Int.toNat_of_nonpos (Int.not_lt.mp hc)]
    simp [lineDeleted]

end Margin

end Scriptorium
