import Mathlib.Data.List.Perm.Subperm
import Scriptorium.Proofs.Tracker.Run

/-!
The order of tracked anchors. Whether an anchor stands in a proper place is looked at only when it
begins to be tracked; that it goes on doing so is due to the edits, none of which leads an anchor
out of the text or past another one (`Edit.line?_lt_iff`, `Edit.offset_span_le`). And what is done
to the lists of tracked anchors is to append to them and to take away from them, which leaves the
others in their order.
-/

namespace Scriptorium
set_option autoImplicit false

theorem lineTaken?_eq_some_iff {place a l k : Int} :
    lineTaken? place a l = some k ↔ ¬ LineGone place a l ∧ lineDeleted place a l = k := by
  by_cases hgone : LineGone place a l
  · simp [lineTaken?_eq_none hgone, hgone]
  · rw [lineTaken?, if_neg hgone, Option.some_inj]
    simp [hgone]

/-- The beginning of a span moves as a line does. -/
theorem Span.offset_insert {start count : Int} (s : Span) :
    (s.insert start count).offset = lineInserted start count s.offset := by
  unfold insert lineInserted
  split <;> rfl

namespace Tracker

namespace Edit
variable {e : Edit} {l k l' k' : Int} {s u : Span}

/-- Nothing is taken out that stands before the first line or the first character. -/
def Fair : Edit → Prop
  | take .lines place _ => 1 ≤ place
  | take .characters place _ => 0 ≤ place
  | put _ _ _ => True

/-- Lines that stay are above each other as before. -/
theorem line?_lt_iff (hl : e.line? l = some l') (hk : e.line? k = some k') :
    l < k ↔ l' < k' := by
  cases e with
  | put axis place count =>
    cases axis with
    | lines =>
      obtain rfl := Option.some.inj hl
      obtain rfl := Option.some.inj hk
      unfold lineInserted
      split <;> split <;> omega
    | characters =>
      obtain rfl := Option.some.inj hl
      obtain rfl := Option.some.inj hk
      rfl
  | take axis place count =>
    cases axis with
    | lines =>
      obtain ⟨hstays, rfl⟩ := lineTaken?_eq_some_iff.mp hl
      obtain ⟨hstays', rfl⟩ := lineTaken?_eq_some_iff.mp hk
      unfold LineGone at hstays hstays'
      unfold lineDeleted
      split <;> split <;> omega
    | characters =>
      obtain rfl := Option.some.inj hl
      obtain rfl := Option.some.inj hk
      rfl

theorem one_le_line? (he : e.Fair) (hl : 1 ≤ l) (h : e.line? l = some l') : 1 ≤ l' := by
  cases e with
  | put axis place count =>
    cases axis with
    | lines =>
      obtain rfl := Option.some.inj h
      unfold lineInserted
      split <;> omega
    | characters => exact Option.some.inj h ▸ hl
  | take axis place count =>
    cases axis with
    | lines =>
      obtain ⟨-, rfl⟩ := lineTaken?_eq_some_iff.mp h
      exact one_le_lineDeleted he hl
    | characters => exact Option.some.inj h ▸ hl

theorem valid_span (he : e.Fair) (hs : s.Valid) : (e.span s).Valid := by
  cases e with
  | put axis place count =>
    cases axis with
    | lines => exact hs
    | characters =>
      obtain ⟨hoffset, hlength⟩ := hs
      dsimp only [span]
      unfold Span.insert
      split
      · exact ⟨by dsimp only; omega, hlength⟩
      · exact ⟨hoffset, hlength⟩
  | take axis place count =>
    cases axis with
    | lines => exact hs
    | characters => exact Span.delete_valid he hs

/-- No span is led past another one, but two may come to begin at one place. -/
theorem offset_span_le (e : Edit) (h : s.offset ≤ u.offset) :
    (e.span s).offset ≤ (e.span u).offset := by
  cases e with
  | put axis place count =>
    cases axis with
    | lines => exact h
    | characters =>
      dsimp only [span]
      rw [Span.offset_insert, Span.offset_insert]
      unfold lineInserted
      split <;> split <;> omega
  | take axis place count =>
    cases axis with
    | lines => exact h
    | characters =>
      have hcount : (0 : Int) ≤ count := Int.natCast_nonneg count
      dsimp only [span]
      rw [Span.offset_delete hcount, Span.offset_delete hcount]
      unfold placeDeleted
      omega

end Edit

/-- The tracked anchors were made, none of them is tracked twice, and they stand in proper
places. -/
structure Proper (t : Tracker) : Prop where
  lines : t.trackedLines.Nodup
  spans : t.trackedSpans.Nodup
  line : ∀ i ∈ t.trackedLines, t.Made (.line i) ∧ 1 ≤ t.line i
  span : ∀ i ∈ t.trackedSpans, t.Made (.span i) ∧ (t.span i).Valid

/-- Of the anchors that are tracked before and afterwards none has come before another one, neither
in the lists nor in the text. -/
structure Orderly (t u : Tracker) : Prop where
  lines : t.trackedLines.Sublist u.trackedLines ∨ u.trackedLines.Sublist t.trackedLines
  spans : t.trackedSpans.Sublist u.trackedSpans ∨ u.trackedSpans.Sublist t.trackedSpans
  line : ∀ i j, (i ∈ t.trackedLines ∧ i ∈ u.trackedLines) →
    (j ∈ t.trackedLines ∧ j ∈ u.trackedLines) → (t.line i < t.line j ↔ u.line i < u.line j)
  span : ∀ i j, (i ∈ t.trackedSpans ∧ i ∈ u.trackedSpans) →
    (j ∈ t.trackedSpans ∧ j ∈ u.trackedSpans) →
    (t.span i).offset ≤ (t.span j).offset → (u.span i).offset ≤ (u.span j).offset

/-- Of the anchors that are tracked all the time none comes before another one in the end that it
did not come before at first: the lists keep their order, lines that are apart stay apart, and spans
may come to begin at one place. -/
structure InOrder (t : Tracker) (cs : List Command) (u : Tracker) : Prop where
  lines : ∀ p : LineId → Bool, Throughout (fun v => ∀ i, p i → i ∈ v.trackedLines) t cs →
    u.trackedLines.filter p = t.trackedLines.filter p
  spans : ∀ p : SpanId → Bool, Throughout (fun v => ∀ i, p i → i ∈ v.trackedSpans) t cs →
    u.trackedSpans.filter p = t.trackedSpans.filter p
  line : ∀ i j, Throughout (fun v => i ∈ v.trackedLines ∧ j ∈ v.trackedLines) t cs →
    (t.line i < t.line j ↔ u.line i < u.line j)
  span : ∀ i j, Throughout (fun v => i ∈ v.trackedSpans ∧ j ∈ v.trackedSpans) t cs →
    (t.span i).offset ≤ (t.span j).offset → (u.span i).offset ≤ (u.span j).offset

section Lists
variable {α : Type} {l m : List α} {p : α → Bool}

theorem filter_eq_of_sublist (h : l.Sublist m) (hn : m.Nodup) (hp : ∀ a ∈ m, p a → a ∈ l) :
    l.filter p = m.filter p := by
  have hsubset : m.filter p ⊆ l.filter p := by
    intro a ha
    obtain ⟨ham, hpa⟩ := List.mem_filter.mp ha
    exact List.mem_filter.mpr ⟨hp a ham hpa, hpa⟩
  exact (h.filter p).eq_of_length_le (List.subperm_of_subset (hn.filter p) hsubset).length_le

/-- What is in both lists comes in the same order. -/
theorem filter_eq_of_nested (h : l.Sublist m ∨ m.Sublist l) (hl : l.Nodup) (hm : m.Nodup)
    (hp : ∀ a, p a → a ∈ l ∧ a ∈ m) : m.filter p = l.filter p := by
  rcases h with h | h
  · exact (filter_eq_of_sublist h hm fun a _ hpa => (hp a hpa).1).symm
  · exact filter_eq_of_sublist h hl fun a _ hpa => (hp a hpa).2

end Lists

section Step
variable {t u v : Tracker} {a : Anchor} {c : Command} {e : Edit}

/-- Where no tracked anchor is moved, they remain in order if the lists of them do. -/
theorem Proper.orderly (ht : Proper t) (h : Unmoved t u)
    (hl : t.trackedLines.Sublist u.trackedLines ∨ u.trackedLines.Sublist t.trackedLines)
    (hs : t.trackedSpans.Sublist u.trackedSpans ∨ u.trackedSpans.Sublist t.trackedSpans) :
    Orderly t u := by
  refine ⟨hl, hs, fun i j hi hj => ?_, fun i j hi hj hle => ?_⟩
  · rw [h.line i (ht.line i hi.1).1, h.line j (ht.line j hj.1).1]
  · rw [h.span i (ht.span i hi.1).1, h.span j (ht.span j hj.1).1]
    exact hle

theorem Proper.unaltered (ht : Proper t) (h : Unaltered t u) : Proper u ∧ Orderly t u := by
  refine ⟨⟨h.trackedLines ▸ ht.lines, h.trackedSpans ▸ ht.spans, fun i hi => ?_, fun i hi => ?_⟩,
    ht.orderly h.toUnmoved (.inl (h.trackedLines ▸ .refl _)) (.inl (h.trackedSpans ▸ .refl _))⟩
  · rw [h.trackedLines] at hi
    obtain ⟨hmade, hline⟩ := ht.line i hi
    exact ⟨h.made _ hmade, (h.line i hmade).symm ▸ hline⟩
  · rw [h.trackedSpans] at hi
    obtain ⟨hmade, hspan⟩ := ht.span i hi
    exact ⟨h.made _ hmade, (h.span i hmade).symm ▸ hspan⟩

/-- What is in order after an anchor was made is so from before it was made. -/
theorem Orderly.of_unaltered (ht : Proper t) (h : Unaltered t u) (ho : Orderly u v) :
    Orderly t v := by
  have hlines := h.trackedLines
  have hspans := h.trackedSpans
  refine ⟨hlines ▸ ho.lines, hspans ▸ ho.spans, fun i j hi hj => ?_, fun i j hi hj hle => ?_⟩
  · rw [← h.line i (ht.line i hi.1).1, ← h.line j (ht.line j hj.1).1]
    exact ho.line i j (hlines.symm ▸ hi) (hlines.symm ▸ hj)
  · rw [← h.span i (ht.span i hi.1).1, ← h.span j (ht.span j hj.1).1] at hle
    exact ho.span i j (hspans.symm ▸ hi) (hspans.symm ▸ hj) hle

theorem Proper.track (ht : Proper t) (ha : t.Made a) (hu : t.track a = .ok u) :
    Proper u ∧ Orderly t u := by
  rcases track_cases hu with ⟨-, rfl⟩ | ⟨i, rfl, hi, hplace, rfl⟩ | ⟨i, rfl, hi, hplace, rfl⟩
  · exact ht.unaltered (.refl _)
  · refine ⟨⟨by simpa using ht.lines.concat hi, ht.spans, fun j hj => ?_, ht.span⟩,
      ht.orderly (.of_eq rfl rfl) (.inl (List.sublist_append_left _ _)) (.inl (.refl _))⟩
    rcases List.mem_append.mp hj with hj | hj
    · exact ht.line j hj
    · obtain rfl := List.mem_singleton.mp hj
      exact ⟨ha, hplace⟩
  · refine ⟨⟨ht.lines, by simpa using ht.spans.concat hi, ht.line, fun j hj => ?_⟩,
      ht.orderly (.of_eq rfl rfl) (.inl (.refl _)) (.inl (List.sublist_append_left _ _))⟩
    rcases List.mem_append.mp hj with hj | hj
    · exact ht.span j hj
    · obtain rfl := List.mem_singleton.mp hj
      exact ⟨ha, hplace⟩

theorem Proper.untrack (ht : Proper t) (a : Anchor) :
    Proper (t.untrack a) ∧ Orderly t (t.untrack a) := by
  cases a with
  | line i =>
    exact ⟨⟨ht.lines.erase i, ht.spans, fun j hj => ht.line j (List.mem_of_mem_erase hj), ht.span⟩,
      ht.orderly (.of_eq rfl rfl) (.inr List.erase_sublist) (.inl (.refl _))⟩
  | span i =>
    exact ⟨⟨ht.lines, ht.spans.erase i, ht.line, fun j hj => ht.span j (List.mem_of_mem_erase hj)⟩,
      ht.orderly (.of_eq rfl rfl) (.inl (.refl _)) (.inr List.erase_sublist)⟩

@[simp] theorem lines_insertCharacters {start count : Int} :
    (t.insertCharacters start count).1.lines = t.lines := by
  unfold insertCharacters
  split <;> rfl

@[simp] theorem lines_deleteCharacters {start count : Int} :
    (t.deleteCharacters start count).1.lines = t.lines := by
  unfold deleteCharacters
  split <;> rfl

theorem Made.edit (ha : t.Made a) (e : Edit) : (t.edit e).1.Made a := by
  cases a with
  | line i =>
    refine Nat.lt_of_lt_of_le ha ?_
    rcases e with ⟨_ | _⟩ | ⟨_ | _⟩
    · exact size_insertLines
    · exact Nat.le_of_eq (congrArg Registry.size lines_insertCharacters.symm)
    · exact size_deleteLines
    · exact Nat.le_of_eq (congrArg Registry.size lines_deleteCharacters.symm)
  | span i =>
    refine Nat.lt_of_lt_of_le ha ?_
    rcases e with ⟨_ | _⟩ | ⟨_ | _⟩
    · exact Nat.le_of_eq (congrArg Registry.size spans_insertLines.symm)
    · exact size_insertCharacters
    · exact Nat.le_of_eq (congrArg Registry.size spans_deleteLines.symm)
    · exact size_deleteCharacters

/-- A line that is tracked after the edit was so before, and has moved by its rule. -/
theorem Follows.line?_eq {f : Int → Option Int} {g : Span → Span} {x : Tracker × List LineId}
    (h : Follows t f g x) {i : LineId} (hi : i ∈ x.1.trackedLines) :
    i ∈ t.trackedLines ∧ f (t.line i) = some (x.1.line i) := by
  rw [h.trackedLines, List.mem_filter] at hi
  obtain ⟨l, hl⟩ := Option.isSome_iff_exists.mp hi.2
  exact ⟨hi.1, hl.trans (congrArg some (h.line i hi.1 l hl).symm)⟩

theorem Proper.edit (ht : Proper t) (he : e.Fair) :
    Proper (t.edit e).1 ∧ Orderly t (t.edit e).1 := by
  have hfollows := follows_edit ht.lines ht.spans e
  refine ⟨⟨?_, ?_, ?_, ?_⟩, ⟨?_, ?_, ?_, ?_⟩⟩
  · exact hfollows.trackedLines ▸ ht.lines.filter _
  · exact hfollows.trackedSpans ▸ ht.spans
  · intro i hi
    obtain ⟨hmem, hline⟩ := hfollows.line?_eq hi
    obtain ⟨hmade, hplace⟩ := ht.line i hmem
    exact ⟨hmade.edit e, Edit.one_le_line? he hplace hline⟩
  · intro i hi
    rw [hfollows.trackedSpans] at hi
    obtain ⟨hmade, hplace⟩ := ht.span i hi
    exact ⟨hmade.edit e, hfollows.span i hi ▸ Edit.valid_span he hplace⟩
  · exact .inr (hfollows.trackedLines ▸ List.filter_sublist)
  · exact .inr (hfollows.trackedSpans ▸ .refl _)
  · intro i j hi hj
    exact Edit.line?_lt_iff (hfollows.line?_eq hi.2).2 (hfollows.line?_eq hj.2).2
  · intro i j hi hj hle
    rw [hfollows.span i hi.1, hfollows.span j hj.1]
    exact e.offset_span_le hle

theorem Command.Allowed.fair (hc : c.Allowed t) (h : c.edit? = some e) : e.Fair := by
  cases c with
  | deleteLines first count =>
    cases h
    exact hc
  | deleteCharacters start count =>
    cases h
    exact hc
  | insertLines first count =>
    cases h
    trivial
  | insertCharacters start count =>
    cases h
    trivial
  | _ => cases h

/-- An anchor is tracked, perhaps only just after it was made. -/
theorem Proper.tried (ht : Proper t) (h : Unaltered t u) (ha : u.Made a) :
    Proper (u.tried (u.track a)).1 ∧ Orderly t (u.tried (u.track a)).1 := by
  cases htrack : u.track a with
  | ok v =>
    obtain ⟨hproper, horderly⟩ := (ht.unaltered h).1.track ha htrack
    exact ⟨hproper, horderly.of_unaltered ht h⟩
  | error e => exact ht.unaltered h

/-- What each command does: tracked anchors stand in proper places afterwards, and those that are
still tracked are in order. -/
theorem Proper.perform (ht : Proper t) (hc : c.Allowed t) :
    Proper (t.perform c).1 ∧ Orderly t (t.perform c).1 := by
  cases hedit : c.edit? with
  | some e =>
    rw [perform_edit hedit]
    exact ht.edit (hc.fair hedit)
  | none =>
    cases c with
    | newLine l => exact ht.unaltered (unaltered_newLine t l)
    | newSpan x => exact ht.unaltered (unaltered_newSpan t x)
    | track a => exact ht.tried (.refl t) hc
    | trackLine l =>
      rw [Tracker.perform, map_trackLine]
      exact ht.tried (unaltered_newLine t l) (made_newLine t l)
    | trackSpan x =>
      rw [Tracker.perform, map_trackSpan]
      exact ht.tried (unaltered_newSpan t x) (made_newSpan t x)
    | untrack a => exact ht.untrack a
    | _ => cases hedit

end Step

theorem proper_empty : Proper empty :=
  ⟨List.nodup_nil, List.nodup_nil, fun _ hi => absurd hi List.not_mem_nil,
    fun _ hi => absurd hi List.not_mem_nil⟩

section Run
variable {t u : Tracker} {cs : List Command}

theorem Run.proper (h : Run t cs u) (ht : Proper t) : Proper u := by
  induction h with
  | nil t => exact ht
  | cons hc _ ih => exact ih (ht.perform hc).1

theorem Run.inOrder (h : Run t cs u) (ht : Proper t) : InOrder t cs u := by
  induction h with
  | nil t =>
    exact ⟨fun _ _ => rfl, fun _ _ => rfl, fun _ _ _ => Iff.rfl, fun _ _ _ hle => hle⟩
  | cons hc _ ih =>
    obtain ⟨hproper, horderly⟩ := ht.perform hc
    have hrest := ih hproper
    refine ⟨fun p hp => ?_, fun p hp => ?_, fun i j hij => ?_, fun i j hij hle => ?_⟩
    · rw [hrest.lines p hp.2]
      exact filter_eq_of_nested horderly.lines ht.lines hproper.lines
        fun i hi => ⟨hp.1 i hi, hp.2.first i hi⟩
    · rw [hrest.spans p hp.2]
      exact filter_eq_of_nested horderly.spans ht.spans hproper.spans
        fun i hi => ⟨hp.1 i hi, hp.2.first i hi⟩
    · have hnext := hij.2.first
      rw [horderly.line i j ⟨hij.1.1, hnext.1⟩ ⟨hij.1.2, hnext.2⟩]
      exact hrest.line i j hij.2
    · have hnext := hij.2.first
      refine hrest.span i j hij.2 ?_
      exact horderly.span i j ⟨hij.1.1, hnext.1⟩ ⟨hij.1.2, hnext.2⟩ hle

/-- Whatever is asked of a tracker, the tracked anchors stand in proper places and none is tracked
twice; those that are tracked all the time keep their order; and what is refused leaves all as it
was. -/
theorem order_kept {bs : List Command} (ht : Run empty bs t) (hu : Run t cs u) :
    Proper t ∧ InOrder t cs u ∧
      ∀ c m, (t.perform c).2 = some m → Unaltered t (t.perform c).1 := by
  have hproper := ht.proper proper_empty
  exact ⟨hproper, hu.inOrder hproper, fun c m => unaltered_of_refused⟩

end Run

/-- Two lines and two spans are tracked, and a line is made that cannot be. -/
def settling : List Command :=
  [.trackLine 3, .trackLine 7, .trackSpan ⟨4, 2⟩, .trackSpan ⟨9, 0⟩, .newLine 0]

/-- Lines are put in and taken out between the two lines, and characters under both spans. -/
def shortening : List Command :=
  [.insertLines 5 2, .deleteLines 4 1, .track (.line 2), .deleteCharacters 3 7]

def settled : Tracker := settling.foldl (fun t c => (t.perform c).1) empty

def shortened : Tracker := shortening.foldl (fun t c => (t.perform c).1) settled

/-- The lines are apart as before, the spans have come to one place, and the line that cannot be
tracked was refused. -/
theorem order_kept_shortened :
    Run empty settling settled ∧ Run settled shortening shortened ∧
    (shortened.line 0, shortened.line 1) = (3, 8) ∧
    (settled.line 0 < settled.line 1 ↔ shortened.line 0 < shortened.line 1) ∧
    (shortened.span 0, shortened.span 1) = (⟨3, 0⟩, ⟨3, 0⟩) ∧
    (shortened.span 0).offset ≤ (shortened.span 1).offset ∧
    Unaltered settled (settled.perform (.track (.line 2))).1 := by
  have hsettled : Run empty settling settled :=
    .cons trivial (.cons trivial (.cons trivial (.cons trivial (.cons trivial (.nil _)))))
  have hshortened : Run settled shortening shortened :=
    .cons trivial (.cons (by decide) (.cons (by decide) (.cons (by decide) (.nil _))))
  obtain ⟨-, horder, hrefused⟩ := order_kept hsettled hshortened
  exact ⟨hsettled, hshortened, by decide, horder.line 0 1 (by decide), by decide,
    horder.span 0 1 (by decide) (by decide), hrefused _ (.line 0) (by decide)⟩

end Tracker

end Scriptorium
