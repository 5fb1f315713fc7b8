import Mathlib.Data.List.Nodup
import Scriptorium.Tracker

/-!
Which spans are tracked after an anchor was tracked, or given up, and where they stand after an
edit of characters. No edit of characters takes a span away, and none leads one out of the text.
-/

namespace Scriptorium
set_option autoImplicit false

theorem Span.delete_zero {s : Span} {start : Int} : s.delete start 0 = s := by
  unfold delete
  split
  · simp
  · split
    · omega
    · split
      · rw [Int.add_zero, Int.min_eq_right (by omega)]
        simp
      · rfl

namespace Tracker
variable {t u : Tracker} {a : Anchor} {i : SpanId} {start count : Int}

theorem spans_of_track (ht : t.track a = .ok u) : u.spans = t.spans := by
  rcases track_cases ht with ⟨_, rfl⟩ | ⟨_, _, _, _, rfl⟩ | ⟨_, _, _, _, rfl⟩ <;> rfl

theorem nodup_of_track (ht : t.track a = .ok u) (hn : t.trackedSpans.Nodup) :
    u.trackedSpans.Nodup := by
  rcases track_cases ht with ⟨_, rfl⟩ | ⟨_, _, _, _, rfl⟩ | ⟨i, _, hi, _, rfl⟩
  · exact hn
  · exact hn
  · simpa using hn.concat hi

theorem mem_trackedSpans_of_track (ht : t.track a = .ok u) :
    i ∈ u.trackedSpans ↔ i ∈ t.trackedSpans ∨ a = .span i := by
  rcases track_cases ht with ⟨hmem, rfl⟩ | ⟨j, rfl, _, _, rfl⟩ | ⟨j, rfl, _, _, rfl⟩
  · refine ⟨.inl, ?_⟩
    rintro (hi | rfl)
    · exact hi
    · exact hmem
  · simp
  · simp [eq_comm]

@[simp] theorem span_newSpan_self (t : Tracker) (x : Span) :
    (t.newSpan x).1.span t.spans.size = x :=
  (Registry.get_push t.spans x _).trans (if_pos rfl)

/-- Tracking fails only for an anchor that is not tracked yet and stands in no proper place, and
says so. -/
theorem track_error {e : Misplaced} (he : t.track a = .error e) :
    (∃ i, a = .line i ∧ i ∉ t.trackedLines ∧ t.line i < 1 ∧ e = .line (t.line i)) ∨
    ∃ i, a = .span i ∧ i ∉ t.trackedSpans ∧ ¬ (t.span i).Valid ∧ e = .span (t.span i) := by
  unfold track at he
  split at he
  · cases he
  · rename_i hnew
    cases a with
    | line i =>
      dsimp only at he
      split at he
      · rename_i hline
        cases he
        exact .inl ⟨i, rfl, hnew, hline, rfl⟩
      · cases he
    | span i =>
      dsimp only at he
      split at he
      · cases he
      · rename_i hspan
        cases he
        exact .inr ⟨i, rfl, hnew, hspan, rfl⟩

theorem size_of_track_newSpan {x : Span}
    (ht : (t.newSpan x).1.track (.span t.spans.size) = .ok u) :
    u.spans.size = t.spans.size + 1 := by
  rw [spans_of_track ht]
  exact Registry.size_push t.spans x

theorem span_of_track_newSpan {x : Span}
    (ht : (t.newSpan x).1.track (.span t.spans.size) = .ok u) (hi : i < t.spans.size) :
    u.span i = t.span i := by
  rw [span, spans_of_track ht]
  exact (Registry.get_push t.spans x i).trans (if_neg (Nat.ne_of_lt hi))

theorem mem_trackedSpans_of_track_newSpan {x : Span}
    (ht : (t.newSpan x).1.track (.span t.spans.size) = .ok u) :
    i ∈ u.trackedSpans ↔ i ∈ t.trackedSpans ∨ i = t.spans.size := by
  rw [mem_trackedSpans_of_track ht]
  simp [eq_comm]

@[simp] theorem spans_untrack : (t.untrack a).spans = t.spans := by
  cases a <;> rfl

theorem nodup_untrack (hn : t.trackedSpans.Nodup) : (t.untrack a).trackedSpans.Nodup := by
  cases a with
  | line j => exact hn
  | span j => exact hn.erase j

theorem mem_trackedSpans_untrack (hn : t.trackedSpans.Nodup) :
    i ∈ (t.untrack a).trackedSpans ↔ i ∈ t.trackedSpans ∧ a ≠ .span i := by
  cases a with
  | line j => simp [untrack]
  | span j =>
    rw [untrack, hn.mem_erase_iff, and_comm]
    simp [eq_comm]

@[simp] theorem trackedSpans_insertCharacters :
    (t.insertCharacters start count).1.trackedSpans = t.trackedSpans := by
  unfold insertCharacters
  split <;> rfl

@[simp] theorem trackedSpans_deleteCharacters :
    (t.deleteCharacters start count).1.trackedSpans = t.trackedSpans := by
  unfold deleteCharacters
  split <;> rfl

theorem size_insertCharacters :
    t.spans.size ≤ (t.insertCharacters start count).1.spans.size := by
  unfold insertCharacters
  split
  · exact Nat.le_refl _
  · exact Registry.size_le_size_modifyAll _ _ _

theorem size_deleteCharacters :
    t.spans.size ≤ (t.deleteCharacters start count).1.spans.size := by
  unfold deleteCharacters
  split
  · exact Nat.le_refl _
  · exact Registry.size_le_size_modifyAll _ _ _

theorem deleteCharacters_of_nonpos (t : Tracker) (hc : count ≤ 0) :
    t.deleteCharacters start count = (t, []) := if_pos hc

theorem span_insertCharacters (hn : t.trackedSpans.Nodup) (hc : 0 < count)
    (hi : i ∈ t.trackedSpans) :
    (t.insertCharacters start count).1.span i = (t.span i).insert start count := by
  have hmoved : i ∈ t.trackedSpans.filter (fun i => start ≤ (t.span i).offset) ↔
      start ≤ (t.span i).offset := by simp [hi]
  rw [insertCharacters, if_neg (Int.not_le.mpr hc), span, Registry.get_modifyAll _ (hn.filter _)]
  by_cases hs : start ≤ (t.span i).offset
  · rw [if_pos (hmoved.mpr hs)]
    rfl
  · rw [if_neg (mt hmoved.mp hs), Span.insert, if_neg hs]
    rfl

theorem span_deleteCharacters (hn : t.trackedSpans.Nodup) (hc : 0 < count)
    (hi : i ∈ t.trackedSpans) :
    (t.deleteCharacters start count).1.span i = (t.span i).delete start count := by
  have hmoved : i ∈ t.trackedSpans.filter (fun i => (t.span i).Touched start) ↔
      (t.span i).Touched start := by simp [hi]
  rw [deleteCharacters, if_neg (Int.not_le.mpr hc), span, Registry.get_modifyAll _ (hn.filter _)]
  by_cases hs : (t.span i).Touched start
  · rw [if_pos (hmoved.mpr hs)]
    rfl
  · rw [if_neg (mt hmoved.mp hs), Span.delete_of_not_touched hc hs]
    rfl

theorem span_deleteCharacters_of_nonneg (hn : t.trackedSpans.Nodup) (hc : 0 ≤ count)
    (hi : i ∈ t.trackedSpans) :
    (t.deleteCharacters start count).1.span i = (t.span i).delete start count := by
  rcases Int.lt_or_eq_of_le hc with hpos | rfl
  · exact span_deleteCharacters hn hpos hi
  · rw [deleteCharacters_of_nonpos t (Int.le_refl 0), Span.delete_zero]

theorem valid_insertCharacters (hn : t.trackedSpans.Nodup) (hi : (t.span i).Valid) :
    ((t.insertCharacters start count).1.span i).Valid := by
  unfold insertCharacters
  split
  · exact hi
  · rename_i hc
    dsimp only
    rw [span, Registry.get_modifyAll _ (hn.filter _)]
    split
    · exact Span.insert_valid (Int.not_le.mp hc) hi
    · exact hi

theorem valid_deleteCharacters (hn : t.trackedSpans.Nodup) (hs : 0 ≤ start)
    (hi : (t.span i).Valid) : ((t.deleteCharacters start count).1.span i).Valid := by
  unfold deleteCharacters
  split
  · exact hi
  · dsimp only
    rw [span, Registry.get_modifyAll _ (hn.filter _)]
    split
    · exact Span.delete_valid hs hi
    · exact hi

@[simp] theorem trackedSpans_insertLines {first : Int} :
    (t.insertLines first count).1.trackedSpans = t.trackedSpans := by
  unfold insertLines
  split <;> rfl

@[simp] theorem spans_insertLines {first : Int} :
    (t.insertLines first count).1.spans = t.spans := by
  unfold insertLines
  split <;> rfl

@[simp] theorem trackedSpans_deleteLines {first : Int} :
    (t.deleteLines first count).1.trackedSpans = t.trackedSpans := by
  unfold deleteLines
  split <;> rfl

@[simp] theorem spans_deleteLines {first : Int} :
    (t.deleteLines first count).1.spans = t.spans := by
  unfold deleteLines
  split <;> rfl

end Tracker

end Scriptorium
