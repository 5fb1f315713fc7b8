import Scriptorium.Proofs.Tracker.Lines
import Scriptorium.Proofs.Tracker.Spans

/-!
What the tracker answers to an edit. An anchor is listed as moved just if it stands somewhere else
afterwards, with one exception: an empty span that stands where characters are taken out is listed
and stays where it is.

For this no anchor may be followed twice and no span may have a negative part, which is `Sound`. All
that is done to a tracker keeps it so, edits included.
-/

namespace Scriptorium
set_option autoImplicit false

/-- A span that the deletion reaches is another one afterwards unless it is empty and stands just
where the deletion begins. -/
theorem Span.delete_ne_iff {start count : Int} {s : Span} (hc : 0 < count) (hs : s.Valid) :
    s.delete start count ≠ s ↔ s.Touched start ∧ s ≠ ⟨start, 0⟩ := by
  obtain ⟨offset, length⟩ := s
  obtain ⟨-, hlength⟩ := hs
  simp only [Touched, stop, ne_eq, Span.mk.injEq] at hlength ⊢
  unfold delete stop
  by_cases hlater : start + count ≤ offset
  · rw [if_pos hlater]
    simp only [Span.mk.injEq, and_true]
    omega
  · by_cases hinside : start ≤ offset
    · rw [if_neg hlater, if_pos hinside]
      simp only [Span.mk.injEq]
      omega
    · by_cases hreached : start < offset + length
      · rw [if_neg hlater, if_neg hinside, if_pos hreached]
        simp only [Span.mk.injEq, true_and]
        omega
      · rw [if_neg hlater, if_neg hinside, if_neg hreached]
        simp only [not_true, false_iff, not_and]
        omega

theorem Span.insert_ne_iff {start count : Int} {s : Span} (hc : 0 < count) :
    s.insert start count ≠ s ↔ start ≤ s.offset := by
  obtain ⟨offset, length⟩ := s
  simp only [insert]
  split
  · simp only [ne_eq, Span.mk.injEq, and_true]
    omega
  · simp_all

namespace Tracker

/-- No anchor is followed twice, and no span has a negative part. -/
structure Sound (t : Tracker) : Prop where
  lines : t.trackedLines.Nodup
  spans : t.trackedSpans.Nodup
  valid : ∀ i, (t.span i).Valid

variable {t u : Tracker} {a : Anchor} {i : Nat} {first start count : Int}

@[simp] theorem span_insertLines : (t.insertLines first count).1.span i = t.span i := by
  rw [span, spans_insertLines]
  rfl

@[simp] theorem span_deleteLines : (t.deleteLines first count).1.span i = t.span i := by
  rw [span, spans_deleteLines]
  rfl

@[simp] theorem line_insertCharacters : (t.insertCharacters start count).1.line i = t.line i := by
  unfold insertCharacters
  split <;> rfl

@[simp] theorem line_deleteCharacters : (t.deleteCharacters start count).1.line i = t.line i := by
  unfold deleteCharacters
  split <;> rfl

theorem sound_empty : Sound empty :=
  ⟨List.nodup_nil, List.nodup_nil, fun _ => ⟨Int.le_refl 0, Int.le_refl 0⟩⟩

namespace Sound
variable (ht : Sound t)
include ht

theorem newLine (l : Int) : Sound (t.newLine l).1 := ⟨ht.lines, ht.spans, ht.valid⟩

theorem setSpan (i : SpanId) {x : Span} (hx : x.Valid) : Sound (t.setSpan i x) := by
  refine ⟨ht.lines, ht.spans, fun j => ?_⟩
  rw [span, Tracker.setSpan, Registry.get_set]
  split
  · exact hx
  · exact ht.valid j

theorem newSpan {x : Span} (hx : x.Valid) : Sound (t.newSpan x).1 := by
  refine ⟨ht.lines, ht.spans, fun j => ?_⟩
  rw [span, Tracker.newSpan, Registry.get_push]
  split
  · exact hx
  · exact ht.valid j

theorem track (hu : t.track a = .ok u) : Sound u := by
  refine ⟨?_, nodup_of_track hu ht.spans, fun i => ?_⟩
  · rcases track_cases hu with ⟨-, rfl⟩ | ⟨i, -, hi, -, rfl⟩ | ⟨-, -, -, -, rfl⟩
    · exact ht.lines
    · simpa using ht.lines.concat hi
    · exact ht.lines
  · rw [span, spans_of_track hu]
    exact ht.valid i

theorem untrack (a : Anchor) : Sound (t.untrack a) := by
  refine ⟨?_, nodup_untrack ht.spans, fun i => ?_⟩
  · cases a with
    | line i => exact ht.lines.erase i
    | span i => exact ht.lines
  · rw [span, spans_untrack]
    exact ht.valid i

theorem insertLines (first count : Int) : Sound (t.insertLines first count).1 := by
  refine ⟨trackedLines_insertLines.symm ▸ ht.lines, trackedSpans_insertLines.symm ▸ ht.spans, ?_⟩
  exact fun i => span_insertLines.symm ▸ ht.valid i

theorem deleteLines (first count : Int) : Sound (t.deleteLines first count).1 := by
  refine ⟨nodup_deleteLines ht.lines, trackedSpans_deleteLines.symm ▸ ht.spans, ?_⟩
  exact fun i => span_deleteLines.symm ▸ ht.valid i

theorem insertCharacters (start count : Int) : Sound (t.insertCharacters start count).1 := by
  refine ⟨?_, trackedSpans_insertCharacters.symm ▸ ht.spans, ?_⟩
  · unfold Tracker.insertCharacters
    split <;> exact ht.lines
  · exact fun i => valid_insertCharacters ht.spans (ht.valid i)

theorem deleteCharacters (hs : 0 ≤ start) (count : Int) :
    Sound (t.deleteCharacters start count).1 := by
  refine ⟨?_, trackedSpans_deleteCharacters.symm ▸ ht.spans, ?_⟩
  · unfold Tracker.deleteCharacters
    split <;> exact ht.lines
  · exact fun i => valid_deleteCharacters ht.spans hs (ht.valid i)

/-! The anchors that are listed as moved, edit by edit. -/

theorem mem_moved_insertLines :
    i ∈ (t.insertLines first count).2 ↔ (t.insertLines first count).1.line i ≠ t.line i := by
  by_cases hc : 0 < count
  · rw [insertLines_of_pos t hc, line, Registry.get_modifyAll _ (ht.lines.filter _)]
    split
    · rename_i hi
      refine iff_of_true hi ?_
      change t.line i + count ≠ t.line i
      omega
    · rename_i hi
      exact iff_of_false hi (not_not_intro rfl)
  · simp [insertLines_of_nonpos t (Int.not_lt.mp hc)]

theorem mem_moved_deleteLines :
    i ∈ (t.deleteLines first count).2.moved ↔ (t.deleteLines first count).1.line i ≠ t.line i := by
  by_cases hc : 0 < count
  · rw [deleteLines_of_pos t hc, line, Registry.get_modifyAll _ ((ht.lines.filter _).filter _)]
    split
    · rename_i hi
      refine iff_of_true hi ?_
      change t.line i - count ≠ t.line i
      omega
    · rename_i hi
      exact iff_of_false hi (not_not_intro rfl)
  · simp [deleteLines_of_nonpos t (Int.not_lt.mp hc)]

theorem mem_moved_insertCharacters :
    i ∈ (t.insertCharacters start count).2 ↔
      (t.insertCharacters start count).1.span i ≠ t.span i := by
  by_cases hc : 0 < count
  · rw [Tracker.insertCharacters, if_neg (Int.not_le.mpr hc), span,
      Registry.get_modifyAll _ (ht.spans.filter _)]
    split
    · rename_i hi
      refine iff_of_true hi ((Span.insert_ne_iff hc).mpr ?_)
      exact of_decide_eq_true (List.mem_filter.mp hi).2
    · rename_i hi
      exact iff_of_false hi (not_not_intro rfl)
  · simp [Tracker.insertCharacters, Int.not_lt.mp hc]

omit ht in
theorem span_deleteCharacters_of_not_mem (hn : t.trackedSpans.Nodup) (hi : i ∉ t.trackedSpans) :
    (t.deleteCharacters start count).1.span i = t.span i := by
  unfold Tracker.deleteCharacters
  split
  · rfl
  · dsimp only
    rw [span, Registry.get_modifyAll _ (hn.filter _), if_neg fun h => hi (List.mem_filter.mp h).1]
    rfl

/-- The empty span that stands where the deletion begins is the only one that is listed in vain. -/
theorem mem_moved_deleteCharacters :
    i ∈ (t.deleteCharacters start count).2 ↔
      (t.deleteCharacters start count).1.span i ≠ t.span i ∨
        0 < count ∧ i ∈ t.trackedSpans ∧ t.span i = ⟨start, 0⟩ := by
  by_cases hc : 0 < count
  · have hlisted : i ∈ (t.deleteCharacters start count).2 ↔
        i ∈ t.trackedSpans ∧ (t.span i).Touched start := by
      rw [Tracker.deleteCharacters, if_neg (Int.not_le.mpr hc)]
      simp
    by_cases hi : i ∈ t.trackedSpans
    · have hgrazed : t.span i = ⟨start, 0⟩ → (t.span i).Touched start :=
        fun h => h ▸ .inl (Int.le_refl start)
      rw [hlisted, span_deleteCharacters ht.spans hc hi, Span.delete_ne_iff hc (ht.valid i)]
      tauto
    · rw [hlisted, span_deleteCharacters_of_not_mem ht.spans hi]
      simp [hi]
  · simp [deleteCharacters_of_nonpos t (Int.not_lt.mp hc), hc]

end Sound

end Tracker

end Scriptorium
