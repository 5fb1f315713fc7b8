import Scriptorium.Tracker

/-!
Where the tracked lines stand after an edit of whole lines. One line number moves by the rules
`lineInserted` and `lineDeleted`; the tracker applies them to each tracked anchor and stops
tracking those on deleted lines. Both rules keep different lines apart.
-/

namespace Scriptorium
set_option autoImplicit false

/-- Where a line stands once `count` lines were put in before line `first`. -/
def lineInserted (first count line : Int) : Int :=
  if first ≤ line then line + count else line

/-- Whether the line is among the `count` lines that are taken out from line `first` on. -/
def LineGone (first count line : Int) : Prop := first ≤ line ∧ line < first + count

instance (first count line : Int) : Decidable (LineGone first count line) := by
  unfold LineGone; infer_instance

/-- Where a line that stays stands once `count` lines were taken out from line `first` on. -/
def lineDeleted (first count line : Int) : Int :=
  if first + count ≤ line then line - count else line

theorem lineInserted_inj {first count l k : Int} (hc : 0 < count)
    (h : lineInserted first count l = lineInserted first count k) : l = k := by
  unfold lineInserted at h
  split at h <;> split at h <;> omega

theorem lineDeleted_inj {first count l k : Int} (hl : ¬ LineGone first count l)
    (hk : ¬ LineGone first count k) (h : lineDeleted first count l = lineDeleted first count k) :
    l = k := by
  unfold LineGone at hl hk
  unfold lineDeleted at h
  split at h <;> split at h <;> omega

theorem one_le_lineInserted {first count l : Int} (hc : 0 < count) (h : 1 ≤ l) :
    1 ≤ lineInserted first count l := by
  unfold lineInserted
  split <;> omega

theorem one_le_lineDeleted {first count l : Int} (hf : 1 ≤ first) (h : 1 ≤ l) :
    1 ≤ lineDeleted first count l := by
  unfold lineDeleted
  split <;> omega

namespace Tracker
variable {t : Tracker} {first count : Int} {i : LineId}

theorem insertLines_of_nonpos (t : Tracker) (hc : count ≤ 0) :
    t.insertLines first count = (t, []) := if_pos hc

theorem deleteLines_of_nonpos (t : Tracker) (hc : count ≤ 0) :
    t.deleteLines first count = (t, ⟨[], []⟩) := if_pos hc

theorem insertLines_of_pos (t : Tracker) (hc : 0 < count) :
    t.insertLines first count =
      ({ t with lines :=
          t.lines.modifyAll (t.trackedLines.filter fun i => first ≤ t.line i) (· + count) },
        t.trackedLines.filter fun i => first ≤ t.line i) := if_neg (by omega)

theorem deleteLines_of_pos (t : Tracker) (hc : 0 < count) :
    t.deleteLines first count =
      let kept := t.trackedLines.filter fun i => ¬ LineGone first count (t.line i)
      let moved := kept.filter fun i => first + count ≤ t.line i
      ({ t with trackedLines := kept, lines := t.lines.modifyAll moved (· - count) },
        ⟨t.trackedLines.filter fun i => LineGone first count (t.line i), moved⟩) := by
  have hgone : ∀ l : Int, (decide (first ≤ l) && decide (l ≤ first + count - 1)) =
      decide (LineGone first count l) := by
    intro l
    rw [← Bool.decide_and]
    exact decide_eq_decide.mpr (by unfold LineGone; omega)
  have hlater : ∀ l : Int, decide (first + count - 1 < l) = decide (first + count ≤ l) :=
    fun l => decide_eq_decide.mpr (by omega)
  rw [deleteLines, if_neg (by omega)]
  simp only [hgone, hlater, decide_not]

@[simp] theorem trackedLines_insertLines :
    (t.insertLines first count).1.trackedLines = t.trackedLines := by
  unfold insertLines
  split <;> rfl

theorem line_insertLines (hn : t.trackedLines.Nodup) (hc : 0 < count) (hi : i ∈ t.trackedLines) :
    (t.insertLines first count).1.line i = lineInserted first count (t.line i) := by
  have hmoved : i ∈ t.trackedLines.filter (fun i => first ≤ t.line i) ↔ first ≤ t.line i := by
    simp [hi]
  rw [insertLines_of_pos t hc, line, Registry.get_modifyAll _ (hn.filter _)]
  simp only [hmoved]
  rfl

theorem size_insertLines : t.lines.size ≤ (t.insertLines first count).1.lines.size := by
  unfold insertLines
  split
  · exact Nat.le_refl _
  · exact Registry.size_le_size_modifyAll _ _ _

theorem mem_trackedLines_deleteLines (hc : 0 < count) :
    i ∈ (t.deleteLines first count).1.trackedLines ↔
      i ∈ t.trackedLines ∧ ¬ LineGone first count (t.line i) := by
  simp [deleteLines_of_pos t hc]

theorem mem_removed_deleteLines (hc : 0 < count) :
    i ∈ (t.deleteLines first count).2.removed ↔
      i ∈ t.trackedLines ∧ LineGone first count (t.line i) := by
  simp [deleteLines_of_pos t hc]

theorem line_deleteLines (hn : t.trackedLines.Nodup) (hc : 0 < count)
    (hi : i ∈ (t.deleteLines first count).1.trackedLines) :
    (t.deleteLines first count).1.line i = lineDeleted first count (t.line i) := by
  obtain ⟨hmem, hstay⟩ := (mem_trackedLines_deleteLines hc).mp hi
  have hmoved : i ∈ (t.trackedLines.filter fun i => ¬ LineGone first count (t.line i)).filter
      (fun i => first + count ≤ t.line i) ↔ first + count ≤ t.line i := by
    simp [hmem, hstay]
  rw [deleteLines_of_pos t hc, line, Registry.get_modifyAll _ ((hn.filter _).filter _)]
  simp only [hmoved]
  rfl

theorem size_deleteLines : t.lines.size ≤ (t.deleteLines first count).1.lines.size := by
  unfold deleteLines
  split
  · exact Nat.le_refl _
  · exact Registry.size_le_size_modifyAll _ _ _

theorem nodup_deleteLines (hn : t.trackedLines.Nodup) :
    (t.deleteLines first count).1.trackedLines.Nodup := by
  unfold deleteLines
  split
  · exact hn
  · exact hn.filter _

end Tracker

end Scriptorium
