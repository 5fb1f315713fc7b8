/-!
Lines and spans under edits: where one line number, or one stretch of characters, stands after
lines or characters were put in or taken out. These are the rules that the tracker applies to
everything it follows.
-/

namespace Scriptorium
set_option autoImplicit false

/-- A stretch of characters. Only a tracked one is known to lie inside the text. -/
structure Span where
  offset : Int
  length : Int
  deriving DecidableEq, Repr, Inhabited

namespace Span

def stop (s : Span) : Int := s.offset + s.length

def Valid (s : Span) : Prop := 0 ≤ s.offset ∧ 0 ≤ s.length

instance (s : Span) : Decidable s.Valid := by unfold Valid; infer_instance

/-- Characters put in at `start` push the span away if it begins there or later. -/
def insert (start count : Int) (s : Span) : Span :=
  if start ≤ s.offset then { s with offset := s.offset + count } else s

/-- Whether taking characters out from `start` on reaches the span. -/
def Touched (start : Int) (s : Span) : Prop := start ≤ s.offset ∨ start < s.stop

instance (start : Int) (s : Span) : Decidable (s.Touched start) := by
  unfold Touched; infer_instance

/-- What is left of the span when `count` characters are taken out from `start` on. A span that
began inside the gap begins where the gap was. -/
def delete (start count : Int) (s : Span) : Span :=
  if start + count ≤ s.offset then { s with offset := s.offset - count }
  else if start ≤ s.offset then ⟨start, max 0 (s.stop - (start + count))⟩
  else if start < s.stop then { s with length := s.length - (min s.stop (start + count) - start) }
  else s

theorem delete_of_not_touched {start count : Int} {s : Span} (hc : 0 < count)
    (h : ¬ s.Touched start) : s.delete start count = s := by
  unfold Touched at h
  unfold delete
  rw [if_neg (by omega), if_neg (by omega), if_neg (by omega)]

theorem delete_valid {start count : Int} {s : Span} (hs : 0 ≤ start)
    (h : s.Valid) : (s.delete start count).Valid := by
  obtain ⟨ho, hl⟩ := h
  unfold delete
  split
  · exact ⟨by simp only; omega, hl⟩
  · split
    · exact ⟨hs, by simp only; omega⟩
    · split
      · exact ⟨ho, by simp only [stop] at *; omega⟩
      · exact ⟨ho, hl⟩

theorem insert_valid {start count : Int} {s : Span} (hc : 0 < count) (h : s.Valid) :
    (s.insert start count).Valid := by
  obtain ⟨ho, hl⟩ := h
  unfold insert
  split
  · exact ⟨by simp only; omega, hl⟩
  · exact ⟨ho, hl⟩

end Span

end Scriptorium
