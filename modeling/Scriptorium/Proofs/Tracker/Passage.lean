import Mathlib.Data.List.Nodup
import Mathlib.Logic.Relation
import Scriptorium.Proofs.Tracker.Spans

/-!
What a span covers while text is taken out. Both ends of a span move by one rule, `placeDeleted`;
a cut of the text moves the characters by the same rule, so the span goes on covering what is
left of the characters that it covered.

Characters are told apart by the place that they had in the first text: two equal letters of a
text are not the same character.

Text that is put in and taken out again leaves a span as it was, except for one that the text was
put into: putting it in did not lengthen the span, and taking it out shortens it.
-/

namespace Scriptorium
set_option autoImplicit false

/-- Where a place between characters stands once `count` characters were taken out from `start`
on: a place inside the gap falls on the point where the gap closed. -/
def placeDeleted (start count place : Int) : Int :=
  min place start + max 0 (place - (start + count))

namespace Span
variable {s : Span} {start count : Int}

theorem offset_delete (hc : 0 ≤ count) :
    (s.delete start count).offset = placeDeleted start count s.offset := by
  unfold delete placeDeleted
  split
  · simp only
    omega
  · split
    · simp only
      omega
    · split
      · dsimp only
        omega
      · omega

theorem stop_delete (hc : 0 ≤ count) (hl : 0 ≤ s.length) :
    (s.delete start count).stop = placeDeleted start count s.stop := by
  unfold delete placeDeleted
  split
  · simp only [stop]
    omega
  · split
    · simp only [stop]
      omega
    · split
      · simp only [stop] at *
        omega
      · omega

/-- A proper span that ends within a text of `size` characters. -/
def Within (s : Span) (size : Nat) : Prop := s.Valid ∧ s.stop ≤ size

instance (s : Span) (size : Nat) : Decidable (s.Within size) := by
  unfold Within; infer_instance

/-- What the span covers of a text. -/
def passage {α : Type} (s : Span) (l : List α) : List α :=
  l.extract s.offset.toNat s.stop.toNat

end Span

/-- A text without the `count` characters from `start` on. -/
def cut {α : Type} (l : List α) (start count : Int) : List α :=
  l.take start.toNat ++ l.drop (start + count).toNat

section Cut
variable {α : Type} {l k : List α} {a b : Nat}

theorem extract_append :
    (l ++ k).extract a b = l.extract a b ++ k.extract (a - l.length) (b - l.length) := by
  simp only [List.extract_eq_take_drop, List.drop_append, List.take_append, List.length_drop]
  congr 2
  omega

theorem extract_of_length_le (h : l.length ≤ a) : l.extract a b = [] := by
  rw [List.extract_eq_take_drop, List.drop_eq_nil_of_le h, List.take_nil]

theorem extract_min_length : l.extract (min a l.length) (min b l.length) = l.extract a b := by
  rcases Nat.le_total l.length a with ha | ha
  · rw [extract_of_length_le ha, extract_of_length_le (by omega)]
  · rw [Nat.min_eq_left ha, List.extract_eq_take_drop, List.extract_eq_take_drop]
    have hlength : (l.drop a).length = l.length - a := List.length_drop
    rcases Nat.le_total l.length b with hb | hb
    · rw [Nat.min_eq_right hb, List.take_of_length_le (by omega), List.take_of_length_le (by omega)]
    · rw [Nat.min_eq_left hb]

theorem mem_of_mem_extract {x : α} (h : x ∈ l.extract a b) : x ∈ l := by
  rw [List.extract_eq_take_drop] at h
  exact List.mem_of_mem_drop (List.mem_of_mem_take h)

/-- The first text is `p ++ m ++ q`, of which `m` is cut out: a stretch of what is left is the
stretch of the first text without the characters of `m`. -/
theorem extract_closed [DecidableEq α] {p m q : List α} (hn : (p ++ (m ++ q)).Nodup) :
    (p ++ q).extract (min a p.length + (a - (p.length + m.length)))
        (min b p.length + (b - (p.length + m.length))) =
      ((p ++ (m ++ q)).extract a b).filter (· ∈ p ++ q) := by
  have hfront : p.extract (min a p.length + (a - (p.length + m.length)))
      (min b p.length + (b - (p.length + m.length))) = p.extract a b := by
    rw [← extract_min_length, ← extract_min_length (a := a)]
    congr 1 <;> omega
  have hplace : ∀ x : Nat, min x p.length + (x - (p.length + m.length)) - p.length =
      x - p.length - m.length := by
    intro x
    omega
  have hp : (p.extract a b).filter (· ∈ p ++ q) = p.extract a b := by
    apply List.filter_eq_self.2
    intro x hx
    simp [mem_of_mem_extract hx]
  have hm : (m.extract (a - p.length) (b - p.length)).filter (· ∈ p ++ q) = [] := by
    apply List.filter_eq_nil_iff.2
    intro x hx
    have hxm := mem_of_mem_extract hx
    obtain ⟨_, hmq, hpq⟩ := List.nodup_append.1 hn
    obtain ⟨_, _, hdisj⟩ := List.nodup_append.1 hmq
    simp only [List.mem_append, decide_eq_true_eq, not_or]
    constructor
    · intro hxp
      exact hpq x hxp x (List.mem_append_left q hxm) rfl
    · intro hxq
      exact hdisj x hxm x hxq rfl
  have hq : ∀ c d, (q.extract c d).filter (· ∈ p ++ q) = q.extract c d := by
    intro c d
    apply List.filter_eq_self.2
    intro x hx
    simp [mem_of_mem_extract hx]
  rw [extract_append, hfront, hplace, hplace, extract_append, extract_append, List.filter_append,
    List.filter_append, hp, hm, hq, List.nil_append]
end Cut

section Closed
variable {α : Type} {l : List α} {s : Span} {start count : Int}

theorem cut_sublist (hc : 0 ≤ count) : (cut l start count).Sublist l := by
  have hrest : (l.drop (start + count).toNat).Sublist (l.drop start.toNat) :=
    List.drop_sublist_drop_left l (by omega)
  have := (List.Sublist.refl (l.take start.toNat)).append hrest
  rwa [List.take_append_drop] at this

theorem length_cut (hs : 0 ≤ start) (hc : 0 ≤ count) (he : start + count ≤ l.length) :
    ((cut l start count).length : Int) = l.length - count := by
  rw [cut, List.length_append, List.length_take, List.length_drop]
  omega

theorem map_cut {β : Type} (f : α → β) : (cut l start count).map f = cut (l.map f) start count := by
  simp [cut, List.map_take, List.map_drop]

theorem map_passage {β : Type} (f : α → β) : (s.passage l).map f = s.passage (l.map f) := by
  simp [Span.passage, List.extract_eq_take_drop, List.map_take, List.map_drop]

theorem passage_cut [DecidableEq α] (hn : l.Nodup) (hv : s.Valid) (hs : 0 ≤ start)
    (hc : 0 ≤ count) (he : start + count ≤ l.length) :
    (s.delete start count).passage (cut l start count) =
      (s.passage l).filter (· ∈ cut l start count) := by
  have hparts : l = l.take start.toNat ++
      ((l.drop start.toNat).take count.toNat ++ l.drop (start + count).toNat) := by
    have hrest : l.drop (start + count).toNat = (l.drop start.toNat).drop count.toNat := by
      rw [List.drop_drop]
      congr 1
      omega
    rw [hrest, List.take_append_drop, List.take_append_drop]
  have hp : (l.take start.toNat).length = start.toNat := by
    rw [List.length_take]
    omega
  have hm : ((l.drop start.toNat).take count.toNat).length = count.toNat := by
    rw [List.length_take, List.length_drop]
    omega
  have hclosed := extract_closed (a := s.offset.toNat) (b := s.stop.toNat) (hparts ▸ hn)
  rw [← hparts, hp, hm] at hclosed
  have hplace : ∀ x : Int, 0 ≤ x → (placeDeleted start count x).toNat =
      min x.toNat start.toNat + (x.toNat - (start.toNat + count.toNat)) := by
    intro x hx
    unfold placeDeleted
    omega
  obtain ⟨ho, hl⟩ := hv
  have hstop : 0 ≤ s.stop := by
    unfold Span.stop
    omega
  rw [Span.passage, Span.offset_delete hc, Span.stop_delete hc hl, hplace _ ho, hplace _ hstop]
  exact hclosed

theorem within_delete (h : s.Within l.length) (hs : 0 ≤ start) (hc : 0 ≤ count)
    (he : start + count ≤ l.length) : (s.delete start count).Within (cut l start count).length := by
  obtain ⟨hv, hstop⟩ := h
  have hlen := length_cut hs hc he
  refine ⟨Span.delete_valid hs hv, ?_⟩
  rw [Span.stop_delete hc hv.2, hlen]
  unfold placeDeleted
  omega

end Closed

theorem eq_filterMap {α β : Type} {l : List α} {k : List β} {f : β → Option α}
    (h : l.map some = k.map f) : l = k.filterMap f := by
  have hl : (l.map some).filterMap id = l := by simp [List.filterMap_map]
  rw [← hl, h, List.filterMap_map]
  rfl

/-- A tracker that follows the two spans. -/
def Tracker.following (a b : Span) : Tracker :=
  { empty with spans := ⟨[a, b]⟩, trackedSpans := [0, 1] }

/-- A text while stretches of it are deleted: what is left of it, the place that each character
had in the first text, and the tracker, which is told of every deletion. -/
structure Manuscript (α : Type) where
  text : List α
  origins : List Nat
  tracker : Tracker
  deriving DecidableEq

namespace Manuscript
variable {α : Type} {text : List α} {t : Tracker} {x y : Manuscript α}

def begun (text : List α) (t : Tracker) : Manuscript α :=
  ⟨text, List.range text.length, t⟩

def delete (x : Manuscript α) (start count : Int) : Manuscript α :=
  ⟨cut x.text start count, cut x.origins start count,
    (x.tracker.deleteCharacters start count).1⟩

/-- One deletion, inside the text as it then is. -/
def Deletion (x y : Manuscript α) : Prop :=
  ∃ start count : Int, 0 ≤ start ∧ 0 ≤ count ∧ start + count ≤ x.text.length ∧
    y = x.delete start count

/-- What holds of a manuscript that began as `text` with the spans that `t` follows. -/
structure Kept (text : List α) (t : Tracker) (x : Manuscript α) : Prop where
  tracked : x.tracker.trackedSpans = t.trackedSpans
  origins : x.origins.Sublist (List.range text.length)
  letters : x.text.map some = x.origins.map (text[·]?)
  within : ∀ i ∈ t.trackedSpans, (x.tracker.span i).Within x.text.length
  passage : ∀ i ∈ t.trackedSpans, (x.tracker.span i).passage x.origins =
    ((t.span i).passage (List.range text.length)).filter (· ∈ x.origins)

theorem Kept.begun (hw : ∀ i ∈ t.trackedSpans, (t.span i).Within text.length) :
    Kept text t (begun text t) where
  tracked := rfl
  origins := List.Sublist.refl _
  letters := by
    apply List.ext_getElem
    · simp [Manuscript.begun]
    · intro n h₁ h₂
      simp [Manuscript.begun]
  within := hw
  passage := by
    intro i _
    symm
    apply List.filter_eq_self.2
    intro n hn
    simpa [Manuscript.begun] using mem_of_mem_extract hn

theorem Kept.step (hn : t.trackedSpans.Nodup) (h : Kept text t x) (hd : Deletion x y) :
    Kept text t y := by
  obtain ⟨start, count, hs, hc, he, rfl⟩ := hd
  have hlen : x.text.length = x.origins.length := by
    simpa using congrArg List.length h.letters
  have hno : x.origins.Nodup := h.origins.nodup List.nodup_range
  have hspan : ∀ i ∈ t.trackedSpans, (x.delete start count).tracker.span i =
      (x.tracker.span i).delete start count := by
    intro i hi
    have hi' : i ∈ x.tracker.trackedSpans := h.tracked ▸ hi
    exact Tracker.span_deleteCharacters_of_nonneg (h.tracked ▸ hn) hc hi'
  constructor
  · rw [← h.tracked]
    exact Tracker.trackedSpans_deleteCharacters
  · exact (cut_sublist hc).trans h.origins
  · change (cut x.text start count).map some = (cut x.origins start count).map (text[·]?)
    rw [map_cut, map_cut, h.letters]
  · intro i hi
    rw [hspan i hi]
    exact within_delete (h.within i hi) hs hc he
  · intro i hi
    rw [hspan i hi, delete, passage_cut hno (h.within i hi).1 hs hc (hlen ▸ he), h.passage i hi,
      List.filter_filter]
    apply List.filter_congr
    intro n _
    by_cases hleft : n ∈ cut x.origins start count
    · simp [hleft, (cut_sublist hc).subset hleft]
    · simp [hleft]

theorem Kept.run (hn : t.trackedSpans.Nodup)
    (hw : ∀ i ∈ t.trackedSpans, (t.span i).Within text.length)
    (hrun : Relation.ReflTransGen Deletion (Manuscript.begun text t) x) : Kept text t x := by
  induction hrun with
  | refl => exact Kept.begun hw
  | tail _ hstep ih => exact ih.step hn hstep

/-- Whatever is deleted of a text, every span that was followed from the beginning stays within
the text and covers the characters of its first passage that were not deleted, in their order. -/
theorem passages_survive (hn : t.trackedSpans.Nodup)
    (hw : ∀ i ∈ t.trackedSpans, (t.span i).Within text.length)
    (hrun : Relation.ReflTransGen Deletion (begun text t) x) :
    x.tracker.trackedSpans = t.trackedSpans ∧
    x.text = x.origins.filterMap (text[·]?) ∧
    ∀ i ∈ t.trackedSpans, (x.tracker.span i).Within x.text.length ∧
      (x.tracker.span i).passage x.text =
        (((t.span i).passage (List.range text.length)).filter (· ∈ x.origins)).filterMap
          (text[·]?) := by
  have h := Kept.run hn hw hrun
  refine ⟨h.tracked, eq_filterMap h.letters, ?_⟩
  intro i hi
  refine ⟨h.within i hi, ?_⟩
  rw [← h.passage i hi]
  apply eq_filterMap
  rw [map_passage, map_passage, h.letters]

theorem passages_survive_twice :
    let first := begun ['l', 'e', 't', 't', 'e', 'r'] (.following ⟨1, 4⟩ ⟨3, 0⟩)
    let x := (first.delete 2 2).delete 0 1
    x.text = ['e', 'e', 'r'] ∧ (x.tracker.span 0).passage x.text = ['e', 'e'] ∧
      (x.tracker.span 1).passage x.text = [] := by
  intro first x
  have hrun : Relation.ReflTransGen Deletion first x :=
    .tail (.tail .refl ⟨2, 2, by decide, by decide, by decide, rfl⟩)
      ⟨0, 1, by decide, by decide, by decide, rfl⟩
  obtain ⟨_, htext, hspans⟩ := passages_survive (by decide) (by decide) hrun
  refine ⟨htext.trans (by decide), ?_, ?_⟩
  · exact (hspans 0 (by decide)).2.trans (by decide)
  · exact (hspans 1 (by decide)).2.trans (by decide)

end Manuscript

section Retyped
variable {s : Span} {t : Tracker} {start count : Int}

/-- Whether the point lies inside the span, at neither of its ends. -/
def Span.Around (s : Span) (start : Int) : Prop := s.offset < start ∧ start < s.stop

instance : Decidable (s.Around start) := by unfold Span.Around; infer_instance

theorem Span.delete_insert_of_around (h : s.Around start) (hc : 0 < count) :
    (s.insert start count).delete start count =
      { s with length := s.length - min count (s.stop - start) } := by
  obtain ⟨ho, hstop⟩ := h
  have hmin : min s.stop (start + count) - start = min count (s.stop - start) := by omega
  rw [insert, if_neg (by omega), delete, if_neg (by omega), if_neg (by omega), if_pos hstop, hmin]

theorem Span.delete_insert_of_not_around (h : ¬ s.Around start) (hc : 0 < count) :
    (s.insert start count).delete start count = s := by
  unfold Around at h
  by_cases ho : start ≤ s.offset
  · rw [insert, if_pos ho, delete, if_pos (by dsimp only; omega)]
    simp
  · have htouched : ¬ s.Touched start := by
      unfold Touched
      omega
    rw [insert, if_neg ho, delete_of_not_touched hc htouched]

theorem Tracker.span_retyped (hn : t.trackedSpans.Nodup) (hc : 0 < count) {i : SpanId}
    (hi : i ∈ t.trackedSpans) :
    (((t.insertCharacters start count).1).deleteCharacters start count).1.span i =
      ((t.span i).insert start count).delete start count := by
  rw [span_deleteCharacters _ hc, span_insertCharacters hn hc hi]
  · rw [trackedSpans_insertCharacters]
    exact hi
  · rw [trackedSpans_insertCharacters]
    exact hn

/-- Text put in and taken out again at one place: the same spans are tracked, in the same order;
each begins where it began, and it is as long as before unless the place lay inside it. -/
theorem Tracker.retyped (hn : t.trackedSpans.Nodup) (hv : ∀ i ∈ t.trackedSpans, (t.span i).Valid)
    (hs : 0 ≤ start) (hc : 1 ≤ count) :
    let u := (((t.insertCharacters start count).1).deleteCharacters start count).1
    u.trackedSpans = t.trackedSpans ∧
    ∀ i ∈ t.trackedSpans,
      (u.span i).Valid ∧ (u.span i).offset = (t.span i).offset ∧
      (u.span i).length = (if (t.span i).Around start then
        (t.span i).length - min count ((t.span i).stop - start) else (t.span i).length) ∧
      (u.span i = t.span i ↔ ¬ (t.span i).Around start) := by
  intro u
  have htracked : u.trackedSpans = t.trackedSpans := by
    rw [trackedSpans_deleteCharacters, trackedSpans_insertCharacters]
  refine ⟨htracked, ?_⟩
  intro i hi
  have hspan : u.span i = ((t.span i).insert start count).delete start count :=
    span_retyped hn hc hi
  have hvalid : (u.span i).Valid := by
    rw [hspan]
    exact Span.delete_valid hs (Span.insert_valid hc (hv i hi))
  refine ⟨hvalid, ?_⟩
  by_cases h : (t.span i).Around start
  · rw [hspan, Span.delete_insert_of_around h hc, if_pos h]
    refine ⟨rfl, rfl, ?_⟩
    have hlost : 0 < min count ((t.span i).stop - start) := by
      have := h.2
      omega
    constructor
    · intro heq
      have := congrArg Span.length heq
      dsimp only at this
      omega
    · intro hnot
      exact absurd h hnot
  · rw [hspan, Span.delete_insert_of_not_around h hc, if_neg h]
    exact ⟨rfl, rfl, ⟨fun _ => h, fun _ => rfl⟩⟩

theorem Tracker.retyped_twice :
    let u := ((((following ⟨0, 4⟩ ⟨2, 3⟩).insertCharacters 2 1).1).deleteCharacters 2 1).1
    u.trackedSpans = [0, 1] ∧ (u.span 0).length = 3 ∧ u.span 1 = ⟨2, 3⟩ := by
  intro u
  obtain ⟨htracked, hspans⟩ := @retyped (following ⟨0, 4⟩ ⟨2, 3⟩) 2 1 (by decide) (by decide)
    (by decide) (by decide)
  refine ⟨htracked, ?_, ?_⟩
  · exact (hspans 0 (by decide)).2.2.1
  · exact (hspans 1 (by decide)).2.2.2.mpr (by decide)

theorem Tracker.not_restored_inside :
    ¬ ∀ (t : Tracker) (start count : Int), t.trackedSpans.Nodup →
      (∀ i ∈ t.trackedSpans, (t.span i).Valid) → 0 ≤ start → 1 ≤ count →
      ∀ i ∈ t.trackedSpans, ((t.insertCharacters start count).1.deleteCharacters start count).1.span
        i = t.span i := by
  intro h
  have := h (following ⟨0, 4⟩ ⟨2, 3⟩) 2 1 (by decide) (by decide) (by decide) (by decide) 0
    (by decide)
  exact absurd this (by decide)

end Retyped

end Scriptorium
