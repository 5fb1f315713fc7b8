import Scriptorium.Proofs.Tracker.Listed
import Scriptorium.Proofs.Tracker.Passage

/-!
Edits in parts. All that an edit does to the anchors is told by what it does to one line number and
to one span, and the same holds of edits that follow one another (`follows_edits`). So an edit may
be split wherever it may be split for a single place: text that is put in, before or behind the
part that is there already; text that is taken out, from the front or from the back.
-/

namespace Scriptorium
set_option autoImplicit false

/-- Where a line stands once `count` lines were taken out from line `first` on, unless it is one of
them. -/
def lineTaken? (first count line : Int) : Option Int :=
  if LineGone first count line then none else some (lineDeleted first count line)

section Places
variable {place a b l x : Int} {s : Span}

theorem lineInserted_before (ha : 0 ≤ a) :
    lineInserted place b (lineInserted place a l) = lineInserted place (a + b) l := by
  unfold lineInserted
  split
  · rw [if_pos (by omega), Int.add_assoc]
  · rfl

theorem lineInserted_behind (ha : 0 ≤ a) :
    lineInserted (place + a) b (lineInserted place a l) = lineInserted place (a + b) l := by
  unfold lineInserted
  split
  · rw [if_pos (by omega), Int.add_assoc]
  · rw [if_neg (by omega)]

theorem lineTaken?_eq_none (h : LineGone place a l) : lineTaken? place a l = none := if_pos h

theorem lineTaken?_of_lt (ha : 0 ≤ a) (h : l < place) : lineTaken? place a l = some l := by
  have hstays : ¬ LineGone place a l := fun hgone => Int.not_le.mpr h hgone.1
  rw [lineTaken?, if_neg hstays, lineDeleted, if_neg (by omega)]

theorem lineTaken?_of_le (h : place + a ≤ l) : lineTaken? place a l = some (l - a) := by
  have hstays : ¬ LineGone place a l := fun hgone => Int.not_lt.mpr h hgone.2
  rw [lineTaken?, if_neg hstays, lineDeleted, if_pos h]

theorem lineTaken?_zero : lineTaken? place 0 l = some l := by
  rcases Int.lt_or_le l place with hl | hl
  · exact lineTaken?_of_lt (Int.le_refl 0) hl
  · rw [lineTaken?_of_le (by omega), Int.sub_zero]

theorem lineTaken?_front (ha : 0 ≤ a) (hb : 0 ≤ b) :
    (lineTaken? place a l).bind (lineTaken? place b) = lineTaken? place (a + b) l := by
  rcases Int.lt_or_le l place with hl | hl
  · rw [lineTaken?_of_lt ha hl, lineTaken?_of_lt (by omega) hl]
    exact lineTaken?_of_lt hb hl
  · by_cases hfront : l < place + a
    · rw [lineTaken?_eq_none ⟨hl, hfront⟩, lineTaken?_eq_none ⟨hl, by omega⟩]
      rfl
    · rw [lineTaken?_of_le (Int.not_lt.mp hfront), Option.bind_some]
      by_cases hback : l < place + (a + b)
      · rw [lineTaken?_eq_none ⟨by omega, by omega⟩, lineTaken?_eq_none ⟨hl, hback⟩]
      · rw [lineTaken?_of_le (by omega), lineTaken?_of_le (Int.not_lt.mp hback), Int.sub_sub]

theorem lineTaken?_back (ha : 0 ≤ a) (hb : 0 ≤ b) :
    (lineTaken? (place + a) b l).bind (lineTaken? place a) = lineTaken? place (a + b) l := by
  rcases Int.lt_or_le l (place + a) with hl | hl
  · rw [lineTaken?_of_lt hb hl, Option.bind_some]
    by_cases hfront : l < place
    · rw [lineTaken?_of_lt ha hfront, lineTaken?_of_lt (by omega) hfront]
    · have hge := Int.not_lt.mp hfront
      rw [lineTaken?_eq_none ⟨hge, hl⟩, lineTaken?_eq_none ⟨hge, by omega⟩]
  · by_cases hback : l < place + a + b
    · rw [lineTaken?_eq_none ⟨hl, hback⟩, lineTaken?_eq_none ⟨by omega, by omega⟩]
      rfl
    · rw [lineTaken?_of_le (Int.not_lt.mp hback), Option.bind_some, lineTaken?_of_le (by omega),
        lineTaken?_of_le (by omega)]
      congr 1
      omega

theorem placeDeleted_front (ha : 0 ≤ a) (hb : 0 ≤ b) :
    placeDeleted place b (placeDeleted place a x) = placeDeleted place (a + b) x := by
  unfold placeDeleted
  omega

theorem placeDeleted_back (ha : 0 ≤ a) (hb : 0 ≤ b) :
    placeDeleted place a (placeDeleted (place + a) b x) = placeDeleted place (a + b) x := by
  unfold placeDeleted
  omega

namespace Span

theorem eq_of_ends {u : Span} (ho : s.offset = u.offset) (hs : s.stop = u.stop) : s = u := by
  obtain ⟨_, _⟩ := s
  obtain ⟨_, _⟩ := u
  simp only [stop, Span.mk.injEq] at *
  omega

theorem length_delete (hc : 0 ≤ a) (h : 0 ≤ s.length) : 0 ≤ (s.delete place a).length := by
  have ho : (s.delete place a).offset = placeDeleted place a s.offset := offset_delete hc
  have hs : (s.delete place a).stop = placeDeleted place a s.stop := stop_delete hc h
  unfold placeDeleted at ho hs
  unfold stop at hs
  omega

theorem insert_zero : s.insert place 0 = s := by
  unfold insert
  split <;> simp

theorem insert_before (ha : 0 ≤ a) :
    (s.insert place a).insert place b = s.insert place (a + b) := by
  unfold insert
  split
  · rw [if_pos (by dsimp only; omega)]
    simp only [Int.add_assoc]
  · rfl

theorem insert_behind (ha : 0 ≤ a) :
    (s.insert place a).insert (place + a) b = s.insert place (a + b) := by
  unfold insert
  split
  · rw [if_pos (by dsimp only; omega)]
    simp only [Int.add_assoc]
  · rw [if_neg (by omega)]

theorem delete_front (ha : 0 ≤ a) (hb : 0 ≤ b) (h : 0 ≤ s.length) :
    (s.delete place a).delete place b = s.delete place (a + b) := by
  have hab : 0 ≤ a + b := by omega
  apply eq_of_ends
  · rw [offset_delete hb, offset_delete ha, offset_delete hab, placeDeleted_front ha hb]
  · rw [stop_delete hb (length_delete ha h), stop_delete ha h, stop_delete hab h,
      placeDeleted_front ha hb]

theorem delete_back (ha : 0 ≤ a) (hb : 0 ≤ b) (h : 0 ≤ s.length) :
    (s.delete (place + a) b).delete place a = s.delete place (a + b) := by
  have hab : 0 ≤ a + b := by omega
  apply eq_of_ends
  · rw [offset_delete ha, offset_delete hb, offset_delete hab, placeDeleted_back ha hb]
  · rw [stop_delete ha (length_delete hb h), stop_delete hb h, stop_delete hab h,
      placeDeleted_back ha hb]

end Span

end Places

namespace Tracker

inductive Axis where
  | lines
  | characters
  deriving DecidableEq, Repr

/-- `count` lines or characters put in at `place`, or taken out from there on. -/
inductive Edit where
  | put (axis : Axis) (place : Int) (count : Nat)
  | take (axis : Axis) (place : Int) (count : Nat)
  deriving DecidableEq, Repr

namespace Edit

/-- Where a line stands after the edit, unless it is gone. -/
def line? : Edit → Int → Option Int
  | put .lines place count => fun l => some (lineInserted place count l)
  | take .lines place count => lineTaken? place count
  | put .characters _ _ => some
  | take .characters _ _ => some

def span : Edit → Span → Span
  | put .characters place count => Span.insert place count
  | take .characters place count => Span.delete place count
  | put .lines _ _ => id
  | take .lines _ _ => id

/-- Where a line stands after all of the edits, one after the other. -/
def lineAfter? : List Edit → Int → Option Int
  | [], l => some l
  | e :: es, l => (e.line? l).bind (lineAfter? es)

def spanAfter : List Edit → Span → Span
  | [], s => s
  | e :: es, s => spanAfter es (e.span s)

/-- The first edit is the other two, one after the other. -/
inductive Splits : Edit → Edit → Edit → Prop where
  | before (axis : Axis) (place : Int) (a b : Nat) :
      Splits (put axis place (a + b)) (put axis place a) (put axis place b)
  | behind (axis : Axis) (place : Int) (a b : Nat) :
      Splits (put axis place (a + b)) (put axis place a) (put axis (place + a) b)
  | front (axis : Axis) (place : Int) (a b : Nat) :
      Splits (take axis place (a + b)) (take axis place a) (take axis place b)
  | back (axis : Axis) (place : Int) (a b : Nat) :
      Splits (take axis place (a + b)) (take axis (place + a) b) (take axis place a)

/-- An edit and a list of its parts, in the order in which they are made. -/
inductive Parts : Edit → List Edit → Prop where
  | whole (e : Edit) : Parts e [e]
  | put_nothing (axis : Axis) (place : Int) : Parts (put axis place 0) []
  | take_nothing (axis : Axis) (place : Int) : Parts (take axis place 0) []
  | split {e e₁ e₂ : Edit} {l₁ l₂ : List Edit} (h : Splits e e₁ e₂) (h₁ : Parts e₁ l₁)
      (h₂ : Parts e₂ l₂) : Parts e (l₁ ++ l₂)

section
variable {e e₁ e₂ : Edit} {es fs : List Edit} {l : Int} {s : Span}

theorem lineAfter?_append : lineAfter? (es ++ fs) l = (lineAfter? es l).bind (lineAfter? fs) := by
  induction es generalizing l with
  | nil => rfl
  | cons e es ih =>
    rw [lineAfter?, Option.bind_assoc]
    exact Option.bind_congr fun _ _ => ih

theorem spanAfter_append : spanAfter (es ++ fs) s = spanAfter fs (spanAfter es s) := by
  induction es generalizing s with
  | nil => rfl
  | cons e es ih => exact ih

theorem length_span (h : 0 ≤ s.length) : 0 ≤ (e.span s).length := by
  cases e with
  | put axis place count =>
    cases axis with
    | lines => exact h
    | characters =>
      change 0 ≤ (Span.insert place count s).length
      unfold Span.insert
      split <;> exact h
  | take axis place count =>
    cases axis with
    | lines => exact h
    | characters => exact Span.length_delete (Int.natCast_nonneg count) h

theorem Splits.line? (h : Splits e e₁ e₂) : (e₁.line? l).bind e₂.line? = e.line? l := by
  cases h with
  | before axis place a b =>
    cases axis with
    | lines => exact congrArg some (lineInserted_before (Int.natCast_nonneg a))
    | characters => rfl
  | behind axis place a b =>
    cases axis with
    | lines => exact congrArg some (lineInserted_behind (Int.natCast_nonneg a))
    | characters => rfl
  | front axis place a b =>
    cases axis with
    | lines => exact lineTaken?_front (Int.natCast_nonneg a) (Int.natCast_nonneg b)
    | characters => rfl
  | back axis place a b =>
    cases axis with
    | lines => exact lineTaken?_back (Int.natCast_nonneg a) (Int.natCast_nonneg b)
    | characters => rfl

theorem Splits.span (h : Splits e e₁ e₂) (hs : 0 ≤ s.length) : e₂.span (e₁.span s) = e.span s := by
  cases h with
  | before axis place a b =>
    cases axis with
    | lines => rfl
    | characters => exact Span.insert_before (Int.natCast_nonneg a)
  | behind axis place a b =>
    cases axis with
    | lines => rfl
    | characters => exact Span.insert_behind (Int.natCast_nonneg a)
  | front axis place a b =>
    cases axis with
    | lines => rfl
    | characters => exact Span.delete_front (Int.natCast_nonneg a) (Int.natCast_nonneg b) hs
  | back axis place a b =>
    cases axis with
    | lines => rfl
    | characters => exact Span.delete_back (Int.natCast_nonneg a) (Int.natCast_nonneg b) hs

theorem Parts.lineAfter? (h : Parts e es) : Edit.lineAfter? es l = e.line? l := by
  induction h generalizing l with
  | whole e => exact Option.bind_fun_some (e.line? l)
  | put_nothing axis place =>
    cases axis with
    | lines => simp [Edit.lineAfter?, Edit.line?, lineInserted]
    | characters => rfl
  | take_nothing axis place =>
    cases axis with
    | lines => exact (lineTaken?_zero).symm
    | characters => rfl
  | split hsplit _ _ ih₁ ih₂ =>
    rw [lineAfter?_append, ih₁, ← hsplit.line?]
    exact Option.bind_congr fun _ _ => ih₂

theorem Parts.spanAfter (h : Parts e es) (hs : 0 ≤ s.length) :
    Edit.spanAfter es s = e.span s := by
  induction h generalizing s with
  | whole e => rfl
  | put_nothing axis place =>
    cases axis with
    | lines => rfl
    | characters => exact Span.insert_zero.symm
  | take_nothing axis place =>
    cases axis with
    | lines => rfl
    | characters => exact Span.delete_zero.symm
  | split hsplit _ _ ih₁ ih₂ =>
    rw [spanAfter_append, ih₁ hs, ih₂ (length_span hs), hsplit.span hs]

end

end Edit

/-- The tracker after an edit, with the line anchors that the edit took away. -/
def edit (t : Tracker) : Edit → Tracker × List LineId
  | .put .lines place count => ((t.insertLines place count).1, [])
  | .put .characters place count => ((t.insertCharacters place count).1, [])
  | .take .lines place count =>
    ((t.deleteLines place count).1, (t.deleteLines place count).2.removed)
  | .take .characters place count => ((t.deleteCharacters place count).1, [])

/-- One edit after the other; the line anchors are those that any of them took away. -/
def edits (t : Tracker) : List Edit → Tracker × List LineId
  | [] => (t, [])
  | e :: es => (((t.edit e).1.edits es).1, (t.edit e).2 ++ ((t.edit e).1.edits es).2)

/-- The tracker has become what it becomes when every line goes by `line` and every span by
`span`. -/
structure Follows (t : Tracker) (line : Int → Option Int) (span : Span → Span)
    (x : Tracker × List LineId) : Prop where
  trackedLines : x.1.trackedLines = t.trackedLines.filter fun i => (line (t.line i)).isSome
  trackedSpans : x.1.trackedSpans = t.trackedSpans
  removed : x.2.Perm (t.trackedLines.filter fun i => (line (t.line i)).isNone)
  line : ∀ i ∈ t.trackedLines, ∀ l, line (t.line i) = some l → x.1.line i = l
  span : ∀ i ∈ t.trackedSpans, x.1.span i = span (t.span i)
  otherLine : ∀ i ∉ t.trackedLines, x.1.line i = t.line i
  otherSpan : ∀ i ∉ t.trackedSpans, x.1.span i = t.span i

/-- Two courses of edits come to the same: the same anchors are tracked, in the same order, the
same line anchors were taken away, and wherever a line was not taken away, or for a span, the place
is the same. -/
structure SameOutcome (x y : Tracker × List LineId) : Prop where
  trackedLines : x.1.trackedLines = y.1.trackedLines
  trackedSpans : x.1.trackedSpans = y.1.trackedSpans
  removed : x.2.Perm y.2
  line : ∀ i ∉ x.2, x.1.line i = y.1.line i
  span : ∀ i, x.1.span i = y.1.span i

section
variable {t u : Tracker} {f f' : Int → Option Int} {g g' : Span → Span} {r r' : List LineId}
  {x y : Tracker × List LineId} {e : Edit} {es : List Edit}

theorem Follows.refl (t : Tracker) : Follows t some id (t, []) where
  trackedLines := by simp
  trackedSpans := rfl
  removed := by simp
  line := fun _ _ _ h => Option.some.inj h
  span := fun _ _ => rfl
  otherLine := fun _ _ => rfl
  otherSpan := fun _ _ => rfl

theorem Follows.trans (h : Follows t f g x) (h' : Follows x.1 f' g' y) :
    Follows t (fun l => (f l).bind f') (fun s => g' (g s)) (y.1, x.2 ++ y.2) := by
  have hline : ∀ i ∈ t.trackedLines, (f (t.line i)).isSome →
      (f (t.line i)).bind f' = f' (x.1.line i) := by
    intro i hi hstays
    obtain ⟨l, hl⟩ := Option.isSome_iff_exists.mp hstays
    rw [hl, h.line i hi l hl, Option.bind_some]
  constructor
  · rw [h'.trackedLines, h.trackedLines, List.filter_filter]
    apply List.filter_congr
    intro i hi
    by_cases hstays : (f (t.line i)).isSome
    · simp [hstays, hline i hi hstays]
    · simp_all
  · rw [h'.trackedSpans, h.trackedSpans]
  · -- those that are gone in the end, divided by whether they went in the first course
    let gone := t.trackedLines.filter fun i => ((f (t.line i)).bind f').isNone
    have hfirst : x.2.Perm (gone.filter fun i => (f (t.line i)).isNone) := by
      rw [List.filter_filter]
      refine h.removed.trans (.of_eq (List.filter_congr fun i _ => ?_))
      cases f (t.line i) <;> rfl
    have hsecond : y.2.Perm (gone.filter fun i => !(f (t.line i)).isNone) := by
      refine h'.removed.trans (.of_eq ?_)
      rw [h.trackedLines, List.filter_filter, List.filter_filter]
      apply List.filter_congr
      intro i hi
      by_cases hstays : (f (t.line i)).isSome
      · simp [hstays, hline i hi hstays, Bool.and_comm]
      · simp_all
    exact (hfirst.append hsecond).trans (List.filter_append_perm _ _)
  · intro i hi l hl
    obtain ⟨k, hk, hkl⟩ := Option.bind_eq_some_iff.mp hl
    have hx := h.line i hi k hk
    apply h'.line i _ l (hx ▸ hkl)
    rw [h.trackedLines]
    exact List.mem_filter.mpr ⟨hi, by rw [hk]; rfl⟩
  · intro i hi
    rw [h'.span i (h.trackedSpans ▸ hi), h.span i hi]
  · intro i hi
    have hx : i ∉ x.1.trackedLines := by
      rw [h.trackedLines]
      exact fun hmem => hi (List.mem_filter.mp hmem).1
    rw [h'.otherLine i hx, h.otherLine i hi]
  · intro i hi
    rw [h'.otherSpan i (h.trackedSpans ▸ hi), h.otherSpan i hi]

theorem Follows.idle (hf : ∀ l, f l = some l) (hg : ∀ s, g s = s) : Follows t f g (t, []) := by
  rw [show f = some from funext hf, show g = id from funext hg]
  exact Follows.refl t

theorem get_modifyAll_of_not_mem {α : Type} [Inhabited α] (r : Registry α) {is : List Nat}
    (hn : is.Nodup) (p : Nat → Bool) (f : α → α) {i : Nat} (hi : i ∉ is) :
    (r.modifyAll (is.filter p) f).get i = r.get i := by
  rw [Registry.get_modifyAll _ (hn.filter _), if_neg fun h => hi (List.mem_filter.mp h).1]

theorem follows_insertLines (hn : t.trackedLines.Nodup) (place : Int) (count : Nat) :
    Follows t (Edit.put .lines place count).line? (Edit.put .lines place count).span
      ((t.insertLines place count).1, []) := by
  rcases Nat.eq_zero_or_pos count with rfl | hpos
  · have hidle : t.insertLines place 0 = (t, []) := insertLines_of_nonpos t (Int.le_refl 0)
    rw [Int.ofNat_zero, hidle]
    exact Follows.idle (fun _ => (Edit.Parts.put_nothing .lines place).lineAfter?.symm) fun _ => rfl
  · have hc : (0 : Int) < count := by omega
    constructor
    · simp [Edit.line?]
    · exact trackedSpans_insertLines
    · simp [Edit.line?]
    · intro i hi l hl
      rw [line_insertLines hn hc hi]
      exact Option.some.inj hl
    · exact fun _ _ => span_insertLines
    · intro i hi
      rw [insertLines_of_pos t hc]
      exact get_modifyAll_of_not_mem t.lines hn _ _ hi
    · exact fun _ _ => span_insertLines

theorem follows_deleteLines (hn : t.trackedLines.Nodup) (place : Int) (count : Nat) :
    Follows t (Edit.take .lines place count).line? (Edit.take .lines place count).span
      ((t.deleteLines place count).1, (t.deleteLines place count).2.removed) := by
  rcases Nat.eq_zero_or_pos count with rfl | hpos
  · have hidle : t.deleteLines place 0 = (t, ⟨[], []⟩) := deleteLines_of_nonpos t (Int.le_refl 0)
    rw [Int.ofNat_zero, hidle]
    exact Follows.idle (fun _ => lineTaken?_zero) fun _ => rfl
  · have hc : (0 : Int) < count := by omega
    have hnone : ∀ l, (lineTaken? place count l).isNone = decide (LineGone place count l) := by
      intro l
      unfold lineTaken?
      split <;> simp_all
    constructor
    · rw [deleteLines_of_pos t hc]
      apply List.filter_congr
      intro i _
      rw [decide_not, ← hnone, Option.not_isNone]
      rfl
    · exact trackedSpans_deleteLines
    · refine .of_eq ?_
      rw [deleteLines_of_pos t hc]
      exact List.filter_congr fun i _ => (hnone _).symm
    · intro i hi l hl
      by_cases hgone : LineGone place count (t.line i)
      · cases (lineTaken?_eq_none hgone).symm.trans hl
      · rw [line_deleteLines hn hc ((mem_trackedLines_deleteLines hc).mpr ⟨hi, hgone⟩)]
        exact Option.some.inj ((if_neg hgone).symm.trans hl)
    · exact fun _ _ => span_deleteLines
    · intro i hi
      rw [deleteLines_of_pos t hc]
      refine get_modifyAll_of_not_mem t.lines (hn.filter _) _ _ ?_
      exact fun hmem => hi (List.mem_filter.mp hmem).1
    · exact fun _ _ => span_deleteLines

theorem follows_insertCharacters (hn : t.trackedSpans.Nodup) (place : Int) (count : Nat) :
    Follows t (Edit.put .characters place count).line? (Edit.put .characters place count).span
      ((t.insertCharacters place count).1, []) := by
  rcases Nat.eq_zero_or_pos count with rfl | hpos
  · exact Follows.idle (fun _ => rfl) fun _ => Span.insert_zero
  · have hc : (0 : Int) < count := by omega
    constructor
    · rw [insertCharacters, if_neg (Int.not_le.mpr hc)]
      simp [Edit.line?]
    · exact trackedSpans_insertCharacters
    · simp [Edit.line?]
    · exact fun i _ l hl => line_insertCharacters.trans (Option.some.inj hl)
    · exact fun i hi => span_insertCharacters hn hc hi
    · exact fun _ _ => line_insertCharacters
    · intro i hi
      rw [insertCharacters, if_neg (Int.not_le.mpr hc)]
      exact get_modifyAll_of_not_mem t.spans hn _ _ hi

theorem follows_deleteCharacters (hn : t.trackedSpans.Nodup) (place : Int) (count : Nat) :
    Follows t (Edit.take .characters place count).line? (Edit.take .characters place count).span
      ((t.deleteCharacters place count).1, []) := by
  rcases Nat.eq_zero_or_pos count with rfl | hpos
  · exact Follows.idle (fun _ => rfl) fun _ => Span.delete_zero
  · have hc : (0 : Int) < count := by omega
    constructor
    · rw [deleteCharacters, if_neg (Int.not_le.mpr hc)]
      simp [Edit.line?]
    · exact trackedSpans_deleteCharacters
    · simp [Edit.line?]
    · exact fun i _ l hl => line_deleteCharacters.trans (Option.some.inj hl)
    · exact fun i hi => span_deleteCharacters hn hc hi
    · exact fun _ _ => line_deleteCharacters
    · exact fun i hi => Sound.span_deleteCharacters_of_not_mem hn hi

theorem follows_edit (hl : t.trackedLines.Nodup) (hs : t.trackedSpans.Nodup) (e : Edit) :
    Follows t e.line? e.span (t.edit e) := by
  cases e with
  | put axis place count =>
    cases axis with
    | lines => exact follows_insertLines hl place count
    | characters => exact follows_insertCharacters hs place count
  | take axis place count =>
    cases axis with
    | lines => exact follows_deleteLines hl place count
    | characters => exact follows_deleteCharacters hs place count

theorem follows_edits (hl : t.trackedLines.Nodup) (hs : t.trackedSpans.Nodup) (es : List Edit) :
    Follows t (Edit.lineAfter? es) (Edit.spanAfter es) (t.edits es) := by
  induction es generalizing t with
  | nil => exact Follows.refl t
  | cons e es ih =>
    have hfirst := follows_edit hl hs e
    have hrest := ih (hfirst.trackedLines ▸ hl.filter _) (hfirst.trackedSpans ▸ hs)
    exact hfirst.trans hrest

theorem SameOutcome.of_follows (hx : Follows t f g x) (hy : Follows t f' g' y)
    (hf : ∀ i ∈ t.trackedLines, f (t.line i) = f' (t.line i))
    (hg : ∀ i ∈ t.trackedSpans, g (t.span i) = g' (t.span i)) : SameOutcome x y := by
  constructor
  · rw [hx.trackedLines, hy.trackedLines]
    exact List.filter_congr fun i hi => by rw [hf i hi]
  · rw [hx.trackedSpans, hy.trackedSpans]
  · refine hx.removed.trans (.trans (.of_eq ?_) hy.removed.symm)
    exact List.filter_congr fun i hi => by rw [hf i hi]
  · intro i hi
    by_cases htracked : i ∈ t.trackedLines
    · have hstays : f (t.line i) ≠ none := by
        intro hnone
        apply hi
        rw [hx.removed.mem_iff]
        exact List.mem_filter.mpr ⟨htracked, Option.isNone_iff_eq_none.mpr hnone⟩
      obtain ⟨l, hl⟩ := Option.ne_none_iff_exists'.mp hstays
      rw [hx.line i htracked l hl, hy.line i htracked l (hf i htracked ▸ hl)]
    · rw [hx.otherLine i htracked, hy.otherLine i htracked]
  · intro i
    by_cases htracked : i ∈ t.trackedSpans
    · rw [hx.span i htracked, hy.span i htracked, hg i htracked]
    · rw [hx.otherSpan i htracked, hy.otherSpan i htracked]

/-- An edit may be made in any parts. -/
theorem sameOutcome_of_parts (hl : t.trackedLines.Nodup) (hs : t.trackedSpans.Nodup)
    (hv : ∀ i ∈ t.trackedSpans, (t.span i).Valid) (h : e.Parts es) :
    SameOutcome (t.edit e) (t.edits es) := by
  refine .of_follows (follows_edit hl hs e) (follows_edits hl hs es) ?_ ?_
  · exact fun i _ => h.lineAfter?.symm
  · exact fun i hi => (h.spanAfter (hv i hi).2).symm

end

namespace Edit

/-- Typed forwards, one at a time. -/
def typed (axis : Axis) (place : Int) (count : Nat) : List Edit :=
  (List.range count).map fun k : Nat => put axis (place + k) 1

/-- Taken out one at a time from the back. -/
def backspaced (axis : Axis) (place : Int) : Nat → List Edit
  | 0 => []
  | count + 1 => take axis (place + count) 1 :: backspaced axis place count

variable {axis : Axis} {place : Int} {a b : Nat}

theorem parts_before : Parts (put axis place (a + b)) [put axis place a, put axis place b] :=
  .split (.before axis place a b) (.whole _) (.whole _)

theorem parts_behind : Parts (put axis place (a + b)) [put axis place a, put axis (place + a) b] :=
  .split (.behind axis place a b) (.whole _) (.whole _)

theorem parts_front : Parts (take axis place (a + b)) [take axis place a, take axis place b] :=
  .split (.front axis place a b) (.whole _) (.whole _)

theorem parts_back : Parts (take axis place (a + b)) [take axis (place + a) b, take axis place a] :=
  .split (.back axis place a b) (.whole _) (.whole _)

theorem parts_typed (count : Nat) : Parts (put axis place count) (typed axis place count) := by
  induction count with
  | zero => exact .put_nothing axis place
  | succ n ih =>
    rw [typed, List.range_succ, List.map_append]
    exact .split (.behind axis place n 1) ih (.whole _)

theorem parts_replicate (count : Nat) :
    Parts (take axis place count) (List.replicate count (take axis place 1)) := by
  induction count with
  | zero => exact .take_nothing axis place
  | succ n ih =>
    rw [List.replicate_succ']
    exact .split (.front axis place n 1) ih (.whole _)

theorem parts_backspaced (count : Nat) :
    Parts (take axis place count) (backspaced axis place count) := by
  induction count with
  | zero => exact .take_nothing axis place
  | succ n ih => exact .split (.back axis place n 1) (.whole _) ih

end Edit

/-- An edit may be split at will: text put in at once, or in two parts of which the second goes
before or behind the first; text taken out at once, or the front part first, or the back part
first; and either one line or one character at a time. -/
theorem split_at_will {t : Tracker} (hl : t.trackedLines.Nodup) (hs : t.trackedSpans.Nodup)
    (hv : ∀ i ∈ t.trackedSpans, (t.span i).Valid) (axis : Axis) (place : Int) (a b count : Nat) :
    SameOutcome (t.edit (.put axis place (a + b)))
      (t.edits [.put axis place a, .put axis place b]) ∧
    SameOutcome (t.edit (.put axis place (a + b)))
      (t.edits [.put axis place a, .put axis (place + a) b]) ∧
    SameOutcome (t.edit (.take axis place (a + b)))
      (t.edits [.take axis place a, .take axis place b]) ∧
    SameOutcome (t.edit (.take axis place (a + b)))
      (t.edits [.take axis (place + a) b, .take axis place a]) ∧
    SameOutcome (t.edit (.put axis place count)) (t.edits (Edit.typed axis place count)) ∧
    SameOutcome (t.edit (.take axis place count))
      (t.edits (List.replicate count (.take axis place 1))) ∧
    SameOutcome (t.edit (.take axis place count)) (t.edits (Edit.backspaced axis place count)) :=
  have same {e : Edit} {es : List Edit} (h : e.Parts es) : SameOutcome (t.edit e) (t.edits es) :=
    sameOutcome_of_parts hl hs hv h
  ⟨same Edit.parts_before, same Edit.parts_behind, same Edit.parts_front, same Edit.parts_back,
    same (Edit.parts_typed count), same (Edit.parts_replicate count),
    same (Edit.parts_backspaced count)⟩

theorem split_at_will_backspaced :
    let t : Tracker := ⟨⟨[3, 5, 8]⟩, ⟨[⟨1, 4⟩, ⟨3, 0⟩]⟩, [2, 0, 1], [1, 0]⟩
    (t.edits (Edit.backspaced .lines 3 3)).1.trackedLines = [2] ∧
    (t.edits (Edit.backspaced .lines 3 3)).1.line 2 = 5 ∧
    (t.edits (Edit.backspaced .characters 2 2)).1.span 0 = ⟨1, 2⟩ := by
  intro t
  have hsplit := fun axis place count =>
    @split_at_will t (by decide) (by decide) (by decide) axis place 0 0 count
  obtain ⟨-, -, -, -, -, -, hlines⟩ := hsplit .lines 3 3
  obtain ⟨-, -, -, -, -, -, hcharacters⟩ := hsplit .characters 2 2
  refine ⟨hlines.trackedLines.symm.trans (by decide), ?_, ?_⟩
  · exact (hlines.line 2 (by decide)).symm.trans (by decide)
  · exact (hcharacters.span 0).symm.trans (by decide)

end Tracker

end Scriptorium
