import Scriptorium.Proofs.Tracker.Parts

/-!
Runs of the tracker. All that can be asked of it is a command; a run is a list of commands, and it
is told by what each of them does. An anchor can also be made without the tracker and be tracked
later, so anchors that stand in no proper place are there as well, but not among the tracked ones.

An edit of any number of lines or characters is one of `Edit`, which is counted in natural numbers
(`perform_edit`), and a command that is refused changes nothing (`unaltered_of_refused`).
-/

namespace Scriptorium
set_option autoImplicit false

namespace Tracker

/-- What can be asked of a tracker. Anchors may also be made without it, and be tracked later. -/
inductive Command where
  | newLine (line : Int)
  | newSpan (span : Span)
  | track (a : Anchor)
  | trackLine (line : Int)
  | trackSpan (span : Span)
  | untrack (a : Anchor)
  | insertLines (first count : Int)
  | deleteLines (first count : Int)
  | insertCharacters (start count : Int)
  | deleteCharacters (start count : Int)

/-- The tracker after an attempt to track, and why it failed. -/
def tried (t : Tracker) : Except Misplaced Tracker → Tracker × Option Misplaced
  | .ok u => (u, none)
  | .error e => (t, some e)

/-- An anchor that is to be tracked where it is made has been made before it is refused. -/
def perform (t : Tracker) : Command → Tracker × Option Misplaced
  | .newLine line => ((t.newLine line).1, none)
  | .newSpan x => ((t.newSpan x).1, none)
  | .track a => t.tried (t.track a)
  | .trackLine line => (t.newLine line).1.tried ((t.trackLine line).map Prod.fst)
  | .trackSpan x => (t.newSpan x).1.tried ((t.trackSpan x).map Prod.fst)
  | .untrack a => (t.untrack a, none)
  | .insertLines first count => ((t.insertLines first count).1, none)
  | .deleteLines first count => ((t.deleteLines first count).1, none)
  | .insertCharacters start count => ((t.insertCharacters start count).1, none)
  | .deleteCharacters start count => ((t.deleteCharacters start count).1, none)

/-- The edit that a command is. -/
def Command.edit? : Command → Option Edit
  | .insertLines first count => some (.put .lines first count.toNat)
  | .deleteLines first count => some (.take .lines first count.toNat)
  | .insertCharacters start count => some (.put .characters start count.toNat)
  | .deleteCharacters start count => some (.take .characters start count.toNat)
  | _ => none

def Made (t : Tracker) : Anchor → Prop
  | .line i => i < t.lines.size
  | .span i => i < t.spans.size

/-- Only what was made can be tracked, and nothing is taken out that stands before the text. -/
def Command.Allowed (t : Tracker) : Command → Prop
  | .track a => t.Made a
  | .deleteLines first _ => 1 ≤ first
  | .deleteCharacters start _ => 0 ≤ start
  | _ => True

instance (t : Tracker) : (a : Anchor) → Decidable (t.Made a)
  | .line i => Nat.decLt i t.lines.size
  | .span i => Nat.decLt i t.spans.size

instance (t : Tracker) : (c : Command) → Decidable (c.Allowed t)
  | .track a => inferInstanceAs (Decidable (t.Made a))
  | .deleteLines first _ => Int.decLe 1 first
  | .deleteCharacters start _ => Int.decLe 0 start
  | .newLine _ | .newSpan _ | .trackLine _ | .trackSpan _ | .untrack _ | .insertLines _ _
  | .insertCharacters _ _ => .isTrue trivial

/-- Allowed commands, one after the other. -/
inductive Run : Tracker → List Command → Tracker → Prop where
  | nil (t : Tracker) : Run t [] t
  | cons {t u : Tracker} {c : Command} {cs : List Command} :
      c.Allowed t → Run (t.perform c).1 cs u → Run t (c :: cs) u

/-- It is so before the first command, and after each of them. -/
def Throughout (P : Tracker → Prop) : Tracker → List Command → Prop
  | t, [] => P t
  | t, c :: cs => P t ∧ Throughout P (t.perform c).1 cs

instance Throughout.decidable (P : Tracker → Prop) [DecidablePred P] :
    (t : Tracker) → (cs : List Command) → Decidable (Throughout P t cs)
  | t, [] => inferInstanceAs (Decidable (P t))
  | t, c :: cs =>
    have := Throughout.decidable P (t.perform c).1 cs
    inferInstanceAs (Decidable (P t ∧ Throughout P (t.perform c).1 cs))

/-- Every anchor that was made is still there, and stands where it stood. -/
structure Unmoved (t u : Tracker) : Prop where
  made : ∀ a, t.Made a → u.Made a
  line : ∀ i, t.Made (.line i) → u.line i = t.line i
  span : ∀ i, t.Made (.span i) → u.span i = t.span i

/-- Nothing has become of the anchors and of those that are tracked. -/
structure Unaltered (t u : Tracker) : Prop extends Unmoved t u where
  trackedLines : u.trackedLines = t.trackedLines
  trackedSpans : u.trackedSpans = t.trackedSpans

section Command
variable {t u : Tracker} {P : Tracker → Prop} {c : Command} {cs : List Command} {e : Edit}
variable {m : Misplaced}

theorem Throughout.first (h : Throughout P t cs) : P t := by
  cases cs with
  | nil => exact h
  | cons c cs => exact h.1

theorem Unmoved.of_eq (hl : u.lines = t.lines) (hs : u.spans = t.spans) : Unmoved t u := by
  refine ⟨fun a ha => ?_, fun i _ => ?_, fun i _ => ?_⟩
  · cases a with
    | line i => simpa only [Made, hl] using ha
    | span i => simpa only [Made, hs] using ha
  · rw [Tracker.line, Tracker.line, hl]
  · rw [Tracker.span, Tracker.span, hs]

theorem Unaltered.refl (t : Tracker) : Unaltered t t :=
  ⟨.of_eq rfl rfl, rfl, rfl⟩

theorem unaltered_newLine (t : Tracker) (l : Int) : Unaltered t (t.newLine l).1 := by
  refine ⟨⟨fun a ha => ?_, fun i hi => ?_, fun i _ => rfl⟩, rfl, rfl⟩
  · cases a with
    | line i => exact Nat.lt_of_lt_of_eq (Nat.lt_succ_of_lt ha) (Registry.size_push _ _).symm
    | span i => exact ha
  · exact (Registry.get_push t.lines l i).trans (if_neg (Nat.ne_of_lt hi))

theorem unaltered_newSpan (t : Tracker) (x : Span) : Unaltered t (t.newSpan x).1 := by
  refine ⟨⟨fun a ha => ?_, fun i _ => rfl, fun i hi => ?_⟩, rfl, rfl⟩
  · cases a with
    | line i => exact ha
    | span i => exact Nat.lt_of_lt_of_eq (Nat.lt_succ_of_lt ha) (Registry.size_push _ _).symm
  · exact (Registry.get_push t.spans x i).trans (if_neg (Nat.ne_of_lt hi))

/-- An edit of a number of lines or characters that is not positive is one of none. -/
theorem eq_of_toNat (f : Int → Tracker) (h : ∀ count ≤ 0, f count = t) (count : Int) :
    f count = f count.toNat := by
  rcases Int.lt_or_le 0 count with hc | hc
  · rw [Int.toNat_of_nonneg (Int.le_of_lt hc)]
  · rw [h count hc, Int.toNat_of_nonpos hc]
    exact (h 0 (Int.le_refl 0)).symm

theorem perform_edit (h : c.edit? = some e) : (t.perform c).1 = (t.edit e).1 := by
  cases c with
  | insertLines first count =>
    cases h
    exact eq_of_toNat (fun count => (t.insertLines first count).1)
      (fun count hc => congrArg Prod.fst (insertLines_of_nonpos t hc)) count
  | deleteLines first count =>
    cases h
    exact eq_of_toNat (fun count => (t.deleteLines first count).1)
      (fun count hc => congrArg Prod.fst (deleteLines_of_nonpos t hc)) count
  | insertCharacters start count =>
    cases h
    exact eq_of_toNat (fun count => (t.insertCharacters start count).1)
      (fun count hc => congrArg Prod.fst (if_pos hc)) count
  | deleteCharacters start count =>
    cases h
    exact eq_of_toNat (fun count => (t.deleteCharacters start count).1)
      (fun count hc => congrArg Prod.fst (deleteCharacters_of_nonpos t hc)) count
  | _ => cases h

theorem made_newLine (t : Tracker) (l : Int) : (t.newLine l).1.Made (.line t.lines.size) :=
  Nat.lt_of_lt_of_eq (Nat.lt_succ_self _) (Registry.size_push _ _).symm

theorem made_newSpan (t : Tracker) (x : Span) : (t.newSpan x).1.Made (.span t.spans.size) :=
  Nat.lt_of_lt_of_eq (Nat.lt_succ_self _) (Registry.size_push _ _).symm

theorem map_trackLine (t : Tracker) (l : Int) :
    (t.trackLine l).map Prod.fst = (t.newLine l).1.track (.line t.lines.size) := by
  change Except.map Prod.fst (((t.newLine l).1.track (.line t.lines.size)).bind _) = _
  cases (t.newLine l).1.track (.line t.lines.size) <;> rfl

theorem map_trackSpan (t : Tracker) (x : Span) :
    (t.trackSpan x).map Prod.fst = (t.newSpan x).1.track (.span t.spans.size) := by
  change Except.map Prod.fst (((t.newSpan x).1.track (.span t.spans.size)).bind _) = _
  cases (t.newSpan x).1.track (.span t.spans.size) <;> rfl

theorem tried_of_refused {r : Except Misplaced Tracker} (h : (t.tried r).2 = some m) :
    (t.tried r).1 = t := by
  cases r with
  | ok u => cases h
  | error e => rfl

/-- A command that is refused leaves all as it was. -/
theorem unaltered_of_refused (h : (t.perform c).2 = some m) : Unaltered t (t.perform c).1 := by
  cases c with
  | track a =>
    rw [perform, tried_of_refused h]
    exact .refl t
  | trackLine l =>
    rw [perform, tried_of_refused h]
    exact unaltered_newLine t l
  | trackSpan x =>
    rw [perform, tried_of_refused h]
    exact unaltered_newSpan t x
  | _ => cases h

end Command

end Tracker

end Scriptorium
