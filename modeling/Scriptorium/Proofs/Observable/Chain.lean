import Scriptorium.Observable
import Scriptorium.Proofs.Signal.Conduct

/-!
The changes of an observable value, in the order in which they were made. A listener may assign
another value while the listeners are still told of the one before, and its own assignment is over
before theirs goes on; so the tellings of several changes lie within one another. The changes do
not: each begins where the one before ended (`Linked`), since a value is assigned before anybody is
told.
-/

namespace Scriptorium
set_option autoImplicit false

namespace Watched
open Hub

/-- Each change leads from where the one before it led, and to another value. -/
inductive Linked {α : Type} [BEq α] : α → List (Change α) → α → Prop where
  | nil (a : α) : Linked a [] a
  | cons (c : Change α) {cs : List (Change α)} {b : α} : (c.new == c.old) = false →
      Linked c.new cs b → Linked c.old (c :: cs) b

/-- An observable on which to tell of a value is to assign it, whose listeners share the record
beside the value. -/
def setting (κ α : Type) [BEq α] :
    Venue κ α (Change α) (Held α (Record κ (Change α))) where
  read w := w.rest
  note e w := { w with rest := w.rest ++ [e] }
  told w a := ⟨w.value, a⟩
  heard c := !(c.new == c.old)
  prepare c w := { w with value := c.new }
  tell := Watched.set
  read_note _ _ := rfl
  read_prepare _ _ := rfl
  told_note _ _ _ := rfl
  tell_eq react h a := by
    unfold Watched.set Observable.assign
    cases hsame : a == h.shared.value <;> simp [Watched.cell, Watched.withCell, hsame]

section Changes
variable {κ α : Type} [BEq α]

/-- What an event changes, which is nothing if the value to be assigned is there already. -/
def change? : Event κ (Change α) → Option (Change α)
  | .begun _ c _ => if c.new == c.old then none else some c
  | _ => none

def changes (r : Record κ (Change α)) : List (Change α) := r.filterMap change?

theorem Linked.append {a b d : α} {cs ds : List (Change α)} (hcs : Linked a cs b)
    (hds : Linked b ds d) : Linked a (cs ++ ds) d := by
  induction hcs with
  | nil => exact hds
  | cons c hother _ ih => exact .cons c hother (ih hds)

theorem changes_cons (e : Event κ (Change α)) (r : Record κ (Change α)) :
    changes (e :: r) = (change? e).toList ++ changes r := by
  cases h : change? e <;> simp [changes, h]

variable [DecidableEq κ] {w x : Watched κ α (Record κ (Change α))} {e : Event κ (Change α)}
variable {r u v : Record κ (Change α)}

/-- The value changes at the beginning of a telling only, and if there is something to tell. -/
theorem linked_of_step (hs : Step (setting κ α) w e x) :
    Linked w.value (change? e).toList x.value := by
  cases hs with
  | moved m => cases m <;> exact .nil _
  | begun a hheard =>
    have hother : (a == w.value) = false := by simpa [setting, value] using hheard
    have hchange : change? (.begun ((setting κ α).number w) ⟨w.value, a⟩ w.signal.listeners) =
        some ⟨w.value, a⟩ := by
      simp [change?, hother]
    change Linked w.value (change? (.begun _ ⟨w.value, a⟩ _)).toList a
    rw [hchange]
    exact .cons ⟨w.value, a⟩ hother (.nil a)
  | unheard a hheard =>
    have hsame : (a == w.value) = true := by simpa [setting, value] using hheard
    have hchange : change? (.begun ((setting κ α).number w) ⟨w.value, a⟩ w.signal.listeners) =
        none := by
      simp [change?, hsame]
    change Linked w.value (change? (.begun _ ⟨w.value, a⟩ _)).toList w.value
    rw [hchange]
    exact .nil _
  | called n k c => exact .nil _
  | returned n k failed => cases failed <;> exact .nil _
  | ended n answer => exact .nil _

theorem linked_of_path (hp : Path (setting κ α) w r x) : Linked w.value (changes r) x.value := by
  induction hp with
  | nil => exact .nil _
  | cons hs _ ih =>
    rw [changes_cons]
    exact (linked_of_step hs).append ih

/-- What is to be changed is the value that is there. -/
theorem linked_of_begun {n : Nat} {c : Change α} {ks : List κ}
    (hp : Path (setting κ α) w (u ++ .begun n c ks :: v) x) :
    Linked w.value (changes u) c.old := by
  obtain ⟨y, hu, hrest⟩ := hp.split
  have hlinked := linked_of_path hu
  cases hrest with
  | cons hs _ => cases hs <;> exact hlinked

/-- However listeners assign values while they are told of others, the changes are linked from the
first value to the last. For each assignment, those who listened when it was made are told of its
own change, one after the other, and it is answered with true; unless the value was there already:
then nobody is told, and the answer is false. -/
theorem changes_linked (c : Conduct κ α (Watched κ α (Record κ (Change α))))
    (w : Watched κ α (Record κ (Change α))) :
    ∃ r : Record κ (Change α),
      (c.run (setting κ α) w).1.shared.rest = w.shared.rest ++ r ∧
      Linked w.value (changes r) (value (c.run (setting κ α) w).1) ∧
      (∀ n d ks, .begun n d ks ∈ r →
        Telling (fun d => !(d.new == d.old)) n d ks (r.numbered n)) ∧
      ∀ (u v : Record κ (Change α)) n d ks, r = u ++ .begun n d ks :: v →
        ks = u.after w.signal.listeners ∧ Linked w.value (changes u) d.old := by
  obtain ⟨r, hpath, hwhole⟩ := run_recorded (v := setting κ α) c w
  refine ⟨r, hpath.read, linked_of_path hpath, hwhole.telling, ?_⟩
  rintro u v n d ks rfl
  exact ⟨hpath.listeners_eq, linked_of_begun hpath⟩

end Changes

/-- The first listener assigns 2 when it is told of 1, and fails. The second one is told of 2
before it is told of 1. -/
example :
    ((Conduct.tell 1 (fun k x => if k = 0 ∧ value x = 1 then
        .tell 2 (fun _ _ => .rest false) fun _ => .rest true
      else .rest false) fun _ => .rest false).run (setting Nat Nat)
        ⟨⟨"value-changed", [0, 1]⟩, [], ⟨0, []⟩⟩).1.shared =
    ⟨2, [.begun 0 ⟨0, 1⟩ [0, 1], .called 0 0 ⟨0, 1⟩,
      .begun 1 ⟨1, 2⟩ [0, 1], .called 1 0 ⟨1, 2⟩, .returned 1 0 false, .called 1 1 ⟨1, 2⟩,
      .returned 1 1 false, .ended 1 true,
      .returned 0 0 true, .called 0 1 ⟨0, 1⟩, .returned 0 1 false, .ended 0 true]⟩ := rfl

end Watched

end Scriptorium
