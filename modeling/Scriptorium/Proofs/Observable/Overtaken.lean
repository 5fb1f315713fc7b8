import Scriptorium.Proofs.Observable.Chain

/-!
Which change of an observable value a listener hears of last. A listener that assigns another value
while it is told of a change has all listeners told of its own change first, and those behind it
hear of the earlier change afterwards; so what they hear last may be over already (`overtaken`).

Still each listener is told of each change, the last one included. And what it is told last is how
things are, unless those who were called before it in the same telling have changed them since
(`last_told`).
-/

namespace Scriptorium
set_option autoImplicit false

namespace Watched
open Hub

section Last
variable {κ α : Type} [BEq α] {a b : α} {c : Change α} {cs ds : List (Change α)}
variable {r u v : Record κ (Change α)}

theorem changes_append : changes (u ++ v) = changes u ++ changes v := List.filterMap_append

/-- What follows a change begins where it led. -/
theorem Linked.behind (h : Linked a (cs ++ c :: ds) b) : Linked c.new ds b := by
  induction cs generalizing a with
  | nil =>
    cases h with
    | cons _ _ hds => exact hds
  | cons e cs ih =>
    cases h with
    | cons _ _ hrest => exact ih hrest

theorem Linked.eq_of_nil (h : Linked a [] b) : a = b := by
  cases h
  rfl

/-- A change is made where a telling begins, and there is something to be told. -/
theorem changes_cases (r : Record κ (Change α)) : changes r = [] ∨
    ∃ u v n c ks, r = u ++ .begun n c ks :: v ∧ (c.new == c.old) = false := by
  cases hchanges : changes r with
  | nil => exact .inl rfl
  | cons c cs =>
    have hc : c ∈ changes r := hchanges ▸ List.mem_cons_self
    obtain ⟨e, he, hchange⟩ := List.mem_filterMap.mp hc
    obtain ⟨u, v, rfl⟩ := List.append_of_mem he
    cases e with
    | begun n d ks =>
      refine .inr ⟨u, v, n, d, ks, rfl, ?_⟩
      cases hsame : d.new == d.old with
      | false => rfl
      | true => simp [change?, hsame] at hchange
    | _ => cases hchange

section Told
variable [DecidableEq κ] {w x : Watched κ α (Record κ (Change α))} {k : κ} {n : Nat}
variable (hpath : Path (setting κ α) w r x)
variable (hwhole : Whole (setting κ α).heard ((setting κ α).number w) r)
include hpath hwhole

/-- Who listens all the time is told of every change, after it was made. -/
theorem told_of_changed (hk : r.Attends w.signal.listeners k) {ks : List κ}
    (hr : r = u ++ .begun n c ks :: v) (hother : (c.new == c.old) = false) :
    .called n k c ∈ v := by
  subst hr
  have hlistens : k ∈ ks := by
    rw [hpath.listeners_eq]
    exact hk u ⟨_, rfl⟩
  exact hwhole.called_of_begun (by simp [setting, hother]) hlistens

theorem unchanged_of_last (hk : r.Attends w.signal.listeners k)
    (hr : r = u ++ .called n k c :: v) (hlast : ∀ m d, .called m k d ∉ v) : changes v = [] := by
  rcases changes_cases v with hnone | ⟨v₁, v₂, m, d, ks, rfl, hother⟩
  · exact hnone
  · have hsplit : r = (u ++ .called n k c :: v₁) ++ .begun m d ks :: v₂ := by
      rw [hr, List.append_assoc, List.cons_append]
    have hlater := told_of_changed hpath hwhole hk hsplit hother
    exact absurd (List.mem_append_right v₁ (List.mem_cons_of_mem _ hlater)) (hlast m d)

/-- From where a change led, the later ones lead to the value that is there in the end. -/
theorem linked_behind {ks : List κ} (hr : r = u ++ .begun n c ks :: v)
    (hcalled : .called n k c ∈ v) : Linked c.new (changes v) x.value := by
  subst hr
  have hbegun : .begun n c ks ∈ u ++ .begun n c ks :: v :=
    List.mem_append_right u List.mem_cons_self
  have hheard := hwhole.heard_of_called hbegun
    (List.mem_append_right u (List.mem_cons_of_mem _ hcalled))
  have hother : (c.new == c.old) = false := by simpa [setting] using hheard
  have hchange : change? (.begun n c ks : Event κ (Change α)) = some c := by
    simp [change?, hother]
  have hall := linked_of_path hpath
  rw [changes_append, changes_cons, hchange] at hall
  exact hall.behind

end Told

/-- Whenever nobody is being told any more, each listener that has listened all the time has been
told of every change. Nothing has changed since it was told last; and of what it was told then,
only those can have changed anything that were called before it in that telling. If they have not,
it was told of the value that is there. -/
theorem last_told [DecidableEq κ] (conduct : Conduct κ α (Watched κ α (Record κ (Change α))))
    (w : Watched κ α (Record κ (Change α))) :
    ∃ r : Record κ (Change α),
      (conduct.run (setting κ α) w).1.shared.rest = w.shared.rest ++ r ∧
      ∀ k, r.Attends w.signal.listeners k →
        (∀ u v n c ks, r = u ++ .begun n c ks :: v → (c.new == c.old) = false →
          .called n k c ∈ v) ∧
        ∀ u v n c, r = u ++ .called n k c :: v → (∀ m d, .called m k d ∉ v) →
          changes v = [] ∧
          ∃ before front back turns,
            u = before ++ .begun n c (front ++ k :: back) :: turns ∧ Calls n c front turns ∧
            Linked c.new (changes turns) (value (conduct.run (setting κ α) w).1) ∧
            (changes turns = [] → c.new = value (conduct.run (setting κ α) w).1) := by
  obtain ⟨r, hpath, hwhole⟩ := run_recorded (v := setting κ α) conduct w
  refine ⟨r, hpath.read, fun k hk =>
    ⟨fun u v n c ks hr hother => told_of_changed hpath hwhole hk hr hother, ?_⟩⟩
  intro u v n c hr hlast
  have hquiet := unchanged_of_last hpath hwhole hk hr hlast
  obtain ⟨before, front, back, turns, hcalls, rfl⟩ := hwhole.placed u v n k c hr
  have hlinked : Linked c.new (changes turns) (value (conduct.run (setting κ α) w).1) := by
    rw [List.append_assoc, List.cons_append] at hr
    have hbehind := linked_behind hpath hwhole hr (List.mem_append_right turns List.mem_cons_self)
    rw [changes_append, changes_cons, hquiet] at hbehind
    simpa [change?] using hbehind
  refine ⟨hquiet, before, front, back, turns, rfl, hcalls, hlinked, fun hnone => ?_⟩
  rw [hnone] at hlinked
  exact hlinked.eq_of_nil

end Last

/-- A value is assigned; the first listener assigns another one when it is told of it. -/
def overtaking : Conduct Nat Nat (Watched Nat Nat (Record Nat (Change Nat))) :=
  .tell 1 (fun k x => if k = 0 ∧ value x = 1 then .tell 2 (fun _ _ => .rest false) fun _ =>
    .rest false else .rest false) fun _ => .rest false

/-- What happens until it is the second listener's turn to be told of the first value. -/
def meanwhile : Record Nat (Change Nat) :=
  [.begun 0 ⟨0, 1⟩ [0, 1], .called 0 0 ⟨0, 1⟩,
    .begun 1 ⟨1, 2⟩ [0, 1], .called 1 0 ⟨1, 2⟩, .returned 1 0 false, .called 1 1 ⟨1, 2⟩,
    .returned 1 1 false, .ended 1 true, .returned 0 0 false]

/-- What a listener is told last is not always the value that is there: the second listener is told
of the first change when the second one is over. -/
theorem overtaken : ¬ ∀ (c : Conduct Nat Nat (Watched Nat Nat (Record Nat (Change Nat))))
    (w : Watched Nat Nat (Record Nat (Change Nat))) (r : Record Nat (Change Nat)),
    (c.run (setting Nat Nat) w).1.shared.rest = w.shared.rest ++ r →
    ∀ k, r.Attends w.signal.listeners k →
    ∀ u v n d, r = u ++ .called n k d :: v → (∀ m e, .called m k e ∉ v) →
      d.new = value (c.run (setting Nat Nat) w).1 := by
  intro hall
  let rest : Record Nat (Change Nat) := [.returned 0 1 false, .ended 0 true]
  have hattends : Record.Attends [0, 1] (meanwhile ++ .called 0 1 ⟨0, 1⟩ :: rest) 1 :=
    Record.attends_of_not_moved (by simp [meanwhile, rest]) (by simp)
  have hcurrent := hall overtaking ⟨⟨"value-changed", [0, 1]⟩, [], ⟨0, []⟩⟩ _ rfl 1 hattends
    meanwhile rest 0 ⟨0, 1⟩ rfl (by simp [rest])
  exact absurd hcurrent (by decide)

end Watched

end Scriptorium
