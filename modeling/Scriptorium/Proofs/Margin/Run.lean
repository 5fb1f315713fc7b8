import Mathlib.Logic.Relation
import Scriptorium.Margin.Command

/-!
Runs of the margin. From outside a margin is given commands, and beside them its listeners come
and go and change what they share, which no command looks at (`Aside`). A listener may do the
same: one that issues no command is `Aloof`, and a `Lawful` one issues only commands that are
allowed, under listeners that are lawful again. Since `Lawful` is an inductive predicate, calls
lie within calls to a finite depth only, but to any.

An invariant of all runs is had in two steps: `Heeds` says that listeners keep it, and
`run_induction` carries it from the steps to the run.
-/

namespace Scriptorium
set_option autoImplicit false

namespace Margin
variable {κ ω : Type}

/-- Only a marker that was made can be listened to. -/
def Channel.Exists (s : Margin κ ω) : Channel → Prop
  | .markerDeleted m => m < s.markers.size
  | _ => True

/-- What happens beside the commands. -/
inductive Aside [DecidableEq κ] : Margin κ ω → Margin κ ω → Prop where
  | share (s : Margin κ ω) (w : ω) : Aside s { s with shared := w }
  | subscribe (s : Margin κ ω) (k : κ) (c : Channel) : c.Exists s → Aside s (s.subscribe k c)
  | unsubscribe (s : Margin κ ω) (k : κ) (c : Channel) : c.Exists s → Aside s (s.unsubscribe k c)

/-- A command that `P` allows where it is given, or a change beside the commands. -/
inductive Step (P : Margin κ ω → Command → Prop) (A : Margin κ ω → Margin κ ω → Prop)
    (h : Reaction κ ω) : Margin κ ω → Margin κ ω → Prop where
  | command {s : Margin κ ω} (c : Command) : P s c → Step P A h s (perform h s c).1
  | aside {s t : Margin κ ω} : A s t → Step P A h s t

abbrev Run (P : Margin κ ω → Command → Prop) (A : Margin κ ω → Margin κ ω → Prop)
    (h : Reaction κ ω) : Margin κ ω → Margin κ ω → Prop :=
  Relation.ReflTransGen (Step P A h)

/-- Listeners that never call the margin back. -/
def Aloof [DecidableEq κ] (h : Reaction κ ω) : Prop :=
  ∀ k n s, Relation.ReflTransGen Aside s (h k n s).1

/-- Listeners that give the margin allowed commands, while others listen to these. -/
inductive Lawful [DecidableEq κ] (P : Margin κ ω → Command → Prop) : Reaction κ ω → Prop where
  | aloof {h : Reaction κ ω} : Aloof h → Lawful P h
  | calls {h : Reaction κ ω} (inner : κ → Notice → Margin κ ω → Reaction κ ω) :
      (∀ k n s, Lawful P (inner k n s)) →
      (∀ k n s, Run P Aside (inner k n s) s (h k n s).1) → Lawful P h

/-- Every call of a listener keeps `I`. -/
def Heeds (h : Reaction κ ω) (I : Margin κ ω → Prop) : Prop := ∀ k n s, I s → I (h k n s).1

section Induction
variable {P Q : Margin κ ω → Command → Prop} {A B : Margin κ ω → Margin κ ω → Prop}
variable {h : Reaction κ ω} {I : Margin κ ω → Prop} {s t : Margin κ ω}

theorem run_induction (hcommand : ∀ s c, P s c → I s → I (perform h s c).1)
    (haside : ∀ s t, A s t → I s → I t) (hr : Run P A h s t) (hs : I s) : I t := by
  induction hr with
  | refl => exact hs
  | tail _ hstep ih =>
    cases hstep with
    | command c hc => exact hcommand _ c hc ih
    | aside ha => exact haside _ _ ha ih

theorem run_mono (hP : ∀ s c, P s c → Q s c) (hA : ∀ s t, A s t → B s t) (hr : Run P A h s t) :
    Run Q B h s t := by
  refine Relation.ReflTransGen.mono ?_ _ _ hr
  intro s t hstep
  cases hstep with
  | command c hc => exact .command c (hP _ c hc)
  | aside ha => exact .aside (hA _ _ ha)

theorem Lawful.mono [DecidableEq κ] (hP : ∀ s c, P s c → Q s c) (hh : Lawful P h) :
    Lawful Q h := by
  induction hh with
  | aloof ha => exact .aloof ha
  | calls inner _ hrun ih =>
    exact .calls inner ih fun k n s => run_mono hP (fun _ _ => id) (hrun k n s)

theorem heeds_of_aloof [DecidableEq κ] (ha : Aloof h) (haside : ∀ s t, Aside s t → I s → I t) :
    Heeds h I := by
  intro k n s hs
  have hr := ha k n s
  generalize (h k n s).1 = t at hr
  induction hr with
  | refl => exact hs
  | tail _ hstep ih => exact haside _ _ hstep ih

/-- A family of invariants is kept by lawful listeners if each command keeps every member as soon
as the listeners keep all of them. -/
theorem Lawful.heeds [DecidableEq κ] {ι : Type} {J : ι → Margin κ ω → Prop}
    (hcommand : ∀ g : Reaction κ ω, (∀ i, Heeds g (J i)) →
      ∀ i s c, P s c → J i s → J i (perform g s c).1)
    (haside : ∀ i s t, Aside s t → J i s → J i t) (hh : Lawful P h) : ∀ i, Heeds h (J i) := by
  induction hh with
  | aloof ha => exact fun i => heeds_of_aloof ha (haside i)
  | calls inner _ hrun ih =>
    intro i k n s hs
    exact run_induction (hcommand _ (ih k n s) i) (haside i) (hrun k n s) hs

end Induction

def performAll (h : Reaction κ ω) (s : Margin κ ω) (cs : List Command) : Margin κ ω :=
  cs.foldl (fun s c => (perform h s c).1) s

theorem run_performAll {P : Margin κ ω → Command → Prop} {A : Margin κ ω → Margin κ ω → Prop}
    (h : Reaction κ ω) (s : Margin κ ω) {cs : List Command} (hP : ∀ c ∈ cs, ∀ t, P t c) :
    Run P A h s (performAll h s cs) := by
  refine List.foldlRecOn (motive := Run P A h s) cs _ .refl ?_
  intro t ht c hc
  exact ht.tail (.command c (hP c hc t))

theorem run_performAll_cons {P : Margin κ ω → Command → Prop}
    {A : Margin κ ω → Margin κ ω → Prop} {h : Reaction κ ω} {s : Margin κ ω} {c : Command}
    {cs : List Command} (hc : P s c)
    (hcs : Run P A h (perform h s c).1 (performAll h (perform h s c).1 cs)) :
    Run P A h s (performAll h s (c :: cs)) := .head (.command c hc) hcs

/-- Listeners that follow a script, up to `depth` calls within one another: beyond that they only
fail or not. The script says which commands a listener gives and whether it fails after them. -/
def scripted (script : κ → Notice → Margin κ ω → List Command × Bool) : Nat → Reaction κ ω
  | 0 => fun k n s => (s, (script k n s).2)
  | depth + 1 => fun k n s =>
    (performAll (scripted script depth) s (script k n s).1, (script k n s).2)

theorem lawful_scripted [DecidableEq κ] {P : Margin κ ω → Command → Prop}
    {script : κ → Notice → Margin κ ω → List Command × Bool}
    (hP : ∀ k n s, ∀ c ∈ (script k n s).1, ∀ t, P t c) (depth : Nat) :
    Lawful P (scripted script depth) := by
  induction depth with
  | zero => exact .aloof fun _ _ _ => .refl
  | succ depth ih =>
    exact .calls (fun _ _ _ => scripted script depth) (fun _ _ _ => ih)
      fun k n s => run_performAll _ s (hP k n s)

section Notify
variable {h : Reaction κ ω} {I : Margin κ ω → Prop} (hn : Heeds h I)
variable (hlog : ∀ s e, I s → I (s.log e))
include hn hlog

theorem notifyRedraw_keeps {s : Margin κ ω} (hs : I s) : I (notifyRedraw h s) := by
  rw [notifyRedraw_eq]
  exact deliver_induction _ _ (fun k _ => hn k .redraw) (fun t => hlog t _) hs

theorem notifyChanged_keeps {s : Margin κ ω} (b : BookmarkId) (removed : Bool) (hs : I s) :
    I (notifyChanged h s b removed) := by
  rw [notifyChanged_eq]
  exact deliver_induction _ _ (fun k _ => hn k _) (fun t => hlog t _) hs

theorem notifyMarkerRedraw_keeps {s : Margin κ ω} (m : MarkerId) (hs : I s) :
    I (notifyMarkerRedraw h s m) := by
  rw [notifyMarkerRedraw_eq]
  exact deliver_induction _ _ (fun k _ => hn k _) (fun t => hlog t _) hs

/-- The bookmarks that listen to a marker have to be asked apart from the other listeners. -/
theorem notifyDeleted_keeps {s : Margin κ ω} (m : MarkerId)
    (hrelease : ∀ s b, I s → I (s.release b m).1) (hs : I s) : I (notifyDeleted h s m) := by
  apply deliver_induction _ _ _ (fun t => hlog t _) hs
  intro x _ t ht
  cases x with
  | owner b => exact hrelease t b ht
  | outside k => exact hn k _ t ht

theorem announce_keeps {s : Margin κ ω} (removed : List BookmarkId) (anchors : List Anchor)
    (hs : I s) : I (announce h s removed anchors) := by
  have each : ∀ (bs : List BookmarkId) (flag : Bool) (t : Margin κ ω), I t →
      I (bs.foldl (fun t b => notifyChanged h t b flag) t) := by
    intro bs flag t ht
    exact List.foldlRecOn bs _ ht fun t ht b _ => notifyChanged_keeps hn hlog b flag ht
  unfold announce
  dsimp only
  split
  · exact each _ _ _ (each _ _ _ hs)
  · exact notifyRedraw_keeps hn hlog (each _ _ _ (each _ _ _ hs))

end Notify

end Margin

end Scriptorium
