import Scriptorium.Signal

/-!
Observable values: one value and the signal that tells of its changes. Assigning a value that is
equal to the one there is no change and nobody hears of it. Equality is that of the type of the
values; where two values can be equal and yet differ, the one that is there stays.
-/

namespace Scriptorium
set_option autoImplicit false

universe u v

structure Observable (κ : Type u) (α : Type) where
  value : α
  changed : Signal κ

/-- From what to what a value changed. -/
structure Change (α : Type) where
  old : α
  new : α
  deriving DecidableEq, Repr

namespace Observable
variable {κ : Type u} {α : Type}

def holding (a : α) : Observable κ α := ⟨a, .named "value-changed"⟩

/-- The cell after the assignment and the change to be announced, if there is one. -/
def assign [BEq α] (o : Observable κ α) (a : α) : Observable κ α × Option (Change α) :=
  if a == o.value then (o, none) else ({ o with value := a }, some ⟨o.value, a⟩)

@[simp] theorem value_holding (a : α) : (holding a : Observable κ α).value = a := rfl

@[simp] theorem value_assign [BEq α] [LawfulBEq α] (o : Observable κ α) (a : α) :
    (o.assign a).1.value = a := by
  unfold assign
  split
  · simp_all
  · rfl

@[simp] theorem changed_assign [BEq α] (o : Observable κ α) (a : α) :
    (o.assign a).1.changed = o.changed := by
  unfold assign
  split <;> rfl

end Observable

/-- What the listeners of an observable on its own share: its value, and all else. -/
structure Held (α : Type) (ω : Type v) where
  value : α
  rest : ω

/-- An observable on its own is a hub whose listeners share the value. -/
abbrev Watched (κ : Type u) (α : Type) (ω : Type v) := Hub κ (Held α ω)

namespace Watched
variable {κ : Type u} {α : Type} {ω : Type v}

def holding (a : α) (rest : ω) : Watched κ α ω :=
  ⟨(Observable.holding a : Observable κ α).changed, [], ⟨a, rest⟩⟩

def value (w : Watched κ α ω) : α := w.shared.value

def cell (w : Watched κ α ω) : Observable κ α := ⟨w.shared.value, w.signal⟩

def withCell (w : Watched κ α ω) (o : Observable κ α) : Watched κ α ω :=
  { w with signal := o.changed, shared := { w.shared with value := o.value } }

/-- Assigns and, when the value really changed, tells the listeners; the answer says which. Every
listener is told of this change, whatever the value has become meanwhile. -/
def set [BEq α] (react : Hub.Reaction κ (Change α) (Held α ω)) (w : Watched κ α ω)
    (a : α) : Watched κ α ω × Bool :=
  match w.cell.assign a with
  | (_, none) => (w, false)
  | (o, some c) => (Hub.emit react (w.withCell o) c, true)

end Watched

end Scriptorium
