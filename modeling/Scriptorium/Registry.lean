/-!
Registries: things that are known by a number, handed out in order and never reused. A number
that was not handed out yet reads as the default, so reading and writing need no side condition
and obey the one equation `get_set` without any.
-/

namespace Scriptorium
set_option autoImplicit false

structure Registry (α : Type) where
  cells : List α
  deriving DecidableEq, Repr

namespace Registry
variable {α : Type}

def empty : Registry α := ⟨[]⟩

/-- The number that the next thing will get. -/
def size (r : Registry α) : Nat := r.cells.length

def push (r : Registry α) (a : α) : Registry α × Nat := (⟨r.cells ++ [a]⟩, r.size)

section
variable [Inhabited α]

def get (r : Registry α) (i : Nat) : α := r.cells.getD i default

theorem get_of_size_le (r : Registry α) {i : Nat} (h : r.size ≤ i) : r.get i = default := by
  rw [get, List.getD_eq_getElem?_getD, List.getElem?_eq_none h]
  rfl

private def write : List α → Nat → α → List α
  | [], 0, a => [a]
  | [], i + 1, a => default :: write [] i a
  | _ :: l, 0, a => a :: l
  | b :: l, i + 1, a => b :: write l i a

def set (r : Registry α) (i : Nat) (a : α) : Registry α := ⟨write r.cells i a⟩

def modify (r : Registry α) (i : Nat) (f : α → α) : Registry α := r.set i (f (r.get i))

def modifyAll (r : Registry α) (is : List Nat) (f : α → α) : Registry α :=
  is.foldl (fun r i => r.modify i f) r

private theorem getD_write (l : List α) (i j : Nat) (a : α) :
    (write l i a).getD j default = if i = j then a else l.getD j default := by
  induction i generalizing l j with
  | zero => cases l <;> cases j <;> simp [write]
  | succ i ih =>
    cases l with
    | nil =>
      cases j with
      | zero => rfl
      | succ j => simpa [write] using ih [] j
    | cons b l =>
      cases j with
      | zero => rfl
      | succ j => simpa [write] using ih l j

theorem get_set (r : Registry α) (i j : Nat) (a : α) :
    (r.set i a).get j = if i = j then a else r.get j :=
  getD_write r.cells i j a

@[simp] theorem get_set_self (r : Registry α) (i : Nat) (a : α) : (r.set i a).get i = a := by
  simp [get_set]

theorem get_modify (r : Registry α) (i j : Nat) (f : α → α) :
    (r.modify i f).get j = if i = j then f (r.get j) else r.get j := by
  unfold modify
  rw [get_set]
  split <;> simp_all

theorem get_modifyAll (r : Registry α) {is : List Nat} (h : is.Nodup) (f : α → α) (j : Nat) :
    (r.modifyAll is f).get j = if j ∈ is then f (r.get j) else r.get j := by
  unfold modifyAll
  induction is generalizing r with
  | nil => simp
  | cons i is ih =>
    obtain ⟨hi, hn⟩ := List.nodup_cons.1 h
    rw [List.foldl_cons, ih _ hn]
    simp only [get_modify, List.mem_cons]
    by_cases hj : j = i
    · subst hj
      simp [hi]
    · simp [hj, Ne.symm hj]

theorem get_push (r : Registry α) (a : α) (j : Nat) :
    (r.push a).1.get j = if j = r.size then a else r.get j := by
  simp only [push, get, size, List.getD_eq_getElem?_getD]
  rcases Nat.lt_trichotomy j r.cells.length with h | h | h
  · simp [List.getElem?_append_left h, Nat.ne_of_lt h]
  · simp [h]
  · have hj : j ≠ r.cells.length := Nat.ne_of_gt h
    have h1 : (r.cells ++ [a])[j]? = none := by
      simp; omega
    have h2 : r.cells[j]? = none := by
      simp; omega
    simp [h1, h2, hj]

private theorem length_write (l : List α) (i : Nat) (a : α) :
    (write l i a).length = max l.length (i + 1) := by
  induction i generalizing l with
  | zero =>
    cases l with
    | nil => rfl
    | cons b l => simp [write]
  | succ i ih =>
    cases l with
    | nil => simp [write, ih]
    | cons b l =>
      simp only [write, List.length_cons, ih]
      omega

theorem size_set (r : Registry α) (i : Nat) (a : α) :
    (r.set i a).size = max r.size (i + 1) := length_write r.cells i a

theorem size_modify_of_lt (r : Registry α) {i : Nat} (h : i < r.size) (f : α → α) :
    (r.modify i f).size = r.size := by
  rw [modify, size_set]
  omega

theorem size_le_size_modify (r : Registry α) (i : Nat) (f : α → α) :
    r.size ≤ (r.modify i f).size := by
  rw [modify, size_set]
  omega

theorem size_le_size_modifyAll (r : Registry α) (is : List Nat) (f : α → α) :
    r.size ≤ (r.modifyAll is f).size := by
  unfold modifyAll
  induction is generalizing r with
  | nil => exact Nat.le_refl _
  | cons i is ih => exact Nat.le_trans (size_le_size_modify r i f) (ih _)

end

@[simp] theorem size_empty : (empty : Registry α).size = 0 := rfl

@[simp] theorem size_push (r : Registry α) (a : α) : (r.push a).1.size = r.size + 1 := by
  simp [push, size]

end Registry

end Scriptorium
