import Mathlib.Data.List.Basic
import Scriptorium.Tree.Node

/-!
Places in a tree. A frame is a node with one child left open, a list of frames, the outermost
first, leads down to a place, and `within` puts a node there. What a search finds in such a tree is
what it finds before the place, at the place, and after it, provided that it comes that far
(`outermost_within`); if it does not, the texts of what it finds do not depend on what is at the
place (`texts_of_not_open`).
-/

namespace Scriptorium
set_option autoImplicit false

namespace Node

/-- A node with one child left open. The children of `own` do not count. -/
structure Frame where
  own : Node
  before : List Node
  after : List Node

def Frame.around (f : Frame) (n : Node) : Node :=
  { f.own with children := f.before ++ n :: f.after }

/-- The tree with the node at the place to which the frames lead. -/
def within (n : Node) : List Frame → Node
  | [] => n
  | f :: p => f.around (n.within p)

/-- The node with other children. Its kind and its text stay. -/
def withChildren (n : Node) (ns : List Node) : Node := { n with children := ns }

section Frame
variable (f : Frame) (p q : List Frame) (n : Node)

@[simp] theorem kind_around : (f.around n).kind = f.own.kind := rfl

@[simp] theorem children_around : (f.around n).children = f.before ++ n :: f.after := rfl

@[simp] theorem within_nil : n.within [] = n := rfl

@[simp] theorem within_cons : n.within (f :: p) = f.around (n.within p) := rfl

theorem within_append : n.within (p ++ q) = (n.within q).within p := by
  induction p with
  | nil => rfl
  | cons f p ih => rw [List.cons_append, within_cons, ih, within_cons]

end Frame

section Search
variable {wanted stop : List String} {f g : Frame} {p q r : List Frame} {n : Node}

theorem outermostAmong_append (ns ms : List Node) :
    outermostAmong wanted stop (ns ++ ms) =
      outermostAmong wanted stop ns ++ outermostAmong wanted stop ms := by
  induction ns with
  | nil => rw [List.nil_append, outermostAmong_nil, List.nil_append]
  | cons n ns ih =>
    rw [List.cons_append, outermostAmong_cons, outermostAmong_cons, ih, List.append_assoc]

theorem outermostAmong_of_mem (h : n.kind ∈ wanted) : outermostAmong wanted stop [n] = [n] := by
  rw [outermostAmong_cons, if_pos h, outermostAmong_nil, List.append_nil]

theorem outermostAmong_of_stop (h : n.kind ∉ wanted) (hs : n.kind ∈ stop) :
    outermostAmong wanted stop [n] = [] := by
  rw [outermostAmong_cons, if_neg h, if_pos hs, outermostAmong_nil, List.append_nil]

theorem outermostAmong_of_pass (h : n.kind ∉ wanted) (hs : n.kind ∉ stop) :
    outermostAmong wanted stop [n] = outermostAmong wanted stop n.children := by
  rw [outermostAmong_cons, if_neg h, if_neg hs, outermostAmong_nil, List.append_nil]

/-- A search goes on below each of these nodes. -/
def Open (wanted stop : List String) (p : List Frame) : Prop :=
  ∀ f ∈ p, f.own.kind ∉ wanted ∧ f.own.kind ∉ stop

theorem open_nil : Open wanted stop [] := by
  intro f hf
  cases hf

/-- What a search finds on its way before it comes to the place. -/
def earlier (wanted stop : List String) (p : List Frame) : List Node :=
  p.flatMap fun f => outermostAmong wanted stop f.before

/-- What it finds after it. -/
def later (wanted stop : List String) (p : List Frame) : List Node :=
  p.reverse.flatMap fun f => outermostAmong wanted stop f.after

theorem outermost_within (f : Frame) (hp : Open wanted stop p) (n : Node) :
    (n.within (f :: p)).outermost wanted stop =
      earlier wanted stop (f :: p) ++ outermostAmong wanted stop [n] ++
        later wanted stop (f :: p) := by
  induction p generalizing f with
  | nil =>
    rw [outermost_eq, within_cons, within_nil, children_around, outermostAmong_append,
      ← List.singleton_append, outermostAmong_append]
    simp [earlier, later]
  | cons g p ih =>
    obtain ⟨hg, hp⟩ := List.forall_mem_cons.mp hp
    have hpass : outermostAmong wanted stop [n.within (g :: p)] =
        (n.within (g :: p)).outermost wanted stop := by
      rw [outermost_eq]
      exact outermostAmong_of_pass hg.1 hg.2
    rw [outermost_eq, within_cons, children_around, outermostAmong_append,
      ← List.singleton_append, outermostAmong_append, hpass, ih g hp]
    simp [earlier, later]

theorem exists_first_of_not_open (hp : ¬Open wanted stop p) :
    ∃ q g r, p = q ++ g :: r ∧ Open wanted stop q ∧ (g.own.kind ∈ wanted ∨ g.own.kind ∈ stop) := by
  induction p with
  | nil => exact absurd open_nil hp
  | cons f p ih =>
    by_cases hf : f.own.kind ∈ wanted ∨ f.own.kind ∈ stop
    · exact ⟨[], f, p, rfl, open_nil, hf⟩
    · have hpass := not_or.mp hf
      have hrest : ¬Open wanted stop p := fun h => hp (List.forall_mem_cons.mpr ⟨hpass, h⟩)
      obtain ⟨q, g, r, rfl, hq, hg⟩ := ih hrest
      exact ⟨f :: q, g, r, rfl, List.forall_mem_cons.mpr ⟨hpass, hq⟩, hg⟩

/-- If a search does not come to the place, what is there makes no difference to the texts. -/
theorem texts_of_not_open (f : Frame) (hp : ¬Open wanted stop p) (n m : Node) :
    ((n.within (f :: p)).outermost wanted stop).map text =
      ((m.within (f :: p)).outermost wanted stop).map text := by
  -- the search goes on below the nodes of `q`, and does not look below `g`
  obtain ⟨q, g, r, rfl, hq, hg⟩ := exists_first_of_not_open hp
  have hsplit : f :: (q ++ g :: r) = (f :: q) ++ (g :: r) := rfl
  rw [hsplit, within_append, within_append, outermost_within f hq, outermost_within f hq]
  have hsame : (outermostAmong wanted stop [n.within (g :: r)]).map text =
      (outermostAmong wanted stop [m.within (g :: r)]).map text := by
    by_cases hwanted : g.own.kind ∈ wanted
    · have hfound : ∀ k : Node, outermostAmong wanted stop [k.within (g :: r)] =
          [k.within (g :: r)] := fun k => outermostAmong_of_mem hwanted
      rw [hfound, hfound]
      rfl
    · have hstopped : ∀ k : Node, outermostAmong wanted stop [k.within (g :: r)] = [] :=
        fun k => outermostAmong_of_stop hwanted (hg.resolve_left hwanted)
      rw [hstopped, hstopped]
  simp only [List.map_append, hsame]

end Search

end Node

end Scriptorium
