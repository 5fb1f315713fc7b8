import Scriptorium.Proofs.Tree.Body

/-!
The searches in a tree, told by places alone. `descendants` are the nodes below another one in
document order, each with the kinds of the nodes that lead to it, and of each of them it can be said
by itself whether a search is for it. All that a search finds are then those that it is for
(`outermost_eq_every`), and what it finds first is the first one that is in no node at which it
stops (`head?_outermost`): that it does not look below what it found makes no difference there.

In the other direction, what a search finds is at a place to which it comes (`exists_place`).
-/

namespace Scriptorium
set_option autoImplicit false

namespace Node

/-- A node where it stands below another: with the kinds of the nodes between the two, the
outermost first. -/
structure Visit where
  through : List String
  node : Node

namespace Visit

/-- The same place, seen from above a node of the kind. -/
def under (kind : String) (v : Visit) : Visit := { v with through := kind :: v.through }

/-- The node is of a kind that is wanted, and in no node at which to stop. -/
def Meets (wanted stop : List String) (v : Visit) : Prop :=
  v.node.kind ∈ wanted ∧ ∀ k ∈ v.through, k ∉ stop

/-- It is in no other node of a kind that is wanted, either. -/
def IsOutermost (wanted stop : List String) (v : Visit) : Prop :=
  v.Meets wanted stop ∧ ∀ k ∈ v.through, k ∉ wanted

/-- The node defines a function, and lists of statements are all that it is in. -/
def IsDefinition (v : Visit) : Prop :=
  v.node.kind = "function_statement" ∧ ∀ k ∈ v.through, k = "statement_list"

section Decidable
variable (wanted stop : List String) (v : Visit)

instance : Decidable (v.Meets wanted stop) := by unfold Meets; infer_instance

instance : Decidable (v.IsOutermost wanted stop) := by unfold IsOutermost; infer_instance

instance : Decidable v.IsDefinition := by unfold IsDefinition; infer_instance

end Decidable

variable {wanted stop : List String} {k : String} {n : Node} {v : Visit}

theorem meets_here : Meets wanted stop ⟨[], n⟩ ↔ n.kind ∈ wanted := by simp [Meets]

theorem isOutermost_here : IsOutermost wanted stop ⟨[], n⟩ ↔ n.kind ∈ wanted := by
  simp [IsOutermost, Meets]

theorem isDefinition_here : IsDefinition ⟨[], n⟩ ↔ n.kind = "function_statement" := by
  simp [IsDefinition]

theorem meets_under : (v.under k).Meets wanted stop ↔ k ∉ stop ∧ v.Meets wanted stop := by
  simp only [Meets, under, List.forall_mem_cons]
  tauto

theorem isOutermost_under :
    (v.under k).IsOutermost wanted stop ↔ k ∉ wanted ∧ k ∉ stop ∧ v.IsOutermost wanted stop := by
  simp only [IsOutermost, Meets, under, List.forall_mem_cons]
  tauto

theorem isDefinition_under :
    (v.under k).IsDefinition ↔ k = "statement_list" ∧ v.IsDefinition := by
  simp only [IsDefinition, under, List.forall_mem_cons]
  tauto

end Visit

mutual

/-- The nodes below this one, each before those below it. -/
def descendants : Node → List Visit
  | ⟨_, _, _, _, _, _, _, children⟩ => descendantsOf children

/-- The given nodes and those below them. -/
def descendantsOf : List Node → List Visit
  | [] => []
  | n :: ns => ⟨[], n⟩ :: ((descendants n).map (Visit.under n.kind) ++ descendantsOf ns)

end

theorem descendants_eq (n : Node) : n.descendants = descendantsOf n.children := by
  cases n
  rw [descendants]

section Search
variable (P Q : Visit → Prop) [DecidablePred P] [DecidablePred Q]
variable {wanted stop : List String} {n : Node} {ns : List Node}

def everyOf (ns : List Node) : List Node :=
  ((descendantsOf ns).filter fun v => P v).map Visit.node

def firstOf? (ns : List Node) : Option Node :=
  ((descendantsOf ns).find? fun v => P v).map Visit.node

/-- All the nodes below this one at places of such a sort, in document order. -/
def every (n : Node) : List Node := (n.descendants.filter fun v => P v).map Visit.node

/-- The first of them. -/
def first? (n : Node) : Option Node := (n.descendants.find? fun v => P v).map Visit.node

theorem every_eq (n : Node) : n.every P = everyOf P n.children := by
  rw [every, descendants_eq, everyOf]

theorem first?_eq (n : Node) : n.first? P = firstOf? P n.children := by
  rw [first?, descendants_eq, firstOf?]

theorem everyOf_cons (n : Node) (ns : List Node) :
    everyOf P (n :: ns) = (if P ⟨[], n⟩ then [n] else []) ++
      (n.every fun v => P (v.under n.kind)) ++ everyOf P ns := by
  have hbelow : ((n.descendants.map (Visit.under n.kind)).filter fun v => P v).map Visit.node =
      n.every fun v => P (v.under n.kind) := by
    rw [List.filter_map, List.map_map]
    rfl
  rw [everyOf, descendantsOf, List.filter_cons, List.filter_append, ← hbelow, everyOf]
  by_cases hP : P ⟨[], n⟩ <;> simp [hP]

theorem firstOf?_cons (n : Node) (ns : List Node) :
    firstOf? P (n :: ns) = if P ⟨[], n⟩ then some n else
      (n.first? fun v => P (v.under n.kind)).or (firstOf? P ns) := by
  have hbelow : ((n.descendants.map (Visit.under n.kind)).find? fun v => P v).map Visit.node =
      n.first? fun v => P (v.under n.kind) := by
    rw [List.find?_map, Option.map_map]
    rfl
  rw [firstOf?, descendantsOf, List.find?_cons, List.find?_append, ← hbelow, firstOf?]
  by_cases hP : P ⟨[], n⟩ <;> simp [hP, Option.map_or]

theorem first?_eq_none : n.first? P = none ↔ ∀ v ∈ n.descendants, ¬ P v := by
  simp [first?, List.find?_eq_none]

variable {P Q}

theorem every_congr (h : ∀ v, P v ↔ Q v) : n.every P = n.every Q := by
  simp only [every, h]

theorem first?_congr (h : ∀ v, P v ↔ Q v) : n.first? P = n.first? Q := by
  simp only [first?, h]

theorem every_of_false (h : ∀ v, ¬ P v) : n.every P = [] := by simp [every, h]

theorem first?_of_false (h : ∀ v, ¬ P v) : n.first? P = none :=
  (first?_eq_none P).mpr fun v _ => h v

mutual

/-- A search finds all the nodes that it is for, in document order. -/
theorem outermost_eq_every : (n : Node) →
    n.outermost wanted stop = n.every (Visit.IsOutermost wanted stop)
  | ⟨_, _, _, _, _, _, _, children⟩ => by
    rw [outermost_eq, every_eq]
    exact outermostAmong_eq_everyOf children

theorem outermostAmong_eq_everyOf : (ns : List Node) →
    outermostAmong wanted stop ns = everyOf (Visit.IsOutermost wanted stop) ns
  | [] => by
    rw [outermostAmong_nil]
    rfl
  | n :: ns => by
    have hbelow := outermost_eq_every n
    rw [outermost_eq] at hbelow
    rw [outermostAmong_cons, everyOf_cons, outermostAmong_eq_everyOf ns, hbelow]
    simp only [Visit.isOutermost_here, Visit.isOutermost_under]
    by_cases hwanted : n.kind ∈ wanted
    · rw [if_pos hwanted, if_pos hwanted, every_of_false fun v hv => hv.1 hwanted, List.append_nil]
    · by_cases hstop : n.kind ∈ stop
      · rw [if_neg hwanted, if_neg hwanted, if_pos hstop, every_of_false fun v hv => hv.2.1 hstop,
          List.append_nil]
      · rw [if_neg hwanted, if_neg hwanted, if_neg hstop, List.nil_append]
        exact congrArg (· ++ _) (every_congr fun v => by tauto)

end

mutual

/-- What comes first of the nodes that a search is for is the first one that it can come to. -/
theorem head?_outermost : (n : Node) →
    (n.outermost wanted stop).head? = n.first? (Visit.Meets wanted stop)
  | ⟨_, _, _, _, _, _, _, children⟩ => by
    rw [outermost_eq, first?_eq]
    exact head?_outermostAmong children

theorem head?_outermostAmong : (ns : List Node) →
    (outermostAmong wanted stop ns).head? = firstOf? (Visit.Meets wanted stop) ns
  | [] => by
    rw [outermostAmong_nil]
    rfl
  | n :: ns => by
    have hbelow := head?_outermost n
    rw [outermost_eq] at hbelow
    rw [outermostAmong_cons, firstOf?_cons, List.head?_append, head?_outermostAmong ns]
    simp only [Visit.meets_here, Visit.meets_under]
    by_cases hwanted : n.kind ∈ wanted
    · rw [if_pos hwanted, if_pos hwanted]
      rfl
    · by_cases hstop : n.kind ∈ stop
      · rw [if_neg hwanted, if_neg hwanted, if_pos hstop, first?_of_false fun v hv => hv.1 hstop]
        rfl
      · rw [if_neg hwanted, if_neg hwanted, if_neg hstop, hbelow]
        exact congrArg (Option.or · _) (first?_congr fun v => by tauto)

end

theorem outermost_eq_nil :
    n.outermost wanted stop = [] ↔ ∀ v ∈ n.descendants, ¬ v.Meets wanted stop := by
  rw [← List.head?_eq_none_iff, head?_outermost, first?_eq_none]

mutual

/-- The definition that a script consists of is the first one that only lists of statements are
around. -/
theorem findFunction?_eq_first? : (n : Node) → n.findFunction? = n.first? Visit.IsDefinition
  | ⟨_, _, _, _, _, _, _, children⟩ => by
    rw [findFunction?, statements_eq, first?_eq]
    exact find?_statementsAmong children

theorem find?_statementsAmong : (ns : List Node) →
    ((statementsAmong ns).find? fun m => m.kind = "function_statement") =
      firstOf? Visit.IsDefinition ns
  | [] => by
    rw [statementsAmong]
    rfl
  | n :: ns => by
    have hbelow := findFunction?_eq_first? n
    rw [findFunction?, statements_eq] at hbelow
    rw [statementsAmong_cons, List.find?_append, firstOf?_cons, find?_statementsAmong ns]
    simp only [Visit.isDefinition_here, Visit.isDefinition_under]
    by_cases hlist : n.kind = "statement_list"
    · rw [if_pos hlist, if_neg (by rw [hlist]; decide), hbelow]
      exact congrArg (Option.or · _) (first?_congr fun v => by tauto)
    · rw [if_neg hlist, first?_of_false fun v hv => hlist hv.1, Option.none_or]
      by_cases hfunction : n.kind = "function_statement" <;> simp [hfunction]

end

end Search

section Places
variable {wanted stop : List String} {found : Node}

theorem earlier_cons (f : Frame) (p : List Frame) :
    earlier wanted stop (f :: p) = outermostAmong wanted stop f.before ++ earlier wanted stop p :=
  List.flatMap_cons

theorem later_cons (f : Frame) (p : List Frame) :
    later wanted stop (f :: p) = later wanted stop p ++ outermostAmong wanted stop f.after := by
  simp [later]

theorem append_eq_append_cons {xs ys before after : List Node}
    (h : xs ++ ys = before ++ found :: after) :
    (∃ c, xs = before ++ found :: c ∧ c ++ ys = after) ∨
      ∃ c, xs ++ c = before ∧ ys = c ++ found :: after := by
  rcases List.append_eq_append_iff.mp h with ⟨c, rfl, hys⟩ | ⟨c, rfl, hafter⟩
  · exact .inr ⟨c, rfl, hys⟩
  · cases c with
    | nil => exact .inr ⟨[], by simp, hafter.symm⟩
    | cons a c =>
      obtain ⟨rfl, rfl⟩ := List.cons.inj hafter
      exact .inl ⟨c, rfl, rfl⟩

mutual

/-- What a search finds is at a place to which it comes. -/
theorem exists_place : (n : Node) → {before after : List Node} →
    n.outermost wanted stop = before ++ found :: after →
    ∃ f p, n = found.within (f :: p) ∧ found.kind ∈ wanted ∧ Open wanted stop p ∧
      earlier wanted stop (f :: p) = before ∧ later wanted stop (f :: p) = after
  | ⟨kind, startOffset, endOffset, startRow, endRow, text, isError, children⟩, _, _, h => by
    rw [outermost_eq] at h
    obtain ⟨l, r, p, rfl, hfound, hopen, hbefore, hafter⟩ := exists_place_among children h
    refine ⟨⟨⟨kind, startOffset, endOffset, startRow, endRow, text, isError, []⟩, l, r⟩, p, rfl,
      hfound, hopen, ?_, ?_⟩
    · rw [earlier_cons, hbefore]
    · rw [later_cons, hafter]

theorem exists_place_among : (ns : List Node) → {before after : List Node} →
    outermostAmong wanted stop ns = before ++ found :: after →
    ∃ l r p, ns = l ++ found.within p :: r ∧ found.kind ∈ wanted ∧ Open wanted stop p ∧
      outermostAmong wanted stop l ++ earlier wanted stop p = before ∧
      later wanted stop p ++ outermostAmong wanted stop r = after
  | [], _, _, h => by
    rw [outermostAmong_nil] at h
    exact absurd h.symm (List.append_ne_nil_of_right_ne_nil _ (List.cons_ne_nil _ _))
  | n :: ns, before, after, h => by
    rw [← List.singleton_append, outermostAmong_append] at h
    rcases append_eq_append_cons h with ⟨c, hn, rfl⟩ | ⟨c, rfl, hns⟩
    · by_cases hwanted : n.kind ∈ wanted
      · -- it is this node itself
        rw [outermostAmong_of_mem hwanted] at hn
        obtain ⟨rfl, rfl, rfl⟩ : before = [] ∧ found = n ∧ c = [] :=
          List.append_eq_singleton_iff.mp hn.symm |>.elim (fun h => by simpa using h) nofun
        refine ⟨[], ns, [], rfl, hwanted, open_nil, ?_, rfl⟩
        rw [outermostAmong_nil]
        rfl
      · by_cases hstop : n.kind ∈ stop
        · rw [outermostAmong_of_stop hwanted hstop] at hn
          exact absurd hn.symm (List.append_ne_nil_of_right_ne_nil _ (List.cons_ne_nil _ _))
        · rw [outermostAmong_of_pass hwanted hstop, ← outermost_eq] at hn
          obtain ⟨f, p, rfl, hfound, hopen, hbefore, hafter⟩ := exists_place n hn
          refine ⟨[], ns, f :: p, rfl, hfound, List.forall_mem_cons.mpr ⟨⟨hwanted, hstop⟩, hopen⟩,
            ?_, ?_⟩
          · rw [hbefore, outermostAmong_nil, List.nil_append]
          · rw [hafter]
    · obtain ⟨l, r, p, rfl, hfound, hopen, hbefore, hafter⟩ := exists_place_among ns hns
      refine ⟨n :: l, r, p, rfl, hfound, hopen, ?_, hafter⟩
      rw [← hbefore, ← List.append_assoc, ← outermostAmong_append, List.singleton_append]

end

end Places

end Node

end Scriptorium
