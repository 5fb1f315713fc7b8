import Mathlib.Data.List.Forall2
import Scriptorium.Proofs.Tree.Descendants

/-!
Paths in a tree. A path tells for each level which child to take, and one path is before another
in the order of lists just if its node is before the other's in the document. What a search finds
are the nodes at the paths that it is for, in this order and each once: those that end at a wanted
kind and have no wanted kind and no stop on the way. Neither the kind of the node that the search
begins at nor a stop at a wanted kind makes a difference.
-/

namespace Scriptorium
set_option autoImplicit false

/-- A list of kinds as it is written, with bars between them. -/
structure Spells (s : String) (kinds : List String) : Prop where
  nonempty : kinds ≠ []
  plain : ∀ k ∈ kinds, '|' ∉ k.toList
  joined : "|".intercalate kinds = s

theorem not_mem_of_mem_splitOn {c : Char} {cs l : List Char} (hl : l ∈ cs.splitOn c) : c ∉ l := by
  induction cs generalizing l with
  | nil =>
    obtain rfl := List.mem_singleton.mp hl
    exact List.not_mem_nil
  | cons d cs ih =>
    rw [List.splitOn_cons_eq_if_modifyHead] at hl
    split at hl
    · rcases List.mem_cons.mp hl with rfl | hl
      · exact List.not_mem_nil
      · exact ih hl
    · rename_i hd
      obtain ⟨m, ms, hsplit⟩ := List.exists_cons_of_ne_nil (List.splitOn_ne_nil c cs)
      rw [hsplit, List.modifyHead_cons] at hl
      rcases List.mem_cons.mp hl with rfl | hl
      · have hm : c ∉ m := ih (by rw [hsplit]; exact List.mem_cons_self)
        have hne : c ≠ d := fun h => hd (by simp [h])
        exact List.not_mem_cons_of_ne_of_not_mem hne hm
      · exact ih (by rw [hsplit]; exact List.mem_cons_of_mem _ hl)

theorem spells_kindsOf (s : String) : Spells s (kindsOf s) := by
  refine ⟨?_, ?_, ?_⟩
  · exact fun h => List.splitOn_ne_nil _ _ (List.map_eq_nil_iff.mp h)
  · intro k hk
    obtain ⟨l, hl, rfl⟩ := List.mem_map.mp hk
    rw [String.toList_ofList]
    exact not_mem_of_mem_splitOn hl
  · have hchars : (kindsOf s).map String.toList = s.toList.splitOn '|' := by
      rw [kindsOf, List.map_map]
      exact List.map_id'' (fun l => String.toList_ofList) _
    have hbar : "|".toList = ['|'] := rfl
    rw [← String.toList_inj, String.toList_intercalate, hchars, hbar, List.intercalate_splitOn]

theorem kindsOf_of_spells {s : String} {kinds : List String} (h : Spells s kinds) :
    kindsOf s = kinds := by
  obtain ⟨hne, hplain, rfl⟩ := h
  have hparts : ∀ l ∈ kinds.map String.toList, '|' ∉ l := by
    intro l hl
    obtain ⟨k, hk, rfl⟩ := List.mem_map.mp hl
    exact hplain k hk
  have hbar : "|".toList = ['|'] := rfl
  rw [kindsOf, String.toList_intercalate, hbar, List.splitOn_intercalate '|' hparts (by simpa),
    List.map_map]
  exact List.map_id'' (fun k => String.ofList_toList) _

/-- The kinds that a text spells are those between its bars. -/
theorem spells_iff {s : String} {kinds : List String} : Spells s kinds ↔ kindsOf s = kinds :=
  ⟨kindsOf_of_spells, fun h => h ▸ spells_kindsOf s⟩

namespace Node
variable {wanted stop : List String} {n c : Node} {p q : List Nat} {i : Nat}

/-- The node at a path. -/
def nodeAt? : Node → List Nat → Option Node
  | n, [] => some n
  | n, i :: p => n.children[i]?.bind fun c => nodeAt? c p

/-- A search is for the node at the path: it is below, of a kind that is wanted, and between the two
there is no kind that is wanted or to stop at. -/
structure Sought (wanted stop : List String) (n : Node) (p : List Nat) : Prop where
  below : p ≠ []
  found : ∃ m, n.nodeAt? p = some m ∧ m.kind ∈ wanted
  between : ∀ q, q <+: p → q ≠ [] → q ≠ p →
    ∀ m, n.nodeAt? q = some m → m.kind ∉ wanted ∧ m.kind ∉ stop

/-- A search that comes to the node is for the node at the path: for this one, or for one below it. -/
def Comes (wanted stop : List String) (n : Node) (p : List Nat) : Prop :=
  p = [] ∧ n.kind ∈ wanted ∨ (n.kind ∉ wanted ∧ n.kind ∉ stop) ∧ Sought wanted stop n p

/-- The paths of a sort, in document order and each once, with the nodes at them. -/
structure Traced (n : Node) (P : List Nat → Prop) (ps : List (List Nat)) (found : List Node) :
    Prop where
  increasing : ps.Pairwise (· < ·)
  mem_iff : ∀ p, p ∈ ps ↔ P p
  reached : List.Forall₂ (fun p m => n.nodeAt? p = some m) ps found

theorem nodeAt?_cons (hc : n.children[i]? = some c) (p : List Nat) :
    n.nodeAt? (i :: p) = c.nodeAt? p := by
  rw [nodeAt?, hc, Option.bind_some]

theorem exists_child {m : Node} (h : n.nodeAt? (i :: p) = some m) :
    ∃ c, n.children[i]? = some c := by
  rw [nodeAt?] at h
  obtain ⟨c, hc, -⟩ := Option.bind_eq_some_iff.mp h
  exact ⟨c, hc⟩

theorem exists_isPrefix_of_cons (hq : q <+: i :: p) (hne : q ≠ []) : ∃ t, q = i :: t ∧ t <+: p :=
  (List.prefix_cons_iff.mp hq).resolve_left hne

theorem Sought.eq_of_isPrefix (hp : Sought wanted stop n p) (hq : Sought wanted stop n q)
    (h : p <+: q) : p = q := by
  by_contra hne
  obtain ⟨m, hm, hwanted⟩ := hp.found
  exact (hq.between p h hp.below hne m hm).1 hwanted

section Child
variable (hc : n.children[i]? = some c)
include hc

theorem sought_child_iff : Sought wanted stop n [i] ↔ c.kind ∈ wanted := by
  have hat : n.nodeAt? [i] = some c := nodeAt?_cons hc []
  constructor
  · rintro ⟨-, ⟨m, hm, hwanted⟩, -⟩
    obtain rfl : c = m := Option.some.inj (hat.symm.trans hm)
    exact hwanted
  · intro hwanted
    refine ⟨List.cons_ne_nil _ _, ⟨c, hat, hwanted⟩, ?_⟩
    intro q hq hne hproper
    obtain ⟨t, rfl, ht⟩ := exists_isPrefix_of_cons hq hne
    exact absurd (congrArg (i :: ·) (List.prefix_nil.mp ht)) hproper

/-- Below a child a search goes on as from the child itself, if it comes that far. -/
theorem sought_below_iff (hp : p ≠ []) :
    Sought wanted stop n (i :: p) ↔
      (c.kind ∉ wanted ∧ c.kind ∉ stop) ∧ Sought wanted stop c p := by
  constructor
  · rintro ⟨-, ⟨m, hm, hwanted⟩, hbetween⟩
    rw [nodeAt?_cons hc] at hm
    have hcons : ∀ q, q <+: p → q ≠ p →
        ∀ k, c.nodeAt? q = some k → k.kind ∉ wanted ∧ k.kind ∉ stop := by
      intro q hq hproper k hk
      apply hbetween (i :: q) (List.cons_prefix_cons.mpr ⟨rfl, hq⟩) (List.cons_ne_nil _ _)
      · exact fun h => hproper (List.cons.inj h).2
      · exact (nodeAt?_cons hc q).trans hk
    exact ⟨hcons [] List.nil_prefix hp.symm c rfl, hp, ⟨m, hm, hwanted⟩,
      fun q hq _ hproper => hcons q hq hproper⟩
  · rintro ⟨hpass, -, ⟨m, hm, hwanted⟩, hbetween⟩
    refine ⟨List.cons_ne_nil _ _, ⟨m, (nodeAt?_cons hc p).trans hm, hwanted⟩, ?_⟩
    intro q hq hne hproper k hk
    obtain ⟨t, rfl, ht⟩ := exists_isPrefix_of_cons hq hne
    rw [nodeAt?_cons hc] at hk
    by_cases htop : t = []
    · subst htop
      obtain rfl : c = k := Option.some.inj hk
      exact hpass
    · apply hbetween t ht htop _ k hk
      exact fun h => hproper (congrArg (i :: ·) h)

theorem sought_cons : Sought wanted stop n (i :: p) ↔ Comes wanted stop c p := by
  by_cases hp : p = []
  · subst hp
    have hnone : ¬ Sought wanted stop c [] := fun h => h.below rfl
    simp [Comes, sought_child_iff hc, hnone]
  · simp [Comes, sought_below_iff hc hp, hp]

end Child

section Traced
variable {P Q : List Nat → Prop} {ps qs : List (List Nat)} {found more : List Node}

theorem Traced.congr (h : Traced n P ps found) (hPQ : ∀ p, P p ↔ Q p) : Traced n Q ps found :=
  { h with mem_iff := fun p => (h.mem_iff p).trans (hPQ p) }

theorem traced_nil (hP : ∀ p, ¬ P p) : Traced n P [] [] :=
  ⟨.nil, fun p => ⟨nofun, fun h => absurd h (hP p)⟩, .nil⟩

theorem traced_self (n : Node) : Traced n (· = []) [[]] [n] :=
  ⟨List.pairwise_singleton _ _, fun _ => List.mem_singleton, .cons rfl .nil⟩

theorem Traced.append (hP : Traced n P ps found) (hQ : Traced n Q qs more)
    (hPQ : ∀ p q, P p → Q q → p < q) :
    Traced n (fun p => P p ∨ Q p) (ps ++ qs) (found ++ more) where
  increasing := List.pairwise_append.mpr ⟨hP.increasing, hQ.increasing,
    fun p hp q hq => hPQ p q ((hP.mem_iff p).mp hp) ((hQ.mem_iff q).mp hq)⟩
  mem_iff p := by rw [List.mem_append, hP.mem_iff, hQ.mem_iff]
  reached := List.rel_append hP.reached hQ.reached

/-- What is traced from a child is traced from its parent. -/
theorem Traced.under (h : Traced c P ps found) (hc : n.children[i]? = some c) :
    Traced n (fun p => ∃ q, P q ∧ i :: q = p) (ps.map (i :: ·)) found where
  increasing := List.pairwise_map.mpr
    (h.increasing.imp fun hlt => List.cons_lt_cons_iff.mpr (.inr ⟨rfl, hlt⟩))
  mem_iff p := by simp only [List.mem_map, h.mem_iff]
  reached := List.forall₂_map_left_iff.mpr
    (h.reached.imp fun q _ hq => (nodeAt?_cons hc q).trans hq)

end Traced

/-- The path begins with one of the children from the given one on. -/
def From (i : Nat) (p : List Nat) : Prop := ∃ j q, p = j :: q ∧ i ≤ j

theorem from_cons {j : Nat} : From i (j :: p) ↔ i ≤ j := by simp [From]

theorem Sought.from_zero (h : Sought wanted stop n p) : From 0 p := by
  obtain ⟨j, q, rfl⟩ := List.exists_cons_of_ne_nil h.below
  exact from_cons.mpr (Nat.zero_le j)

theorem Sought.lt_length (h : Sought wanted stop n (i :: p)) : i < n.children.length := by
  obtain ⟨m, hm, -⟩ := h.found
  obtain ⟨c, hc⟩ := exists_child hm
  exact (List.getElem?_eq_some_iff.mp hc).1

/-- The paths from a child on begin with it, or with a later one. -/
theorem sought_from_iff (hc : n.children[i]? = some c) :
    Sought wanted stop n p ∧ From i p ↔
      (∃ q, Comes wanted stop c q ∧ i :: q = p) ∨ Sought wanted stop n p ∧ From (i + 1) p := by
  constructor
  · rintro ⟨hp, j, q, rfl, hj⟩
    rcases Nat.eq_or_lt_of_le hj with rfl | hlt
    · exact .inl ⟨q, (sought_cons hc).mp hp, rfl⟩
    · exact .inr ⟨hp, from_cons.mpr hlt⟩
  · rintro (⟨q, hq, rfl⟩ | ⟨hp, j, q, rfl, hj⟩)
    · exact ⟨(sought_cons hc).mpr hq, from_cons.mpr (Nat.le_refl _)⟩
    · exact ⟨hp, from_cons.mpr (Nat.le_of_succ_le hj)⟩

/-- A search finds the node that it comes to, nothing of it, or what it finds below. -/
theorem exists_traced_here
    (h : ∃ ps, Traced c (Sought wanted stop c) ps (c.outermost wanted stop)) :
    ∃ ps, Traced c (Comes wanted stop c) ps (if c.kind ∈ wanted then [c]
      else if c.kind ∈ stop then [] else outermostAmong wanted stop c.children) := by
  by_cases hwanted : c.kind ∈ wanted
  · rw [if_pos hwanted]
    exact ⟨_, (traced_self c).congr fun p => by simp [Comes, hwanted]⟩
  · rw [if_neg hwanted]
    by_cases hstop : c.kind ∈ stop
    · rw [if_pos hstop]
      exact ⟨_, traced_nil fun p => by simp [Comes, hwanted, hstop]⟩
    · rw [if_neg hstop, ← outermost_eq]
      obtain ⟨ps, hps⟩ := h
      exact ⟨ps, hps.congr fun p => by simp [Comes, hwanted, hstop]⟩

mutual

theorem exists_traced : (n : Node) →
    ∃ ps, Traced n (Sought wanted stop n) ps (n.outermost wanted stop)
  | ⟨kind, startOffset, endOffset, startRow, endRow, text, isError, children⟩ => by
    obtain ⟨ps, hps⟩ := exists_traced_among children
      ⟨kind, startOffset, endOffset, startRow, endRow, text, isError, children⟩ [] rfl
    rw [outermost_eq]
    exact ⟨ps, hps.congr fun p => ⟨And.left, fun h => ⟨h, h.from_zero⟩⟩⟩

/-- The search among the last children of a node. The induction is on these; the paths are told from
the node, and `before` are its other children. -/
theorem exists_traced_among : (ns : List Node) → (n : Node) → (before : List Node) →
    n.children = before ++ ns →
    ∃ ps, Traced n (fun p => Sought wanted stop n p ∧ From before.length p) ps
      (outermostAmong wanted stop ns)
  | [], n, before, hn => by
    rw [outermostAmong_nil]
    refine ⟨[], traced_nil ?_⟩
    rintro p ⟨hp, j, q, rfl, hj⟩
    have hlt := hp.lt_length
    rw [hn, List.append_nil] at hlt
    exact absurd hlt (Nat.not_lt.mpr hj)
  | c :: ns, n, before, hn => by
    have hc : n.children[before.length]? = some c := by simp [hn]
    obtain ⟨ps, hps⟩ := exists_traced_here (exists_traced c)
    obtain ⟨qs, hqs⟩ := exists_traced_among ns n (before ++ [c]) (by simp [hn])
    rw [List.length_append, List.length_singleton] at hqs
    rw [outermostAmong_cons]
    refine ⟨_, ((hps.under hc).append hqs ?_).congr fun p => (sought_from_iff hc).symm⟩
    rintro p q ⟨r, -, rfl⟩ ⟨-, j, t, rfl, hj⟩
    exact List.cons_lt_cons_iff.mpr (.inl hj)

end

/-- Where a kind is wanted, it makes no difference that it is also one to stop at. -/
theorem outermost_stop_wanted {more : List String} (hmore : ∀ k ∈ more, k ∈ wanted) (n : Node) :
    n.outermost wanted (more ++ stop) = n.outermost wanted stop := by
  rw [outermost_eq_every, outermost_eq_every]
  refine every_congr fun v => ?_
  simp only [Visit.IsOutermost, Visit.Meets, List.mem_append, not_or]
  constructor
  · rintro ⟨⟨hnode, hstop⟩, hwanted⟩
    exact ⟨⟨hnode, fun k hk => (hstop k hk).2⟩, hwanted⟩
  · rintro ⟨⟨hnode, hstop⟩, hwanted⟩
    exact ⟨⟨hnode, fun k hk => ⟨fun h => hwanted k hk (hmore k h), hstop k hk⟩⟩, hwanted⟩

/-- A search for the kinds that a text spells finds what is at the paths that it is for, in document
order and each once, and none of these nodes is below another one. The kind of the node above them
makes no difference, and a kind to stop at makes none where it is wanted. -/
theorem outermost_traced (n : Node) (s : String) (stop : List String) :
    (∀ kinds, Spells s kinds ↔ kindsOf s = kinds) ∧
    (∃ ps, Traced n (Sought (kindsOf s) stop n) ps (n.outermost (kindsOf s) stop) ∧
      ∀ p ∈ ps, ∀ q ∈ ps, p <+: q → p = q) ∧
    (∀ kind, { n with kind := kind }.outermost (kindsOf s) stop =
      n.outermost (kindsOf s) stop) ∧
    ∀ more, (∀ k ∈ more, k ∈ kindsOf s) →
      n.outermost (kindsOf s) (more ++ stop) = n.outermost (kindsOf s) stop := by
  obtain ⟨ps, hps⟩ : ∃ ps, Traced n (Sought (kindsOf s) stop n) ps
      (n.outermost (kindsOf s) stop) := exists_traced n
  refine ⟨fun _ => spells_iff, ⟨ps, hps, fun p hp q hq => ?_⟩, fun kind => ?_,
    fun more hmore => outermost_stop_wanted hmore n⟩
  · exact ((hps.mem_iff p).mp hp).eq_of_isPrefix ((hps.mem_iff q).mp hq)
  · rw [outermost_eq, outermost_eq]

/-- In it an `a` is around a `b`, a `c` around an `a`, and a `d` around a `b`. -/
def nested : Node :=
  plain "a" "0" [plain "a" "1" [plain "b" "2" []], plain "c" "3" [plain "a" "4" []],
    plain "d" "5" [plain "b" "6" []]]

/-- A search for `a` and `b` that is told to stop at `c` finds two of them, and no others if it is
told to stop at `a` as well. -/
theorem outermost_traced_nested :
    (∃ ps, Traced nested (Sought (kindsOf "a|b") ["c"] nested) ps
      [plain "a" "1" [plain "b" "2" []], plain "b" "6" []]) ∧
    (∀ k ∈ ["a"], k ∈ kindsOf "a|b") ∧
    nested.outermost (kindsOf "a|b") ["a", "c"] =
      [plain "a" "1" [plain "b" "2" []], plain "b" "6" []] := by
  obtain ⟨-, ⟨ps, hps, -⟩, -, hmore⟩ := outermost_traced nested "a|b" ["c"]
  have hfound : nested.outermost (kindsOf "a|b") ["c"] =
      [plain "a" "1" [plain "b" "2" []], plain "b" "6" []] := rfl
  have hwanted : ∀ k ∈ ["a"], k ∈ kindsOf "a|b" := by decide +kernel
  rw [hfound] at hps
  exact ⟨⟨ps, hps⟩, hwanted, (hmore ["a"] hwanted).trans hfound⟩

end Node

end Scriptorium
