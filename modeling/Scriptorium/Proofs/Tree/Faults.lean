import Scriptorium.Proofs.Tree.Boundary

/-!
The faults of a tree, and what a parse reports of them: one diagnostic for each fault that is not
below another, in document order. So a parse has errors just if some node of its tree is marked as
one. Where the children of every node lie in it, one behind the other, the spans of the diagnostics
are in the text, do not overlap, and cover every node that is marked.
-/

namespace Scriptorium
set_option autoImplicit false

namespace Node

mutual

/-- All nodes of a tree, each before those below it. -/
def nodes : Node → List Node
  | ⟨kind, startOffset, endOffset, startRow, endRow, text, isError, children⟩ =>
    ⟨kind, startOffset, endOffset, startRow, endRow, text, isError, children⟩ :: nodesOf children

def nodesOf : List Node → List Node
  | [] => []
  | n :: ns => nodes n ++ nodesOf ns

end

theorem nodes_eq (n : Node) : n.nodes = n :: nodesOf n.children := by
  cases n
  rw [nodes]

end Node

namespace RawNode
variable {text : String}

/-- A node where it stands in a tree: with the nodes it is below, the nearest first. -/
structure Visit where
  node : RawNode
  above : List RawNode

namespace Visit

/-- A fault that is below no other. -/
def IsOutermost (v : Visit) : Prop := v.node.isFault = true ∧ ∀ a ∈ v.above, a.isFault = false

instance (v : Visit) : Decidable v.IsOutermost := by unfold IsOutermost; infer_instance

end Visit

mutual

/-- The nodes of a tree where they stand, each before those below it. -/
def visits (above : List RawNode) : RawNode → List Visit
  | ⟨kind, startByte, endByte, startRow, endRow, isMissing, children⟩ =>
    let n : RawNode := ⟨kind, startByte, endByte, startRow, endRow, isMissing, children⟩
    ⟨n, above⟩ :: visitsOf (n :: above) children

def visitsOf (above : List RawNode) : List RawNode → List Visit
  | [] => []
  | n :: ns => visits above n ++ visitsOf above ns

end

mutual

/-- The children of a node lie in it, one behind the other, and so on below. -/
def Nested : RawNode → Prop
  | ⟨_, startByte, endByte, _, _, _, children⟩ => AreNested startByte endByte children

def AreNested (first last : Int) : List RawNode → Prop
  | [] => True
  | n :: ns => (first ≤ n.startByte ∧ n.endByte ≤ last) ∧ Nested n ∧ AreNested n.endByte last ns

end

theorem visits_eq (above : List RawNode) (n : RawNode) :
    n.visits above = ⟨n, above⟩ :: visitsOf (n :: above) n.children := by
  cases n
  rw [visits]

theorem diagnostics_eq (src : Source) (n : RawNode) :
    n.diagnostics src =
      if n.isFault then [n.diagnostic src] else diagnosticsOf src n.children := by
  cases n
  rw [diagnostics]
  rfl

section ToNode
variable (src : Source) (n : RawNode)

@[simp] theorem isError_toNode : (n.toNode src).isError = n.isFault := by
  cases n
  rw [toNode]
  rfl

@[simp] theorem startOffset_toNode : (n.toNode src).startOffset = src.offset n.startByte := by
  cases n
  rw [toNode]

@[simp] theorem endOffset_toNode : (n.toNode src).endOffset = src.offset n.endByte := by
  cases n
  rw [toNode]

@[simp] theorem children_toNode : (n.toNode src).children = toNodes src n.children := by
  cases n
  rw [toNode]

end ToNode

mutual

theorem above_of_mem_visits {a : RawNode} : (n : RawNode) → {above : List RawNode} → a ∈ above →
    ∀ v ∈ n.visits above, a ∈ v.above
  | ⟨_, _, _, _, _, _, children⟩, _, ha => by
    intro v hv
    rw [visits_eq] at hv
    rcases List.mem_cons.mp hv with rfl | hv
    · exact ha
    · exact above_of_mem_visitsOf children (List.mem_cons_of_mem _ ha) v hv

theorem above_of_mem_visitsOf {a : RawNode} : (ns : List RawNode) → {above : List RawNode} →
    a ∈ above → ∀ v ∈ visitsOf above ns, a ∈ v.above
  | [], _, _ => by
    intro v hv
    unfold visitsOf at hv
    cases hv
  | n :: ns, _, ha => by
    intro v hv
    unfold visitsOf at hv
    rcases List.mem_append.mp hv with hv | hv
    · exact above_of_mem_visits n ha v hv
    · exact above_of_mem_visitsOf ns ha v hv

end

theorem visitsOf_below_fault {a : RawNode} (hfault : a.isFault = true) (ns above : List RawNode) :
    (visitsOf (a :: above) ns).filter (fun v => v.IsOutermost) = [] := by
  apply List.filter_eq_nil_iff.mpr
  intro v hv hout
  have habove := above_of_mem_visitsOf ns List.mem_cons_self v hv
  have hnone := (of_decide_eq_true hout).2 a habove
  rw [hfault] at hnone
  cases hnone

mutual

/-- Below nodes that are no faults, what is reported of a tree are its outermost faults. -/
theorem diagnostics_eq_visits (src : Source) : (n : RawNode) → (above : List RawNode) →
    (∀ a ∈ above, a.isFault = false) →
    n.diagnostics src =
      ((n.visits above).filter fun v => v.IsOutermost).map fun v => v.node.diagnostic src
  | ⟨kind, startByte, endByte, startRow, endRow, isMissing, children⟩, above, habove => by
    rw [diagnostics_eq, visits_eq, List.filter_cons]
    split
    · rename_i hfault
      rw [if_pos (decide_eq_true ⟨hfault, habove⟩), visitsOf_below_fault hfault]
      rfl
    · rename_i hsound
      rw [if_neg fun hout => hsound (of_decide_eq_true hout).1]
      apply diagnosticsOf_eq_visitsOf src children _
      intro a ha
      rcases List.mem_cons.mp ha with rfl | ha
      · exact Bool.eq_false_iff.mpr hsound
      · exact habove a ha

theorem diagnosticsOf_eq_visitsOf (src : Source) : (ns above : List RawNode) →
    (∀ a ∈ above, a.isFault = false) →
    diagnosticsOf src ns =
      ((visitsOf above ns).filter fun v => v.IsOutermost).map fun v => v.node.diagnostic src
  | [], _, _ => by
    unfold diagnosticsOf visitsOf
    rfl
  | n :: ns, above, habove => by
    unfold diagnosticsOf visitsOf
    rw [diagnostics_eq_visits src n above habove, diagnosticsOf_eq_visitsOf src ns above habove,
      List.filter_append, List.map_append]

end

mutual

theorem diagnostics_eq_nil_iff (src : Source) : (n : RawNode) →
    (n.diagnostics src = [] ↔ ∀ m ∈ (n.toNode src).nodes, m.isError = false)
  | ⟨kind, startByte, endByte, startRow, endRow, isMissing, children⟩ => by
    rw [diagnostics_eq, Node.nodes_eq, List.forall_mem_cons, isError_toNode, children_toNode,
      ← diagnosticsOf_eq_nil_iff src children]
    split
    · rename_i hfault
      simp [hfault]
    · rename_i hsound
      simp [hsound]

theorem diagnosticsOf_eq_nil_iff (src : Source) : (ns : List RawNode) →
    (diagnosticsOf src ns = [] ↔ ∀ m ∈ Node.nodesOf (toNodes src ns), m.isError = false)
  | [] => by
    unfold diagnosticsOf toNodes Node.nodesOf
    simp
  | n :: ns => by
    unfold diagnosticsOf toNodes Node.nodesOf
    rw [List.append_eq_nil_iff, List.forall_mem_append, diagnostics_eq_nil_iff src n,
      diagnosticsOf_eq_nil_iff src ns]

end

theorem exists_error_iff (src : Source) (n : RawNode) :
    (∃ m ∈ (n.toNode src).nodes, m.isError = true) ↔ n.diagnostics src ≠ [] := by
  rw [Ne, diagnostics_eq_nil_iff]
  simp

mutual

theorem nodes_toNode (src : Source) : (n : RawNode) → (above : List RawNode) →
    (n.toNode src).nodes = (n.visits above).map fun v => v.node.toNode src
  | ⟨kind, startByte, endByte, startRow, endRow, isMissing, children⟩, above => by
    rw [Node.nodes_eq, visits_eq, children_toNode, nodesOf_toNodes src children, List.map_cons]

theorem nodesOf_toNodes (src : Source) : (ns above : List RawNode) →
    Node.nodesOf (toNodes src ns) = (visitsOf above ns).map fun v => v.node.toNode src
  | [], _ => by
    unfold toNodes Node.nodesOf visitsOf
    rfl
  | n :: ns, above => by
    unfold toNodes Node.nodesOf visitsOf
    rw [nodes_toNode src n above, nodesOf_toNodes src ns above, List.map_append]

end

section Order
variable {size : Nat} {first last : Int}

theorem Inside.bounds {n : RawNode} (hn : n.Inside size) :
    0 ≤ n.startByte ∧ n.startByte ≤ n.endByte ∧ n.endByte ≤ size := by
  cases n
  unfold Inside at hn
  exact hn.1

theorem Inside.children {n : RawNode} (hn : n.Inside size) : AreInside size n.children := by
  cases n
  unfold Inside at hn
  exact hn.2

theorem Nested.children {n : RawNode} (hn : n.Nested) :
    AreNested n.startByte n.endByte n.children := by
  cases n
  unfold Nested at hn
  exact hn

/-- The node begins and ends between two bytes. -/
structure Between (first last : Int) (n : RawNode) : Prop where
  after : first ≤ n.startByte
  le : n.startByte ≤ n.endByte
  before : n.endByte ≤ last

mutual

theorem visits_between : (n : RawNode) → (above : List RawNode) → n.Inside size → n.Nested →
    ∀ v ∈ n.visits above, Between n.startByte n.endByte v.node
  | ⟨kind, startByte, endByte, startRow, endRow, isMissing, children⟩, above, hin, hnest => by
    intro v hv
    rw [visits_eq] at hv
    rcases List.mem_cons.mp hv with rfl | hv
    · exact ⟨Int.le_refl _, hin.bounds.2.1, Int.le_refl _⟩
    · exact visitsOf_between children _ hin.children hnest.children v hv

theorem visitsOf_between : (ns above : List RawNode) → {first last : Int} → AreInside size ns →
    AreNested first last ns → ∀ v ∈ visitsOf above ns, Between first last v.node
  | [], _, _, _, _, _ => by
    intro v hv
    unfold visitsOf at hv
    cases hv
  | n :: ns, above, first, last, hin, hnest => by
    unfold AreInside at hin
    unfold AreNested at hnest
    obtain ⟨⟨hfirst, hlast⟩, hnest, hrest⟩ := hnest
    have hle := hin.1.bounds.2.1
    intro v hv
    unfold visitsOf at hv
    rcases List.mem_append.mp hv with hv | hv
    · obtain ⟨hafter, hvle, hbefore⟩ := visits_between n above hin.1 hnest v hv
      exact ⟨by omega, hvle, by omega⟩
    · obtain ⟨hafter, hvle, hbefore⟩ := visitsOf_between ns above hin.2 hrest v hv
      exact ⟨by omega, hvle, hbefore⟩

end

mutual

theorem outermost_apart : (n : RawNode) → (above : List RawNode) → n.Inside size → n.Nested →
    ((n.visits above).filter fun v => v.IsOutermost).Pairwise fun v w =>
      v.node.endByte ≤ w.node.startByte
  | ⟨kind, startByte, endByte, startRow, endRow, isMissing, children⟩, above, hin, hnest => by
    rw [visits_eq, List.filter_cons]
    split
    · rename_i hout
      rw [visitsOf_below_fault (of_decide_eq_true hout).1]
      exact List.pairwise_singleton _ _
    · exact outermostOf_apart children _ hin.children hnest.children

theorem outermostOf_apart : (ns above : List RawNode) → {first last : Int} → AreInside size ns →
    AreNested first last ns →
    ((visitsOf above ns).filter fun v => v.IsOutermost).Pairwise fun v w =>
      v.node.endByte ≤ w.node.startByte
  | [], _, _, _, _, _ => by
    unfold visitsOf
    exact .nil
  | n :: ns, above, first, last, hin, hnest => by
    unfold AreInside at hin
    unfold AreNested at hnest
    obtain ⟨-, hnest, hrest⟩ := hnest
    unfold visitsOf
    rw [List.filter_append, List.pairwise_append]
    refine ⟨outermost_apart n above hin.1 hnest, outermostOf_apart ns above hin.2 hrest, ?_⟩
    intro v hv w hw
    have hbefore := (visits_between n above hin.1 hnest v (List.mem_of_mem_filter hv)).before
    have hafter := (visitsOf_between ns above hin.2 hrest w (List.mem_of_mem_filter hw)).after
    exact Int.le_trans hbefore hafter

end

mutual

/-- The outermost fault around a fault is the fault itself or a node above it. -/
theorem exists_outermost : (n : RawNode) → {above : List RawNode} → n.Inside size → n.Nested →
    (∀ a ∈ above, a.isFault = false) → ∀ v ∈ n.visits above, v.node.isFault = true →
    ∃ w ∈ n.visits above, w.IsOutermost ∧ Between w.node.startByte w.node.endByte v.node
  | ⟨kind, startByte, endByte, startRow, endRow, isMissing, children⟩, above, hin, hnest,
      habove => by
    intro v hv hfault
    have hbetween := visits_between _ above hin hnest v hv
    rw [visits_eq] at hv ⊢
    by_cases hroot : isFault ⟨kind, startByte, endByte, startRow, endRow, isMissing, children⟩
    · exact ⟨_, List.mem_cons_self, ⟨hroot, habove⟩, hbetween⟩
    · rcases List.mem_cons.mp hv with rfl | hv
      · exact absurd hfault hroot
      · obtain ⟨w, hw, hout⟩ := exists_outermostOf children hin.children hnest.children
          (List.forall_mem_cons.mpr ⟨Bool.eq_false_iff.mpr hroot, habove⟩) v hv hfault
        exact ⟨w, List.mem_cons_of_mem _ hw, hout⟩

theorem exists_outermostOf : (ns : List RawNode) → {above : List RawNode} → {first last : Int} →
    AreInside size ns → AreNested first last ns → (∀ a ∈ above, a.isFault = false) →
    ∀ v ∈ visitsOf above ns, v.node.isFault = true →
    ∃ w ∈ visitsOf above ns, w.IsOutermost ∧ Between w.node.startByte w.node.endByte v.node
  | [], _, _, _, _, _, _ => by
    intro v hv
    unfold visitsOf at hv
    cases hv
  | n :: ns, above, first, last, hin, hnest, habove => by
    unfold AreInside at hin
    unfold AreNested at hnest
    intro v hv hfault
    unfold visitsOf at hv ⊢
    rcases List.mem_append.mp hv with hv | hv
    · obtain ⟨w, hw, hout⟩ := exists_outermost n hin.1 hnest.2.1 habove v hv hfault
      exact ⟨w, List.mem_append_left _ hw, hout⟩
    · obtain ⟨w, hw, hout⟩ := exists_outermostOf ns hin.2 hnest.2.2 habove v hv hfault
      exact ⟨w, List.mem_append_right _ hw, hout⟩

end

end Order

section Reported
variable {n : RawNode}

theorem diagnostics_eq_outermost (src : Source) (n : RawNode) :
    n.diagnostics src =
      ((n.visits []).filter fun v => v.IsOutermost).map fun v => v.node.diagnostic src := by
  apply diagnostics_eq_visits
  intro a ha
  cases ha

theorem mem_diagnostics_iff {src : Source} {d : Diagnostic} :
    d ∈ n.diagnostics src ↔ ∃ v ∈ n.visits [], v.IsOutermost ∧ v.node.diagnostic src = d := by
  rw [diagnostics_eq_outermost]
  simp [and_assoc]

/-- Where a stretch of bytes lies in another one, so do the characters. -/
theorem Between.offsets {m : RawNode} {first last : Int} (hm : Between first last m)
    (hfirst : 0 ≤ first) (hlast : last ≤ (Text.bytes text.toList).length) :
    (Source.ofString text).offset first ≤ (Source.ofString text).offset m.startByte ∧
      (Source.ofString text).offset m.startByte ≤ (Source.ofString text).offset m.endByte ∧
      (Source.ofString text).offset m.endByte ≤ (Source.ofString text).offset last := by
  obtain ⟨hafter, hle, hbefore⟩ := hm
  refine ⟨?_, ?_, ?_⟩
  · exact Source.offset_le_offset hfirst hafter ⟨by omega, by omega⟩
  · exact Source.offset_le_offset (by omega) hle ⟨by omega, by omega⟩
  · exact Source.offset_le_offset (by omega) hbefore ⟨by omega, hlast⟩

theorem stop_diagnostic (src : Source) (n : RawNode) :
    (n.diagnostic src).startOffset + (n.diagnostic src).length = src.offset n.endByte := by
  change src.offset n.startByte + (src.offset n.endByte - src.offset n.startByte) = _
  omega

theorem offset_size (text : String) :
    (Source.ofString text).offset (Text.bytes text.toList).length = text.length := by
  rw [Source.offset_of_covers ⟨Int.natCast_nonneg _, Int.le_refl _⟩, Text.charsBefore_all,
    String.length_toList]

end Reported

end RawNode

namespace Parse
open RawNode
variable {parser : Parser} {text : String} {root : RawNode}

/-- The diagnostics lie in the text, one behind the other, and cover all that is marked. -/
structure Orderly (text : String) (p : Parse) : Prop where
  apart : p.diagnostics.Pairwise fun d e =>
    d.startOffset ≤ e.startOffset ∧ d.startOffset + d.length ≤ e.startOffset
  inText : ∀ d ∈ p.diagnostics,
    0 ≤ d.startOffset ∧ 0 ≤ d.length ∧ d.startOffset + d.length ≤ text.length
  covered : ∀ m ∈ p.tree.nodes, m.isError = true → ∃ d ∈ p.diagnostics,
    d.startOffset ≤ m.startOffset ∧ m.endOffset ≤ d.startOffset + d.length

theorem orderly_of_nested (hin : root.Inside (Text.bytes text.toList).length)
    (hnest : root.Nested) : (ofRaw text root).Orderly text := by
  have hbounds := hin.bounds
  -- in bytes every node is inside of the text
  have hbytes : ∀ v ∈ root.visits [],
      Between 0 (Text.bytes text.toList).length v.node := by
    intro v hv
    obtain ⟨hafter, hle, hbefore⟩ := visits_between root [] hin hnest v hv
    exact ⟨by omega, hle, by omega⟩
  refine ⟨?_, ?_, ?_⟩
  · rw [diagnostics_ofRaw, diagnostics_eq_outermost, List.pairwise_map]
    refine List.Pairwise.imp_of_mem ?_ (outermost_apart root [] hin hnest)
    intro v w hv hw hvw
    obtain ⟨hvfirst, hvle, hvlast⟩ := hbytes v (List.mem_of_mem_filter hv)
    obtain ⟨hwfirst, hwle, hwlast⟩ := hbytes w (List.mem_of_mem_filter hw)
    have hstart : (Source.ofString text).offset v.node.startByte ≤
        (Source.ofString text).offset v.node.endByte :=
      Source.offset_le_offset hvfirst hvle ⟨by omega, hvlast⟩
    have hapart : (Source.ofString text).offset v.node.endByte ≤
        (Source.ofString text).offset w.node.startByte :=
      Source.offset_le_offset (by omega) hvw ⟨hwfirst, by omega⟩
    rw [stop_diagnostic]
    exact ⟨Int.le_trans hstart hapart, hapart⟩
  · intro d hd
    rw [diagnostics_ofRaw] at hd
    obtain ⟨v, hv, -, rfl⟩ := mem_diagnostics_iff.mp hd
    obtain ⟨hfirst, hle, hlast⟩ := (hbytes v hv).offsets (Int.le_refl 0) (Int.le_refl _)
    rw [offset_size] at hlast
    rw [stop_diagnostic]
    refine ⟨Source.offset_nonneg _ (hbytes v hv).after, ?_, hlast⟩
    exact Int.sub_nonneg.mpr hle
  · intro m hm herror
    change m ∈ (root.toNode (.ofString text)).nodes at hm
    rw [nodes_toNode _ root []] at hm
    obtain ⟨v, hv, rfl⟩ := List.mem_map.mp hm
    rw [isError_toNode] at herror
    have hnone : ∀ a ∈ ([] : List RawNode), a.isFault = false := nofun
    obtain ⟨w, hw, hout, hbetween⟩ := exists_outermost root hin hnest hnone v hv herror
    have hoffsets := hbetween.offsets (hbytes w hw).after (hbytes w hw).before
    rw [diagnostics_ofRaw]
    refine ⟨w.node.diagnostic (.ofString text), mem_diagnostics_iff.mpr ⟨w, hw, hout, rfl⟩, ?_, ?_⟩
    · rw [startOffset_toNode]
      exact hoffsets.1
    · rw [endOffset_toNode, stop_diagnostic]
      exact hoffsets.2.2

/-- A tree inside of the text has a parse, whose diagnostics are those of the outermost faults in
document order; there are some just if a node is marked. -/
theorem ofText_faults (hroot : parser text = some root)
    (hin : root.Inside (Text.bytes text.toList).length) :
    ∃ p, ofText parser text = .ok p ∧
      p.diagnostics = ((root.visits []).filter fun v => v.IsOutermost).map
        (fun v => v.node.diagnostic (.ofString text)) ∧
      (p.hasErrors = true ↔ ∃ m ∈ p.tree.nodes, m.isError = true) ∧
      (root.Nested → p.Orderly text) := by
  have hreported := diagnostics_ofRaw text root
  refine ⟨_, ofText_of_inside hroot hin, hreported.trans (diagnostics_eq_outermost _ root), ?_,
    orderly_of_nested hin⟩
  rw [hasErrors, hreported,
    show (ofRaw text root).tree = root.toNode (.ofString text) from rfl, exists_error_iff]
  simp

/-- A tree of `é(abc`: within a fault there is another one, and a bracket is missing behind it. -/
def broken : RawNode :=
  ⟨"program", 0, 6, 0, 0, false,
    [⟨"ERROR", 0, 3, 0, 0, false,
        [⟨"letter", 0, 2, 0, 0, false, []⟩, ⟨"ERROR", 2, 3, 0, 0, false, []⟩]⟩,
      ⟨"block", 3, 6, 0, 0, false,
        [⟨"word", 3, 6, 0, 0, false, []⟩, ⟨")", 6, 6, 0, 0, true, []⟩]⟩]⟩

theorem ofText_faults_broken :
    broken.Inside (Text.bytes "é(abc".toList).length ∧ broken.Nested ∧
    broken.diagnostics (.ofString "é(abc") =
      [⟨0, 2, 1, "Unexpected 'é('"⟩, ⟨5, 0, 1, "Missing ')'"⟩] ∧
    ∃ p, ofText (fun _ => some broken) "é(abc" = .ok p ∧
      p.diagnostics = ((broken.visits []).filter fun v => v.IsOutermost).map
        (fun v => v.node.diagnostic (.ofString "é(abc")) ∧
      (p.hasErrors = true ↔ ∃ m ∈ p.tree.nodes, m.isError = true) ∧ p.Orderly "é(abc" := by
  have hin : broken.Inside (Text.bytes "é(abc".toList).length := by
    simp only [broken, Inside, AreInside]
    decide +kernel
  have hnest : broken.Nested := by
    simp only [broken, Nested, AreNested]
    decide +kernel
  obtain ⟨p, hp, hdiagnostics, herrors, horderly⟩ :=
    @ofText_faults (fun _ => some broken) "é(abc" broken rfl hin
  exact ⟨hin, hnest, by decide +kernel, p, hp, hdiagnostics, herrors, horderly hnest⟩

end Parse

end Scriptorium
