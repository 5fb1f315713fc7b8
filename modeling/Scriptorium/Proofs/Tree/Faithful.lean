import Mathlib.Data.List.Forall2
import Scriptorium.Proofs.Tree.Boundary

/-!
A parse is faithful to the tree that it was made of. The tree must be well placed: its nodes begin
and end between characters, and the children of a node lie in it, one behind the other. Then there
is a parse, its tree has the shape of the given one with the bytes counted as characters, and its
tokens are the leaves that are in the text, in their order and apart from each other.
-/

namespace Scriptorium
set_option autoImplicit false

namespace RawNode
open Text
variable {text : String} {a b : Int}

mutual

/-- A node is cut out between characters, and so is all that is below it; the children lie in it
and do not overlap. -/
def WellPlaced (cs : List Char) : RawNode → Prop
  | ⟨_, startByte, endByte, _, _, _, children⟩ =>
    (OnBoundary cs startByte ∧ OnBoundary cs endByte ∧ startByte ≤ endByte) ∧
      AreWellPlaced cs startByte endByte children

/-- Such nodes, one behind the other between two bytes. -/
def AreWellPlaced (cs : List Char) (first last : Int) : List RawNode → Prop
  | [] => True
  | n :: ns =>
    (first ≤ n.startByte ∧ n.endByte ≤ last) ∧ WellPlaced cs n ∧ AreWellPlaced cs n.endByte last ns

end

mutual

/-- The nodes without children, in document order. -/
def leaves : RawNode → List RawNode
  | ⟨kind, startByte, endByte, startRow, endRow, isMissing, []⟩ =>
    [⟨kind, startByte, endByte, startRow, endRow, isMissing, []⟩]
  | ⟨_, _, _, _, _, _, c :: children⟩ => leaves c ++ leavesOf children

def leavesOf : List RawNode → List RawNode
  | [] => []
  | n :: ns => leaves n ++ leavesOf ns

end

/-- A stretch of the text between two bytes, with its place among the characters. -/
structure Covering (cs : List Char) (startByte endByte startOffset endOffset : Int) (t : String) :
    Prop where
  first : startOffset = charsBefore cs startByte
  last : endOffset = charsBefore cs endByte
  slice : t.toList = (cs.take endOffset.toNat).drop startOffset.toNat
  written : bytes t.toList = ((bytes cs).take endByte.toNat).drop startByte.toNat

mutual

/-- The node of a parse says of the text what the given one says of its bytes. -/
def Faithful (cs : List Char) : RawNode → Node → Prop
  | ⟨kind, startByte, endByte, startRow, endRow, _, children⟩, m =>
    (m.kind = kind ∧ m.startRow = startRow ∧ m.endRow = endRow ∧
      Covering cs startByte endByte m.startOffset m.endOffset m.text) ∧
    AreFaithful cs children m.children

def AreFaithful (cs : List Char) : List RawNode → List Node → Prop
  | [], [] => True
  | n :: ns, m :: ms => Faithful cs n m ∧ AreFaithful cs ns ms
  | [], _ :: _ | _ :: _, [] => False

end

/-- The token of a leaf. -/
def Tells (cs : List Char) (l : RawNode) (t : Token) : Prop :=
  t.kind = l.kind ∧ Covering cs l.startByte l.endByte t.startOffset t.endOffset t.text

theorem covering (ha : OnBoundary text.toList a) (hb : OnBoundary text.toList b) (hab : a ≤ b) :
    Covering text.toList a b ((Source.ofString text).offset a) ((Source.ofString text).offset b)
      (String.ofList ((Source.ofString text).slice ((Source.ofString text).offset a)
        ((Source.ofString text).offset b))) where
  first := Source.offset_of_onBoundary ha
  last := Source.offset_of_onBoundary hb
  slice := by
    rw [String.toList_ofList, Source.slice_of_onBoundary ha hb, Source.offset_of_onBoundary ha,
      Source.offset_of_onBoundary hb]
    rfl
  written := by
    rw [String.toList_ofList, Source.slice_of_onBoundary ha hb, bytes_between ha hb hab]

mutual

theorem inside_of_wellPlaced : (n : RawNode) → n.WellPlaced text.toList →
    n.Inside (bytes text.toList).length
  | ⟨_, startByte, endByte, _, _, _, children⟩, hn => by
    unfold WellPlaced at hn
    obtain ⟨⟨hstart, hend, hle⟩, hchildren⟩ := hn
    unfold Inside
    exact ⟨⟨(Source.covers_of_onBoundary hstart).1, hle, (Source.covers_of_onBoundary hend).2⟩,
      areInside_of_areWellPlaced children hchildren⟩

theorem areInside_of_areWellPlaced : (ns : List RawNode) → {first last : Int} →
    AreWellPlaced text.toList first last ns → AreInside (bytes text.toList).length ns
  | [], _, _, _ => by
    unfold AreInside
    trivial
  | n :: ns, _, _, hns => by
    unfold AreWellPlaced at hns
    unfold AreInside
    exact ⟨inside_of_wellPlaced n hns.2.1, areInside_of_areWellPlaced ns hns.2.2⟩

end

mutual

theorem toNode_faithful : (n : RawNode) → n.WellPlaced text.toList →
    n.Faithful text.toList (n.toNode (.ofString text))
  | ⟨_, startByte, endByte, _, _, _, children⟩, hn => by
    unfold WellPlaced at hn
    obtain ⟨⟨hstart, hend, hle⟩, hchildren⟩ := hn
    unfold toNode Faithful
    exact ⟨⟨rfl, rfl, rfl, covering hstart hend hle⟩, toNodes_faithful children hchildren⟩

theorem toNodes_faithful : (ns : List RawNode) → {first last : Int} →
    AreWellPlaced text.toList first last ns →
    AreFaithful text.toList ns (toNodes (.ofString text) ns)
  | [], _, _, _ => by
    unfold toNodes AreFaithful
    trivial
  | n :: ns, _, _, hns => by
    unfold AreWellPlaced at hns
    unfold toNodes AreFaithful
    exact ⟨toNode_faithful n hns.2.1, toNodes_faithful ns hns.2.2⟩

end

mutual

theorem tokens_eq_map (src : Source) : (n : RawNode) →
    n.tokens src = (n.leaves.filter fun l => !l.isMissing).map (token src)
  | ⟨_, _, _, _, _, isMissing, []⟩ => by
    unfold tokens leaves
    cases isMissing with
    | true => rfl
    | false => rfl
  | ⟨_, _, _, _, _, _, c :: children⟩ => by
    unfold tokens leaves
    rw [tokens_eq_map src c, tokensOf_eq_map src children, List.filter_append, List.map_append]

theorem tokensOf_eq_map (src : Source) : (ns : List RawNode) →
    tokensOf src ns = ((leavesOf ns).filter fun l => !l.isMissing).map (token src)
  | [] => by
    unfold tokensOf leavesOf
    rfl
  | n :: ns => by
    unfold tokensOf leavesOf
    rw [tokens_eq_map src n, tokensOf_eq_map src ns, List.filter_append, List.map_append]

end

/-- The node is cut out between characters, and between two bytes. -/
structure Lies (cs : List Char) (first last : Int) (l : RawNode) : Prop where
  start : OnBoundary cs l.startByte
  stop : OnBoundary cs l.endByte
  le : l.startByte ≤ l.endByte
  after : first ≤ l.startByte
  before : l.endByte ≤ last

theorem Lies.mono {cs : List Char} {first last : Int} {l : RawNode} (hl : Lies cs a b l)
    (hfirst : first ≤ a) (hlast : b ≤ last) : Lies cs first last l :=
  { hl with
    after := Int.le_trans hfirst hl.after
    before := Int.le_trans hl.before hlast }

theorem WellPlaced.le {cs : List Char} {n : RawNode} (hn : n.WellPlaced cs) :
    n.startByte ≤ n.endByte := by
  cases n
  unfold WellPlaced at hn
  exact hn.1.2.2

mutual

theorem leaves_lie {cs : List Char} : (n : RawNode) → n.WellPlaced cs →
    ∀ l ∈ n.leaves, Lies cs n.startByte n.endByte l
  | ⟨_, _, _, _, _, _, []⟩, hn => by
    unfold WellPlaced at hn
    obtain ⟨⟨hstart, hend, hle⟩, -⟩ := hn
    unfold leaves
    intro l hl
    obtain rfl := List.mem_singleton.mp hl
    exact ⟨hstart, hend, hle, Int.le_refl _, Int.le_refl _⟩
  | ⟨_, _, _, _, _, _, c :: children⟩, hn => by
    unfold WellPlaced at hn
    exact leavesOf_lie (c :: children) hn.2

theorem leavesOf_lie {cs : List Char} : (ns : List RawNode) → {first last : Int} →
    AreWellPlaced cs first last ns → ∀ l ∈ leavesOf ns, Lies cs first last l
  | [], _, _, _ => by
    unfold leavesOf
    intro l hl
    cases hl
  | n :: ns, _, _, hns => by
    unfold AreWellPlaced at hns
    obtain ⟨⟨hfirst, hlast⟩, hn, hns⟩ := hns
    unfold leavesOf
    intro l hl
    rcases List.mem_append.mp hl with hl | hl
    · exact (leaves_lie n hn l hl).mono hfirst hlast
    · exact (leavesOf_lie ns hns l hl).mono (Int.le_trans hfirst hn.le) (Int.le_refl _)

end

mutual

theorem leaves_apart {cs : List Char} : (n : RawNode) → n.WellPlaced cs →
    n.leaves.Pairwise fun k l => k.endByte ≤ l.startByte
  | ⟨_, _, _, _, _, _, []⟩, _ => by
    unfold leaves
    exact List.pairwise_singleton _ _
  | ⟨_, _, _, _, _, _, c :: children⟩, hn => by
    unfold WellPlaced at hn
    exact leavesOf_apart (c :: children) hn.2

theorem leavesOf_apart {cs : List Char} : (ns : List RawNode) → {first last : Int} →
    AreWellPlaced cs first last ns → (leavesOf ns).Pairwise fun k l => k.endByte ≤ l.startByte
  | [], _, _, _ => by
    unfold leavesOf
    exact .nil
  | n :: ns, _, _, hns => by
    unfold AreWellPlaced at hns
    obtain ⟨-, hn, hns⟩ := hns
    unfold leavesOf
    refine List.pairwise_append.mpr ⟨leaves_apart n hn, leavesOf_apart ns hns, ?_⟩
    intro k hk l hl
    exact Int.le_trans (leaves_lie n hn k hk).before (leavesOf_lie ns hns l hl).after

end

/-- The tokens are told by the leaves that are in the text. -/
theorem tokens_tell {n : RawNode} (hn : n.WellPlaced text.toList) :
    List.Forall₂ (Tells text.toList) (n.leaves.filter fun l => !l.isMissing)
      (n.tokens (.ofString text)) := by
  rw [tokens_eq_map, List.forall₂_map_right_iff, List.forall₂_same]
  intro l hl
  have hlies := leaves_lie n hn l (List.mem_of_mem_filter hl)
  exact ⟨rfl, covering hlies.start hlies.stop hlies.le⟩

theorem tokens_apart {n : RawNode} (hn : n.WellPlaced text.toList) :
    (n.tokens (.ofString text)).Pairwise fun t u => t.endOffset ≤ u.startOffset := by
  rw [tokens_eq_map, List.pairwise_map]
  refine List.Pairwise.imp_of_mem ?_ ((leaves_apart n hn).filter _)
  intro k l hk hl hkl
  have hstop := (leaves_lie n hn k (List.mem_of_mem_filter hk)).stop
  have hstart := (leaves_lie n hn l (List.mem_of_mem_filter hl)).start
  exact Source.offset_le_offset (Source.covers_of_onBoundary hstop).1 hkl
    (Source.covers_of_onBoundary hstart)

end RawNode

namespace Parse
open RawNode
variable {parser : Parser} {text : String} {root : RawNode}

/-- A well placed tree has a parse, which is faithful to it. -/
theorem ofText_faithful (hroot : parser text = some root) (hplaced : root.WellPlaced text.toList) :
    ∃ p, ofText parser text = .ok p ∧ root.Faithful text.toList p.tree ∧
      List.Forall₂ (Tells text.toList) (root.leaves.filter fun l => !l.isMissing) p.tokens ∧
      p.tokens.Pairwise fun t u => t.endOffset ≤ u.startOffset :=
  ⟨_, ofText_of_inside hroot (inside_of_wellPlaced root hplaced), toNode_faithful root hplaced,
    tokens_tell hplaced, tokens_apart hplaced⟩

/-- A tree of `é😀b`, whose characters have two, four and one bytes; a bracket is missing. -/
def wide : RawNode :=
  ⟨"program", 0, 7, 0, 1, false,
    [⟨"word", 0, 6, 0, 0, false,
        [⟨"letter", 0, 2, 0, 0, false, []⟩, ⟨"sign", 2, 6, 0, 0, false, []⟩]⟩,
      ⟨")", 6, 6, 0, 0, true, []⟩, ⟨"letter", 6, 7, 0, 1, false, []⟩]⟩

theorem ofText_faithful_wide :
    wide.WellPlaced "é😀b".toList ∧
    wide.tokens (.ofString "é😀b") =
      [⟨"letter", "é", 0, 1⟩, ⟨"sign", "😀", 1, 2⟩, ⟨"letter", "b", 2, 3⟩] ∧
    ∃ p, ofText (fun _ => some wide) "é😀b" = .ok p ∧ wide.Faithful "é😀b".toList p.tree ∧
      List.Forall₂ (Tells "é😀b".toList) (wide.leaves.filter fun l => !l.isMissing) p.tokens ∧
      p.tokens.Pairwise fun t u => t.endOffset ≤ u.startOffset := by
  have hplaced : wide.WellPlaced "é😀b".toList := by
    simp only [wide, WellPlaced, AreWellPlaced]
    decide +kernel
  exact ⟨hplaced, by decide +kernel, ofText_faithful rfl hplaced⟩

end Parse

end Scriptorium
