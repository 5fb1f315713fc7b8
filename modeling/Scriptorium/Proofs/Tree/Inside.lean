import Scriptorium.Margin.Reconcile
import Scriptorium.Tree.Parse

/-!
Trees whose nodes lie inside of the text, as the parser counts it: in bytes. There is a parse for
every such tree, and since no byte belongs to a later character than the next one does, each of its
diagnostics covers a proper span.
-/

namespace Scriptorium
set_option autoImplicit false

namespace Text
variable {n k : Nat} {cs : List Char}

theorem length_bytes (cs : List Char) : (bytes cs).length = byteLength cs := by
  induction cs with
  | nil => rfl
  | cons c cs ih =>
    have hcons : bytes (c :: cs) = String.utf8EncodeChar c ++ bytes cs := rfl
    rw [hcons, List.length_append, String.length_utf8EncodeChar, ih, byteLength]

theorem length_offsetTable (n : Nat) (cs : List Char) :
    (offsetTable n cs).length = byteLength cs + 1 := by
  induction cs generalizing n with
  | nil => rfl
  | cons c cs ih =>
    rw [offsetTable, List.length_append, List.length_replicate, ih, byteLength, Nat.add_assoc]

theorem le_of_mem_offsetTable (hk : k ∈ offsetTable n cs) : n ≤ k := by
  induction cs generalizing n with
  | nil =>
    obtain rfl := List.mem_singleton.mp hk
    exact Nat.le_refl _
  | cons c cs ih =>
    rcases List.mem_append.mp hk with hk | hk
    · exact Nat.le_of_eq (List.eq_of_mem_replicate hk).symm
    · exact Nat.le_of_succ_le (ih hk)

theorem offsetTable_pairwise (n : Nat) (cs : List Char) :
    (offsetTable n cs).Pairwise (· ≤ ·) := by
  induction cs generalizing n with
  | nil => exact List.pairwise_singleton _ _
  | cons c cs ih =>
    apply List.pairwise_append.mpr
    refine ⟨List.pairwise_replicate.mpr (.inr (Nat.le_refl n)), ih (n + 1), ?_⟩
    intro k hk l hl
    rw [List.eq_of_mem_replicate hk]
    exact Nat.le_of_succ_le (le_of_mem_offsetTable hl)

end Text

namespace Source
variable {text : String} {a b : Int}

/-- A byte between the first one and the end of the text. -/
def Covers (text : String) (b : Int) : Prop := 0 ≤ b ∧ b ≤ (Text.bytes text.toList).length

theorem table_ofString {t : List Nat} (ht : t ∈ (ofString text).table) :
    t = Text.offsetTable 0 text.toList := by
  change t ∈ Text.byteOffsets? text.toList at ht
  unfold Text.byteOffsets? at ht
  split at ht
  · cases ht
  · exact (Option.mem_some.mp ht).symm

theorem length_table {t : List Nat} (ht : t ∈ (ofString text).table) :
    (t.length : Int) = (Text.bytes text.toList).length + 1 := by
  rw [table_ofString ht, Text.length_offsetTable, Text.length_bytes]
  rfl

theorem knows_of_covers (hb : Covers text b) : (ofString text).Knows b := by
  obtain ⟨hlow, hhigh⟩ := hb
  intro t ht
  have hlength := length_table ht
  rw [fromEnd_of_nonneg hlow]
  omega

/-- The characters are counted through the bytes of the text. -/
theorem offset_le_offset (ha : 0 ≤ a) (hab : a ≤ b) (hb : Covers text b) :
    (ofString text).offset a ≤ (ofString text).offset b := by
  unfold offset
  cases ht : (ofString text).table with
  | none => exact hab
  | some t =>
    have hmem : t ∈ (ofString text).table := ht
    have hlength := length_table hmem
    obtain ⟨hlow, hhigh⟩ := hb
    have hbt : b.toNat < t.length := by omega
    have hat : a.toNat < t.length := by omega
    have hsorted : t.Pairwise (· ≤ ·) := by
      rw [table_ofString hmem]
      exact Text.offsetTable_pairwise _ _
    dsimp only [Text.charOffset]
    rw [fromEnd_of_nonneg ha, fromEnd_of_nonneg hlow, List.getD_eq_getElem?_getD,
      List.getD_eq_getElem?_getD, List.getElem?_eq_getElem hat, List.getElem?_eq_getElem hbt]
    apply Int.ofNat_le.mpr
    rcases Nat.lt_or_eq_of_le (Int.toNat_le_toNat hab) with hlt | heq
    · exact List.pairwise_iff_getElem.mp hsorted _ _ hat hbt hlt
    · simp only [heq, Nat.le_refl]

theorem offset_nonneg (src : Source) (ha : 0 ≤ a) : 0 ≤ src.offset a := by
  unfold offset
  split
  · exact ha
  · exact Int.natCast_nonneg _

end Source

namespace RawNode
variable {text : String}

mutual

/-- A node and all that is below it begin and end inside of a text of so many bytes, and none ends
before it begins. -/
def Inside (size : Nat) : RawNode → Prop
  | ⟨_, startByte, endByte, _, _, _, children⟩ =>
    (0 ≤ startByte ∧ startByte ≤ endByte ∧ endByte ≤ size) ∧ AreInside size children

def AreInside (size : Nat) : List RawNode → Prop
  | [] => True
  | n :: ns => Inside size n ∧ AreInside size ns

end

mutual

theorem isWithin_of_inside : (n : RawNode) → n.Inside (Text.bytes text.toList).length →
    n.isWithin (.ofString text) = true
  | ⟨_, startByte, endByte, _, _, _, children⟩, hn => by
    unfold Inside at hn
    obtain ⟨⟨hstart, hle, hend⟩, hchildren⟩ := hn
    have hfirst : (Source.ofString text).Knows startByte :=
      Source.knows_of_covers ⟨hstart, by omega⟩
    have hlast : (Source.ofString text).Knows endByte :=
      Source.knows_of_covers ⟨by omega, hend⟩
    unfold isWithin
    rw [areWithin_of_areInside children hchildren]
    simp [hfirst, hlast]

theorem areWithin_of_areInside : (ns : List RawNode) →
    AreInside (Text.bytes text.toList).length ns → areWithin (.ofString text) ns = true
  | [], _ => by
    unfold areWithin
    rfl
  | n :: ns, hns => by
    unfold AreInside at hns
    unfold areWithin
    rw [isWithin_of_inside n hns.1, areWithin_of_areInside ns hns.2]
    rfl

end

mutual

/-- One diagnostic for each fault that is not below another, in document order: below a fault there
is nothing to look for. -/
def diagnostics (src : Source) : RawNode → List Diagnostic
  | ⟨kind, startByte, endByte, startRow, endRow, isMissing, children⟩ =>
    let n : RawNode := ⟨kind, startByte, endByte, startRow, endRow, isMissing, []⟩
    if n.isFault then [n.diagnostic src] else diagnosticsOf src children

def diagnosticsOf (src : Source) : List RawNode → List Diagnostic
  | [] => []
  | n :: ns => diagnostics src n ++ diagnosticsOf src ns

end

mutual

theorem reports_inside (src : Source) : (n : RawNode) → n.reports src true = []
  | ⟨_, _, _, _, _, _, children⟩ => by
    rw [reports, Bool.not_true, Bool.and_false, Bool.true_or, if_neg Bool.false_ne_true,
      List.nil_append, reportsOf_inside src children]

theorem reportsOf_inside (src : Source) : (ns : List RawNode) → reportsOf src true ns = []
  | [] => by rw [reportsOf]
  | n :: ns => by rw [reportsOf, reports_inside src n, reportsOf_inside src ns, List.append_nil]

end

mutual

/-- Once the flag is up it stays up, so that a fault might as well end the search. -/
theorem reports_outside (src : Source) : (n : RawNode) → n.reports src false = n.diagnostics src
  | ⟨kind, startByte, endByte, startRow, endRow, isMissing, children⟩ => by
    rw [reports, diagnostics, Bool.not_false, Bool.and_true, Bool.false_or]
    split
    · rename_i hfault
      rw [hfault, reportsOf_inside src children, List.append_nil]
    · rename_i hsound
      rw [Bool.eq_false_iff.mpr hsound, List.nil_append, reportsOf_outside src children]

theorem reportsOf_outside (src : Source) : (ns : List RawNode) →
    reportsOf src false ns = diagnosticsOf src ns
  | [] => by rw [reportsOf, diagnosticsOf]
  | n :: ns => by
    rw [reportsOf, diagnosticsOf, reports_outside src n, reportsOf_outside src ns]

end

mutual

/-- What is reported of a tree inside of the text has a proper place in it. -/
theorem valid_of_mem_diagnostics : (n : RawNode) → n.Inside (Text.bytes text.toList).length →
    ∀ d ∈ n.diagnostics (.ofString text), d.finding.span.Valid
  | ⟨_, startByte, endByte, _, _, _, children⟩, hn => by
    unfold Inside at hn
    obtain ⟨⟨hstart, hle, hend⟩, hchildren⟩ := hn
    intro d hd
    unfold diagnostics at hd
    dsimp only at hd
    split at hd
    · obtain rfl := List.mem_singleton.mp hd
      have hoffset := Source.offset_le_offset hstart hle ⟨by omega, hend⟩
      refine ⟨Source.offset_nonneg _ hstart, ?_⟩
      change 0 ≤ (Source.ofString text).offset endByte - (Source.ofString text).offset startByte
      omega
    · exact valid_of_mem_diagnosticsOf children hchildren d hd

theorem valid_of_mem_diagnosticsOf : (ns : List RawNode) →
    AreInside (Text.bytes text.toList).length ns →
    ∀ d ∈ diagnosticsOf (.ofString text) ns, d.finding.span.Valid
  | [], _ => by
    intro d hd
    unfold diagnosticsOf at hd
    cases hd
  | n :: ns, hns => by
    unfold AreInside at hns
    intro d hd
    unfold diagnosticsOf at hd
    rcases List.mem_append.mp hd with hd | hd
    · exact valid_of_mem_diagnostics n hns.1 d hd
    · exact valid_of_mem_diagnosticsOf ns hns.2 d hd

end

end RawNode

namespace Parse
variable {parser : Parser} {text : String} {root : RawNode}

theorem diagnostics_ofRaw (text : String) (root : RawNode) :
    (ofRaw text root).diagnostics = root.diagnostics (.ofString text) :=
  root.reports_outside _

theorem ofText_of_inside (hroot : parser text = some root)
    (hin : root.Inside (Text.bytes text.toList).length) :
    ofText parser text = .ok (ofRaw text root) := by
  unfold ofText
  rw [hroot]
  dsimp only
  rw [ofTree, if_pos (RawNode.isWithin_of_inside root hin)]

end Parse

end Scriptorium
