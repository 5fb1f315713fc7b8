import Scriptorium.Proofs.Tree.Boundary

/-!
The table from bytes to characters. Its entry at a byte is the number of characters whose bytes all
lie before that byte, also in the midst of a character; so it begins with zero, never goes down,
and ends with the length of the text. It is left out for texts in ASCII and for no others, and there
a byte is an entry of its own: whichever way a parse looks a byte up, it counts the same characters.
-/

namespace Scriptorium
set_option autoImplicit false

namespace Text
variable {c : Char} {cs : List Char} {b : Nat}

def IsAscii (cs : List Char) : Prop := ∀ c ∈ cs, c.toNat < 0x80

instance (cs : List Char) : Decidable (IsAscii cs) :=
  List.decidableBAll (fun c : Char => c.toNat < 0x80) cs

/-- An entry for each byte and one for the end, each with the number of characters before it. -/
structure Tabulates (cs : List Char) (t : List Nat) : Prop where
  size : t.length = (bytes cs).length + 1
  sorted : t.Pairwise (· ≤ ·)
  first : t.head? = some 0
  last : t.getLast? = some cs.length
  entry : ∀ b : Nat, b ≤ (bytes cs).length → t[b]? = some (charsBefore cs b)

theorem utf8Size_eq_one_iff_ascii : c.utf8Size = 1 ↔ c.toNat < 0x80 := by
  rw [Char.utf8Size_eq_one_iff, UInt32.le_iff_toNat_le]
  exact Nat.lt_succ_iff.symm

theorem byteLength_eq_length_iff : byteLength cs = cs.length ↔ IsAscii cs := by
  induction cs with
  | nil => exact ⟨fun _ => nofun, fun _ => rfl⟩
  | cons c cs ih =>
    have hsize := c.utf8Size_pos
    have hle := length_le_length_bytes cs
    rw [length_bytes] at hle
    rw [IsAscii, List.forall_mem_cons, ← IsAscii, ← ih, ← utf8Size_eq_one_iff_ascii, byteLength,
      List.length_cons]
    omega

theorem byteOffsets?_eq_none_iff : byteOffsets? cs = none ↔ IsAscii cs := by
  rw [← byteLength_eq_length_iff]
  unfold byteOffsets?
  split <;> simp [*]

theorem tabulates_offsetTable (cs : List Char) : Tabulates cs (offsetTable 0 cs) := by
  have hsize : (offsetTable 0 cs).length = (bytes cs).length + 1 := by
    rw [length_offsetTable, length_bytes]
  have hentry : ∀ b : Nat, b ≤ (bytes cs).length →
      (offsetTable 0 cs)[b]? = some (charsBefore cs b) := by
    intro b hb
    rw [getElem?_offsetTable 0 hb, Nat.zero_add]
  refine ⟨hsize, offsetTable_pairwise 0 cs, ?_, ?_, hentry⟩
  · have hnone : charsBefore ([] ++ cs) (bytes []).length = 0 := charsBefore_append
    rw [List.head?_eq_getElem?, hentry 0 (Nat.zero_le _)]
    exact congrArg some hnone
  · rw [List.getLast?_eq_getElem?, hsize, Nat.add_sub_cancel, hentry _ (Nat.le_refl _),
      charsBefore_all]

theorem tabulates_of_table {t : List Nat} (ht : byteOffsets? cs = some t) : Tabulates cs t := by
  unfold byteOffsets? at ht
  split at ht
  · cases ht
  · obtain rfl := Option.some.inj ht
    exact tabulates_offsetTable cs

end Text

namespace Source
open Text
variable {text : String} {b : Int}

/-- There is no table just for a text in ASCII; a table has the number of characters before each
byte; and with or without one, a parse takes that number for every byte of the text. -/
theorem bytes_counted (text : String) :
    (byteOffsets? text.toList = none ↔ IsAscii text.toList) ∧
    (∀ t, byteOffsets? text.toList = some t → Tabulates text.toList t) ∧
    ∀ b, Covers text b → (ofString text).Knows b ∧
      (ofString text).offset b = charsBefore text.toList b :=
  ⟨byteOffsets?_eq_none_iff, fun _ => tabulates_of_table,
    fun _ hb => ⟨knows_of_covers hb, offset_of_covers hb⟩⟩

/-- The third byte of the second character of `é😀b`, and the end of a text without a table. -/
theorem bytes_counted_midst :
    byteOffsets? "é😀b".toList = some [0, 0, 1, 1, 1, 1, 2, 3] ∧
    Tabulates "é😀b".toList [0, 0, 1, 1, 1, 1, 2, 3] ∧
    Covers "é😀b" 4 ∧ (ofString "é😀b").offset 4 = 1 ∧
    byteOffsets? "ab".toList = none ∧ Covers "ab" 2 ∧ (ofString "ab").offset 2 = 2 := by
  have htable : byteOffsets? "é😀b".toList = some [0, 0, 1, 1, 1, 1, 2, 3] := by decide +kernel
  have hmidst : Covers "é😀b" 4 := ⟨by decide, by decide +kernel⟩
  have hend : Covers "ab" 2 := ⟨by decide, by decide +kernel⟩
  obtain ⟨-, htabulates, hoffset⟩ := bytes_counted "é😀b"
  obtain ⟨hnone, -, hplain⟩ := bytes_counted "ab"
  refine ⟨htable, htabulates _ htable, hmidst, (hoffset 4 hmidst).2.trans ?_,
    hnone.mpr (by decide), hend, (hplain 2 hend).2.trans ?_⟩
  · decide +kernel
  · decide +kernel

end Source

end Scriptorium
