import Mathlib.Data.List.Basic
import Scriptorium.Proofs.Tree.Inside

/-!
Bytes at which characters begin. The offset that a parse gives to a byte, through the table or
without one, is the number of characters whose bytes all lie before it. A text that is cut between
two characters is cut between their bytes, so the characters between two such bytes are those that
the bytes between them write.
-/

namespace Scriptorium
set_option autoImplicit false

namespace Text
variable {n : Nat} {b : Int} {cs before after : List Char}

@[simp] theorem bytes_nil : bytes [] = [] := rfl

theorem bytes_cons (c : Char) (cs : List Char) :
    bytes (c :: cs) = String.utf8EncodeChar c ++ bytes cs := rfl

@[simp] theorem bytes_append (before after : List Char) :
    bytes (before ++ after) = bytes before ++ bytes after := List.flatMap_append

/-- The number of characters whose bytes all lie before a byte. -/
def charsBefore (cs : List Char) (b : Int) : Nat :=
  (List.range cs.length).countP fun k => (bytes (cs.take (k + 1))).length ≤ b

/-- The place before the first byte of a character, or at the end. -/
def OnBoundary (cs : List Char) (b : Int) : Prop :=
  ∃ before after, cs = before ++ after ∧ b = (bytes before).length

theorem onBoundary_iff :
    OnBoundary cs b ↔ ∃ k ∈ List.range (cs.length + 1), b = (bytes (cs.take k)).length := by
  constructor
  · rintro ⟨before, after, rfl, rfl⟩
    refine ⟨before.length, List.mem_range.mpr ?_, by rw [List.take_left]⟩
    rw [List.length_append]
    omega
  · rintro ⟨k, _, rfl⟩
    exact ⟨cs.take k, cs.drop k, (List.take_append_drop k cs).symm, rfl⟩

instance (cs : List Char) (b : Int) : Decidable (OnBoundary cs b) :=
  decidable_of_iff _ onBoundary_iff.symm

theorem length_bytes_cons (c : Char) (cs : List Char) :
    (bytes (c :: cs)).length = c.utf8Size + (bytes cs).length := by
  rw [bytes_cons, List.length_append, String.length_utf8EncodeChar]

theorem length_le_length_bytes (cs : List Char) : cs.length ≤ (bytes cs).length := by
  induction cs with
  | nil => exact Nat.le_refl 0
  | cons c cs ih =>
    have hsize := c.utf8Size_pos
    rw [length_bytes_cons, List.length_cons]
    omega

theorem charsBefore_cons_of_lt {c : Char} {k : Nat} (cs : List Char) (hk : k < c.utf8Size) :
    charsBefore (c :: cs) k = 0 := by
  apply List.countP_eq_zero.mpr
  intro i _
  rw [decide_eq_true_eq, List.take_succ_cons, length_bytes_cons]
  omega

theorem charsBefore_cons_of_le (c : Char) (cs : List Char) (k : Nat) :
    charsBefore (c :: cs) ((c.utf8Size + k : Nat) : Int) = charsBefore cs k + 1 := by
  have hfirst : (bytes ((c :: cs).take (0 + 1))).length ≤ c.utf8Size + k := by
    rw [List.take_succ_cons, length_bytes_cons]
    exact Nat.le_add_right _ _
  unfold charsBefore
  rw [List.length_cons, List.range_succ_eq_map, List.countP_cons, List.countP_map,
    if_pos (decide_eq_true (Int.ofNat_le.mpr hfirst))]
  apply congrArg (· + 1)
  apply List.countP_congr
  intro i _
  simp only [Function.comp_apply, decide_eq_true_eq, Nat.succ_eq_add_one, List.take_succ_cons,
    length_bytes_cons]
  omega

theorem charsBefore_append :
    charsBefore (before ++ after) (bytes before).length = before.length := by
  induction before with
  | nil =>
    cases after with
    | nil => rfl
    | cons c cs => exact charsBefore_cons_of_lt cs c.utf8Size_pos
  | cons c cs ih =>
    rw [List.cons_append, length_bytes_cons, charsBefore_cons_of_le, ih, List.length_cons]

theorem charsBefore_all (cs : List Char) : charsBefore cs (bytes cs).length = cs.length := by
  have hall : charsBefore (cs ++ []) (bytes cs).length = cs.length := charsBefore_append
  rwa [List.append_nil] at hall

/-- The characters are counted through, and a byte in the midst of one belongs to it. -/
theorem getElem?_offsetTable {k : Nat} (n : Nat) (hk : k ≤ (bytes cs).length) :
    (offsetTable n cs)[k]? = some (n + charsBefore cs k) := by
  induction cs generalizing n k with
  | nil =>
    obtain rfl := Nat.le_zero.mp hk
    rfl
  | cons c cs ih =>
    rw [offsetTable]
    rcases Nat.lt_or_ge k c.utf8Size with hlt | hge
    · rw [charsBefore_cons_of_lt cs hlt, List.getElem?_append_left (by simpa using hlt),
        List.getElem?_replicate, if_pos hlt, Nat.add_zero]
    · obtain ⟨d, rfl⟩ := Nat.exists_eq_add_of_le hge
      rw [length_bytes_cons] at hk
      rw [charsBefore_cons_of_le, List.getElem?_append_right (by simp), List.length_replicate,
        Nat.add_sub_cancel_left, ih (n + 1) (Nat.le_of_add_le_add_left hk), Nat.add_assoc,
        Nat.add_comm 1]

/-- Two boundaries cut a text into three. -/
theorem exists_parts {a b : Int} (ha : OnBoundary cs a) (hb : OnBoundary cs b) (hab : a ≤ b) :
    ∃ p m q, cs = p ++ (m ++ q) ∧ a = (bytes p).length ∧ b = (bytes (p ++ m)).length := by
  obtain ⟨p, r, rfl, rfl⟩ := ha
  obtain ⟨s, q, hcs, rfl⟩ := hb
  rcases List.append_eq_append_iff.mp hcs with ⟨m, rfl, rfl⟩ | ⟨m, rfl, rfl⟩
  · exact ⟨p, m, q, rfl, rfl, rfl⟩
  · have hle := length_le_length_bytes m
    rw [bytes_append, List.length_append] at hab
    obtain rfl : m = [] := List.length_eq_zero_iff.mp (by omega)
    exact ⟨s, [], r, by simp, by simp, by simp⟩

end Text

namespace Source
variable {text : String} {a b : Int}

open Text

theorem covers_of_onBoundary (hb : OnBoundary text.toList b) : Covers text b := by
  obtain ⟨before, after, htext, rfl⟩ := hb
  refine ⟨Int.natCast_nonneg _, ?_⟩
  rw [htext, bytes_append, List.length_append]
  omega

/-- Without a table every character has one byte. -/
theorem length_bytes_of_no_table (ht : (ofString text).table = none) {before after : List Char}
    (htext : text.toList = before ++ after) : (bytes before).length = before.length := by
  have hall : (bytes text.toList).length = text.toList.length := by
    rw [length_bytes]
    change byteOffsets? text.toList = none at ht
    unfold byteOffsets? at ht
    split at ht
    · assumption
    · cases ht
  have hbefore := length_le_length_bytes before
  have hafter := length_le_length_bytes after
  rw [htext, bytes_append, List.length_append, List.length_append] at hall
  omega

/-- So every byte is the first one of a character. -/
theorem onBoundary_of_no_table (ht : (ofString text).table = none) (hb : Covers text b) :
    OnBoundary text.toList b := by
  obtain ⟨hlow, hhigh⟩ := hb
  have hall : text.toList = text.toList ++ [] := (List.append_nil _).symm
  have hsplit : text.toList = text.toList.take b.toNat ++ text.toList.drop b.toNat :=
    (List.take_append_drop _ _).symm
  refine ⟨_, _, hsplit, ?_⟩
  rw [length_bytes_of_no_table ht hall] at hhigh
  rw [length_bytes_of_no_table ht hsplit, List.length_take]
  omega

theorem offset_of_covers (hb : Covers text b) :
    (ofString text).offset b = charsBefore text.toList b := by
  cases ht : (ofString text).table with
  | none =>
    obtain ⟨before, after, htext, rfl⟩ := onBoundary_of_no_table ht hb
    unfold offset
    rw [ht, htext, charsBefore_append, length_bytes_of_no_table ht htext]
  | some t =>
    obtain ⟨hlow, hhigh⟩ := hb
    have hentry := getElem?_offsetTable (k := b.toNat) 0 (Int.toNat_le.mpr hhigh)
    rw [Int.toNat_of_nonneg hlow, Nat.zero_add] at hentry
    unfold offset
    rw [ht]
    dsimp only [charOffset]
    rw [fromEnd_of_nonneg hlow, table_ofString ht, List.getD_eq_getElem?_getD, hentry,
      Option.getD_some]

theorem offset_of_onBoundary (hb : OnBoundary text.toList b) :
    (ofString text).offset b = charsBefore text.toList b :=
  offset_of_covers (covers_of_onBoundary hb)

theorem slice_of_onBoundary (ha : OnBoundary text.toList a) (hb : OnBoundary text.toList b) :
    (ofString text).slice ((ofString text).offset a) ((ofString text).offset b) =
      (text.toList.take (charsBefore text.toList b)).drop (charsBefore text.toList a) := by
  rw [offset_of_onBoundary ha, offset_of_onBoundary hb]
  unfold slice
  dsimp only
  rw [fromEnd_of_nonneg (Int.natCast_nonneg _), fromEnd_of_nonneg (Int.natCast_nonneg _)]
  rfl

end Source

namespace Text
variable {a b : Int} {cs : List Char}

theorem bytes_between (ha : OnBoundary cs a) (hb : OnBoundary cs b) (hab : a ≤ b) :
    bytes ((cs.take (charsBefore cs b)).drop (charsBefore cs a)) =
      ((bytes cs).take b.toNat).drop a.toNat := by
  obtain ⟨p, m, q, rfl, rfl, rfl⟩ := exists_parts ha hb hab
  have hfirst : charsBefore (p ++ (m ++ q)) (bytes p).length = p.length := charsBefore_append
  have hlast : charsBefore (p ++ (m ++ q)) (bytes (p ++ m)).length = (p ++ m).length := by
    rw [← List.append_assoc]
    exact charsBefore_append
  rw [hfirst, hlast, ← List.append_assoc, List.take_left, List.drop_left, Int.toNat_natCast,
    Int.toNat_natCast, bytes_append (p ++ m) q, List.take_left, bytes_append, List.drop_left]

end Text

end Scriptorium
