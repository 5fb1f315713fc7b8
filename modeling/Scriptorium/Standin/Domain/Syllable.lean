/-!
Korean syllables. A syllable has a first letter and a vowel, and it is open unless there is a last
letter, too. Each is a character of its own, and all of them stand in a row: those with the same
first letter together, and among them those with the same vowel. There are 19 first letters, 21
vowels and 27 last letters.
-/

namespace Scriptorium
set_option autoImplicit false

namespace Domain

def IsSyllable (n : Nat) : Prop := 0xac00 ≤ n ∧ n < 0xd7a4

instance (n : Nat) : Decidable (IsSyllable n) := by unfold IsSyllable; infer_instance

/-- The syllable that a first letter and a vowel make, or an open syllable and a last letter. -/
def syllable? (a b : Char) : Option Char :=
  let m := a.toNat
  let n := b.toNat
  if 0x1100 ≤ m ∧ m < 0x1113 ∧ 0x1161 ≤ n ∧ n < 0x1176 then
    some (Char.ofNat (0xac00 + ((m - 0x1100) * 21 + (n - 0x1161)) * 28))
  else if IsSyllable m ∧ (m - 0xac00) % 28 = 0 ∧ 0x11a8 ≤ n ∧ n < 0x11c3 then
    some (Char.ofNat (m + (n - 0x11a7)))
  else none

/-- The two parts of a syllable: its last letter is taken off, or else its vowel. -/
def syllableParts? (c : Char) : Option (Char × Char) :=
  let n := c.toNat - 0xac00
  if ¬ IsSyllable c.toNat then none
  else if n % 28 = 0 then
    some (Char.ofNat (0x1100 + n / 588), Char.ofNat (0x1161 + n / 28 % 21))
  else some (Char.ofNat (c.toNat - n % 28), Char.ofNat (0x11a7 + n % 28))

end Domain

end Scriptorium
