import Scriptorium.Standin.Encoding.Reader

/-!
Character sets of pairs of bytes. Each byte is a place in a row or the number of one, and not every
place is taken.
-/

namespace Scriptorium
set_option autoImplicit false

namespace Encoding

structure Stretch where
  first : Nat
  last : Nat
  deriving DecidableEq, Repr

def Stretch.Has (s : Stretch) (b : UInt8) : Prop := s.first ≤ b.toNat ∧ b.toNat ≤ s.last

instance (s : Stretch) (b : UInt8) : Decidable (s.Has b) := by
  unfold Stretch.Has; infer_instance

/-- The places that are taken in each stretch of rows. One of them may be that of the tilde; all
others are of characters beyond ASCII. -/
structure Grid where
  rows : List (Stretch × List Stretch)
  tilde : Option (UInt8 × UInt8) := none
  deriving DecidableEq, Repr

namespace Grid

def char? (g : Grid) (row place : UInt8) : Option Char :=
  if g.tilde = some (row, place) then some '~'
  else if g.rows.any fun (rows, places) =>
      decide (rows.Has row) && places.any fun s => decide (s.Has place) then some beyond
  else none

private def all : List Stretch := [⟨0x21, 0x7e⟩]

def gb2312 : Grid where
  rows :=
    [(⟨0x21, 0x21⟩, all), (⟨0x22, 0x22⟩, [⟨0x31, 0x62⟩, ⟨0x65, 0x6e⟩, ⟨0x71, 0x7c⟩]),
      (⟨0x23, 0x23⟩, all), (⟨0x24, 0x24⟩, [⟨0x21, 0x73⟩]), (⟨0x25, 0x25⟩, [⟨0x21, 0x76⟩]),
      (⟨0x26, 0x26⟩, [⟨0x21, 0x38⟩, ⟨0x41, 0x58⟩]), (⟨0x27, 0x27⟩, [⟨0x21, 0x41⟩, ⟨0x51, 0x71⟩]),
      (⟨0x28, 0x28⟩, [⟨0x21, 0x3a⟩, ⟨0x45, 0x69⟩]), (⟨0x29, 0x29⟩, [⟨0x24, 0x6f⟩]),
      (⟨0x30, 0x56⟩, all), (⟨0x57, 0x57⟩, [⟨0x21, 0x79⟩]), (⟨0x58, 0x77⟩, all)]

def ksX1001 : Grid where
  rows :=
    [(⟨0x21, 0x21⟩, all), (⟨0x22, 0x22⟩, [⟨0x21, 0x67⟩]), (⟨0x23, 0x24⟩, all),
      (⟨0x25, 0x25⟩, [⟨0x21, 0x2a⟩, ⟨0x30, 0x39⟩, ⟨0x41, 0x58⟩, ⟨0x61, 0x78⟩]),
      (⟨0x26, 0x26⟩, [⟨0x21, 0x64⟩]), (⟨0x27, 0x27⟩, [⟨0x21, 0x6f⟩]),
      (⟨0x28, 0x28⟩, [⟨0x21, 0x24⟩, ⟨0x26, 0x26⟩, ⟨0x28, 0x2f⟩, ⟨0x31, 0x7e⟩]),
      (⟨0x29, 0x29⟩, all), (⟨0x2a, 0x2a⟩, [⟨0x21, 0x73⟩]), (⟨0x2b, 0x2b⟩, [⟨0x21, 0x76⟩]),
      (⟨0x2c, 0x2c⟩, [⟨0x21, 0x41⟩, ⟨0x51, 0x71⟩]), (⟨0x30, 0x48⟩, all), (⟨0x4a, 0x7d⟩, all)]

def jisX0208 : Grid where
  rows :=
    [(⟨0x21, 0x21⟩, all),
      (⟨0x22, 0x22⟩, [⟨0x21, 0x2e⟩, ⟨0x3a, 0x41⟩, ⟨0x4a, 0x50⟩, ⟨0x5c, 0x6a⟩, ⟨0x72, 0x79⟩,
        ⟨0x7e, 0x7e⟩]),
      (⟨0x23, 0x23⟩, [⟨0x30, 0x39⟩, ⟨0x41, 0x5a⟩, ⟨0x61, 0x7a⟩]), (⟨0x24, 0x24⟩, [⟨0x21, 0x73⟩]),
      (⟨0x25, 0x25⟩, [⟨0x21, 0x76⟩]), (⟨0x26, 0x26⟩, [⟨0x21, 0x38⟩, ⟨0x41, 0x58⟩]),
      (⟨0x27, 0x27⟩, [⟨0x21, 0x41⟩, ⟨0x51, 0x71⟩]), (⟨0x28, 0x28⟩, [⟨0x21, 0x40⟩]),
      (⟨0x30, 0x4e⟩, all), (⟨0x4f, 0x4f⟩, [⟨0x21, 0x53⟩]), (⟨0x50, 0x73⟩, all),
      (⟨0x74, 0x74⟩, [⟨0x21, 0x26⟩])]

def jisX0212 : Grid where
  rows :=
    [(⟨0x22, 0x22⟩, [⟨0x2f, 0x39⟩, ⟨0x42, 0x44⟩, ⟨0x6b, 0x71⟩]),
      (⟨0x26, 0x26⟩, [⟨0x61, 0x65⟩, ⟨0x67, 0x67⟩, ⟨0x69, 0x6a⟩, ⟨0x6c, 0x6c⟩, ⟨0x71, 0x7c⟩]),
      (⟨0x27, 0x27⟩, [⟨0x42, 0x4e⟩, ⟨0x72, 0x7e⟩]),
      (⟨0x29, 0x29⟩, [⟨0x21, 0x22⟩, ⟨0x24, 0x24⟩, ⟨0x26, 0x26⟩, ⟨0x28, 0x29⟩, ⟨0x2b, 0x2d⟩,
        ⟨0x2f, 0x30⟩, ⟨0x41, 0x50⟩]),
      (⟨0x2a, 0x2a⟩, [⟨0x21, 0x38⟩, ⟨0x3a, 0x77⟩]),
      (⟨0x2b, 0x2b⟩, [⟨0x21, 0x3b⟩, ⟨0x3d, 0x43⟩, ⟨0x45, 0x77⟩]), (⟨0x30, 0x6c⟩, all),
      (⟨0x6d, 0x6d⟩, [⟨0x21, 0x63⟩])]
  tilde := some (0x22, 0x37)

/-- The rows of the first plane of the second set of Japanese that its two editions share. -/
private def sharedRows : List (Stretch × List Stretch) :=
  [(⟨0x21, 0x23⟩, all), (⟨0x24, 0x24⟩, [⟨0x21, 0x7b⟩]), (⟨0x25, 0x27⟩, all),
    (⟨0x28, 0x28⟩, [⟨0x21, 0x5e⟩, ⟨0x67, 0x7c⟩]), (⟨0x29, 0x2b⟩, all),
    (⟨0x2c, 0x2c⟩, [⟨0x21, 0x73⟩, ⟨0x7d, 0x7e⟩]),
    (⟨0x2d, 0x2d⟩, [⟨0x21, 0x57⟩, ⟨0x5f, 0x6f⟩, ⟨0x73, 0x73⟩, ⟨0x78, 0x79⟩, ⟨0x7d, 0x7e⟩])]

/-- The first plane of the second set of Japanese, in the edition of 2000. -/
def jisX0213First2000 : Grid where
  rows := sharedRows ++
    [(⟨0x2e, 0x2e⟩, [⟨0x22, 0x7e⟩]), (⟨0x2f, 0x2f⟩, [⟨0x21, 0x7d⟩]), (⟨0x30, 0x4e⟩, all),
      (⟨0x4f, 0x4f⟩, [⟨0x21, 0x53⟩, ⟨0x55, 0x7d⟩]), (⟨0x50, 0x73⟩, all),
      (⟨0x74, 0x74⟩, [⟨0x21, 0x26⟩, ⟨0x28, 0x7e⟩]), (⟨0x75, 0x7d⟩, all),
      (⟨0x7e, 0x7e⟩, [⟨0x21, 0x79⟩])]
  tilde := some (0x22, 0x32)

/-- The first plane of the second set of Japanese, in the edition of 2004. -/
def jisX0213First2004 : Grid where
  rows := sharedRows ++ [(⟨0x2e, 0x7e⟩, all)]
  tilde := some (0x22, 0x32)

def jisX0213Second : Grid where
  rows :=
    [(⟨0x21, 0x21⟩, all), (⟨0x23, 0x25⟩, all), (⟨0x28, 0x28⟩, all), (⟨0x2c, 0x2f⟩, all),
      (⟨0x6e, 0x7d⟩, all), (⟨0x7e, 0x7e⟩, [⟨0x21, 0x76⟩])]

end Grid

end Encoding

end Scriptorium
