import Scriptorium.Standin.Domain.Letter
import Scriptorium.Standin.Domain.Mark

/-!
Directions of writing. A name is written from the left or from the right, and nobody can read one
that is written from both sides. One that holds anything that is written from the right must begin
with it, hold nothing that is written from the left, keep to one kind of digits and end in a letter
or a digit. The direction of everything in a name must be known.
-/

namespace Scriptorium
set_option autoImplicit false

namespace Domain
open Text

inductive Direction where
  | left
  | right
  /-- the digits of the Arabic script -/
  | arabicDigit
  | digit
  | neutral
  /-- marks go with the letter that they are set upon -/
  | attached
  | unknown
  deriving DecidableEq, Repr

def rightRanges : List (Nat × Nat) := [
  (0x5d0, 0x5f4), (0x620, 0x64a), (0x66e, 0x66f), (0x671, 0x6d5), (0x6e5, 0x6e6), (0x6ee, 0x6ef),
  (0x6fa, 0x710), (0x712, 0x72f), (0x74d, 0x7a5), (0x7b1, 0x7ea), (0x7f4, 0x7f5), (0x800, 0x815),
  (0x81a, 0x81a), (0x824, 0x824), (0x828, 0x828), (0x840, 0x858), (0x860, 0x88e), (0x8a0, 0x8c9),
  (0xfe73, 0xfe73), (0x10800, 0x10a00), (0x10a10, 0x10a35), (0x10a60, 0x10ae4), (0x10b00, 0x10d23),
  (0x10e80, 0x10ea9), (0x10eb0, 0x10f45), (0x10f70, 0x10f81), (0x10fb0, 0x10ff6),
  (0x1e800, 0x1e8c4), (0x1e922, 0x1e943), (0x1e94b, 0x1e959)]

def arabicDigitRanges : List (Nat × Nat) := [(0x660, 0x669), (0x10d30, 0x10d39)]

def digitRanges : List (Nat × Nat) := [(0x30, 0x39), (0x6f0, 0x6f9)]

def neutralRanges : List (Nat × Nat) := [
  (0x2d, 0x2d), (0xb7, 0xb7), (0x2b9, 0x2ba), (0x2c6, 0x2cf), (0x2ec, 0x2ec), (0x375, 0x375),
  (0x200c, 0x200d), (0x2e2f, 0x2e2f), (0x30fb, 0x30fb), (0xa67f, 0xa67f), (0xa717, 0xa71f),
  (0xa788, 0xa788)]

def Direction.of (c : Char) : Direction :=
  if isLater c then .unknown
  else if within digitRanges c then .digit
  else if within neutralRanges c then .neutral
  else if within rightRanges c then .right
  else if within arabicDigitRanges c then .arabicDigit
  else if isAttached c then .attached
  else .left

/-- Whether something is written from the right. -/
def Direction.isRight (d : Direction) : Bool := d == .right || d == .arabicDigit

/-- The directions of a label that can be read: they are known, and nothing in it is written from
the right, or it obeys the rules of those labels. -/
def IsReadable (ds : List Direction) : Prop :=
  .unknown ∉ ds ∧
    ((∀ d ∈ ds, d.isRight = false) ∨
      (ds.head? = some .right ∧ .left ∉ ds ∧ ¬ (.digit ∈ ds ∧ .arabicDigit ∈ ds) ∧
        ds.reverse.find? (· ≠ .attached) ≠ some .neutral))

instance (ds : List Direction) : Decidable (IsReadable ds) := by
  unfold IsReadable; infer_instance

/-! ## Faults -/

inductive ReadingFault where
  | unknown (position : Nat)
  | start
  /-- something is written from the right in a label that begins from the left -/
  | inLeft (position : Nat)
  /-- something is written from the left in a label that begins from the right -/
  | inRight (position : Nat)
  | mixedDigits
  | ending
  deriving DecidableEq, Repr

/-- What is wrong in a label that begins from the right; `position` characters are looked at, and
`digits` says which digits are among them. -/
def rightFault? (position : Nat) (digits : Option Direction) : List Direction → Option ReadingFault
  | [] => none
  | .left :: _ => some (.inRight (position + 1))
  | d :: ds =>
    if d = .digit ∨ d = .arabicDigit then
      if digits.any (· ≠ d) then some .mixedDigits else rightFault? (position + 1) (some d) ds
    else rightFault? (position + 1) digits ds

/-- The first thing that is wrong with the directions of a label. -/
def readingFault? (ds : List Direction) : Option ReadingFault :=
  if .unknown ∈ ds then some (.unknown (ds.idxOf .unknown + 1))
  else if !ds.any Direction.isRight then none
  else if ds.head? = some .right then
    match rightFault? 0 none ds with
    | some f => some f
    | none => if ds.reverse.find? (· ≠ .attached) = some .neutral then some .ending else none
  else if ds.head? = some .left then some (.inLeft (ds.findIdx Direction.isRight + 1))
  else some .start

end Domain

end Scriptorium
