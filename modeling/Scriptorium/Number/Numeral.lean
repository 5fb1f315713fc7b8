import Scriptorium.Number.Binary64
import Scriptorium.Text.Class

/-!
Numerals: how a text is read as a number. White space around it does not count, the digits may be
those of any script, and single underscores may stand between digits. The information separators
are blanks elsewhere, but not around a number.
-/

namespace Scriptorium
set_option autoImplicit false

namespace Numeral
open Text

/-- Whether a character may surround a number. -/
def isPadding (c : Char) : Bool := isBlank c && !(0x1c ≤ c.toNat && c.toNat ≤ 0x1f)

/-- The character itself, or the plain digit of the same value. -/
private def plain (c : Char) : Char :=
  match digit? c with
  | some d => Char.ofNat (0x30 + d)
  | none => c

/-- The text without its underscores, if each of them stands between two digits. -/
private def joinGroups? : Option Char → List Char → Option (List Char)
  | some '_', [] => none
  | _, [] => some []
  | before, '_' :: cs =>
    if before.any Char.isDigit then joinGroups? (some '_') cs else none
  | before, c :: cs =>
    if before = some '_' ∧ ¬ c.isDigit then none else (joinGroups? (some c) cs).map (c :: ·)

/-- The text in plain digits, without blanks around it and without underscores. -/
def normalize? (cs : List Char) : Option (List Char) :=
  joinGroups? none ((trimBy isPadding cs).map plain)

/-- The sign in front, if there is one, and the rest. -/
private def splitSign : List Char → Bool × List Char
  | '-' :: cs => (true, cs)
  | '+' :: cs => (false, cs)
  | cs => (false, cs)

private def natOf (cs : List Char) : Nat := cs.foldl (fun n c => n * 10 + (c.toNat - 0x30)) 0

/-- The digits that a whole number may have. -/
def maxDigits : Nat := 4300

def integer? (cs : List Char) : Option Int := do
  let (negative, ds) := splitSign (← normalize? cs)
  if ds = [] ∨ !ds.all Char.isDigit ∨ maxDigits < ds.length then none
  else some (if negative then -(natOf ds : Int) else natOf ds)

def isInteger (cs : List Char) : Bool := (integer? cs).isSome

/-- A number as it is written: digits and a power of ten, or a word. -/
inductive Written where
  | decimal (negative : Bool) (digits : Nat) (exponent : Int)
  | infinity (negative : Bool)
  | nan
  deriving DecidableEq, Repr

/-- The power of ten behind the digits: nothing, or the letter `e` and a whole number. -/
private def exponent? : List Char → Option Int
  | [] => some 0
  | c :: cs =>
    let (negative, ds) := splitSign cs
    if c.toLower = 'e' ∧ ds ≠ [] ∧ ds.all Char.isDigit then
      some (if negative then -(natOf ds : Int) else natOf ds)
    else none

private def fraction : List Char → List Char × List Char
  | '.' :: cs => (cs.takeWhile Char.isDigit, cs.dropWhile Char.isDigit)
  | cs => ([], cs)

/-- Reads a number with an optional fraction and an optional power of ten, or one of the words for
the numbers that have no digits. -/
def read? (cs : List Char) : Option Written := do
  let (negative, cs) := splitSign (← normalize? cs)
  let word := String.ofList (cs.map Char.toLower)
  if word = "inf" ∨ word = "infinity" then return .infinity negative
  if word = "nan" then return .nan
  let whole := cs.takeWhile Char.isDigit
  let (part, rest) := fraction (cs.dropWhile Char.isDigit)
  if whole.isEmpty && part.isEmpty then none
  let e ← exponent? rest
  return .decimal negative (natOf (whole ++ part)) (e - part.length)

/-- The nearest binary number. Exponents far out of range are settled without computing the
power of ten. -/
def Written.toBinary64 : Written → Binary64
  | .infinity negative => .infinite negative
  | .nan => .nan
  | .decimal negative n e =>
    if n = 0 then .zero negative
    else if 400 < e then .infinite negative
    else if e < -400 - (n.log2 : Int) then .zero negative
    else if 0 ≤ e then .ofRatio negative (n * Nat.pow 10 e.toNat) 1
    else .ofRatio negative n (Nat.pow 10 (-e).toNat)

end Numeral

end Scriptorium
