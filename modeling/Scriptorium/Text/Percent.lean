import Scriptorium.Text.Quoted
import Scriptorium.Text.Utf8

/-!
Percent signs in addresses: a percent sign with two hexadecimal digits behind it stands for the
byte of that number. Any other percent sign stands for itself, as every other character does. A
character that has no place in an address is written in this way.
-/

namespace Scriptorium
set_option autoImplicit false

namespace Text

def nibble? (c : Char) : Option Nat :=
  if c.isDigit then some (c.toNat - 0x30)
  else if 'a' ≤ c.toLower ∧ c.toLower ≤ 'f' then some (c.toLower.toNat - 0x57)
  else none

def percentBytes : List Char → List UInt8
  | '%' :: a :: b :: cs =>
    match nibble? a, nibble? b with
    | some m, some n => UInt8.ofNat (m * 16 + n) :: percentBytes cs
    | _, _ => String.utf8EncodeChar '%' ++ percentBytes (a :: b :: cs)
  | c :: cs => String.utf8EncodeChar c ++ percentBytes cs
  | [] => []

/-- The text that a text with percent signs stands for. -/
def percentDecoded (cs : List Char) : List Char := decodeLossy (percentBytes cs)

def percentByte (b : UInt8) : List Char := '%' :: (hex 2 b.toNat).map Char.toUpper

/-- The text with its characters in bytes, but for those that are kept. -/
def percentQuoted (keeps : Char → Bool) (cs : List Char) : List Char :=
  cs.flatMap fun c =>
    if keeps c then [c] else (String.utf8EncodeChar c).flatMap percentByte

end Text

end Scriptorium
