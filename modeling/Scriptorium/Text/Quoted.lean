import Scriptorium.Text.Printable

/-!
Quoted texts, as messages show them. The quotes are single unless the text has a single quote and
no double one; the quote in use, the backslash and everything that is not printable is escaped.
-/

namespace Scriptorium
set_option autoImplicit false

namespace Text

private def hexDigit (n : Nat) : Char :=
  if n < 10 then Char.ofNat (0x30 + n) else Char.ofNat (0x57 + n)

/-- The lowest `width` hexadecimal digits of a number. -/
def hex (width n : Nat) : List Char :=
  match width with
  | 0 => []
  | w + 1 => hex w (n / 16) ++ [hexDigit (n % 16)]

def quoteFor (cs : List Char) : Char := if '\'' ∈ cs ∧ '"' ∉ cs then '"' else '\''

/-- A character by its number, as short as such numbers are written. -/
def numeral (n : Nat) : List Char :=
  if n < 0x100 then '\\' :: 'x' :: hex 2 n
  else if n < 0x10000 then '\\' :: 'u' :: hex 4 n
  else '\\' :: 'U' :: hex 8 n

def escaped (quote c : Char) : List Char :=
  if c = quote ∨ c = '\\' then ['\\', c]
  else if c = '\n' then ['\\', 'n']
  else if c = '\r' then ['\\', 'r']
  else if c = '\t' then ['\\', 't']
  else if isPrintable c then [c]
  else numeral c.toNat

def quotedChars (cs : List Char) : List Char :=
  quoteFor cs :: cs.flatMap (escaped (quoteFor cs)) ++ [quoteFor cs]

def quoted (s : String) : String := String.ofList (quotedChars s.toList)

/-- A text that is given by the numbers of its characters. A number that no character has is shown
as it is. -/
def quotedNumbers (ns : List Nat) : String :=
  let quote := quoteFor (ns.map Char.ofNat)
  let shown (n : Nat) : List Char :=
    if n.isValidChar then escaped quote (Char.ofNat n) else numeral n
  String.ofList (quote :: ns.flatMap shown ++ [quote])

end Text

end Scriptorium
