import Scriptorium.Text.Quoted

/-!
The values of headers. They are written in ASCII; a request or a response whose headers have other
characters cannot be sent at all.
-/

namespace Scriptorium
set_option autoImplicit false

namespace Header

private def isAscii (c : Char) : Bool := c.toNat < 0x80

/-- Why a value cannot be written: the first characters in a row that are not ASCII, and where they
stand. -/
structure Fault where
  position : Nat
  first : Char
  others : List Char
  deriving DecidableEq, Repr

def fault? (value : String) : Option Fault :=
  match value.toList.dropWhile isAscii with
  | c :: rest =>
    some ⟨(value.toList.takeWhile isAscii).length, c, rest.takeWhile (!isAscii ·)⟩
  | [] => none

def Fault.message (f : Fault) : String :=
  let place :=
    if f.others = [] then
      " '" ++ String.ofList (Text.numeral f.first.toNat) ++ "' in position " ++ toString f.position
    else
      "s in position " ++ toString f.position ++ "-" ++ toString (f.position + f.others.length)
  "'ascii' codec can't encode character" ++ place ++ ": ordinal not in range(128)"

end Header

end Scriptorium
