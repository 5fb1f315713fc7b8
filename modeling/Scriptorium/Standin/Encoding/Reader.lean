/-!
Readers of encoded text. A reader takes one byte after the other, and after each gives the
characters that it can tell by now. It gives up at a byte that cannot stand where it stands, and at
the end it may still wait for more. Only ASCII is told apart: every character beyond it is read as
the replacement character.
-/

namespace Scriptorium
set_option autoImplicit false

namespace Encoding

/-- What stands for every character beyond ASCII. -/
def beyond : Char := '\ufffd'

/-- The character of a number, or `beyond`. -/
def charOf (n : Nat) : Char := if n < 0x80 then Char.ofNat n else beyond

/-- The text that bytes are the encoding of, if they are one. -/
abbrev Decoder := List UInt8 → Option (List Char)

/-- Reads byte by byte; `σ` is what is kept from one byte to the next. -/
structure Reader (σ : Type) where
  step : σ → UInt8 → Option (σ × List Char)
  finish : σ → Option (List Char)

namespace Reader
variable {σ : Type}

def readFrom (r : Reader σ) (s : σ) : Decoder
  | [] => r.finish s
  | b :: bs =>
    match r.step s b with
    | some (s, cs) => (readFrom r s bs).map (cs ++ ·)
    | none => none

end Reader

end Encoding

end Scriptorium
