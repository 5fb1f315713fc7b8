import Scriptorium.Standin.Encoding.Wide

/-!
UTF-7. ASCII stands for itself but for the plus sign, which opens a stretch of base-64 digits. The
digits make up units of 16 bits; the bits that are left over at the end of the stretch are fewer
than a digit has, and all zero. A hyphen behind the stretch belongs to it, and a plus sign and a
hyphen alone stand for the plus sign.
-/

namespace Scriptorium
set_option autoImplicit false

namespace Encoding

namespace Utf7

def plus : UInt8 := 0x2b
def hyphen : UInt8 := 0x2d

def digit? (b : UInt8) : Option Nat :=
  let n := b.toNat
  if 0x41 ≤ n ∧ n ≤ 0x5a then some (n - 0x41)
  else if 0x61 ≤ n ∧ n ≤ 0x7a then some (n - 0x47)
  else if 0x30 ≤ n ∧ n ≤ 0x39 then some (n + 4)
  else if b = plus then some 62
  else if b = 0x2f then some 63
  else none

/-- What a stretch of digits has come to: the bits that are no whole unit yet, how many they are,
and whether the high half of a pair waits for the low one. -/
structure Stretch where
  bits : Nat
  count : Nat
  half : Bool
  deriving DecidableEq, Repr

inductive State where
  | direct
  /-- a plus sign was just read -/
  | opened
  | digits (s : Stretch)
  deriving DecidableEq, Repr

/-- A half that nothing completes is a character of its own. -/
private def lone (half : Bool) : List Char := if half then [beyond] else []

def Stretch.unit (half : Bool) (n : Nat) : Bool × List Char :=
  if half && Wide.isLowHalf n then (false, [beyond])
  else if Wide.isHighHalf n then (true, lone half)
  else (false, lone half ++ [charOf n])

def Stretch.digit (s : Stretch) (d : Nat) : Stretch × List Char :=
  let bits := s.bits * 64 + d
  let count := s.count + 6
  if count < 16 then ({ s with bits, count }, [])
  else
    let size := 1 <<< (count - 16)
    let (half, cs) := unit s.half (bits / size)
    (⟨bits % size, count - 16, half⟩, cs)

/-- Whether the bits that are left over are none but padding. -/
def Stretch.isPadded (s : Stretch) : Bool := s.count < 6 && s.bits == 0

def direct (b : UInt8) : Option (State × List Char) :=
  if b = plus then some (.opened, [])
  else if b < 0x80 then some (.direct, [charOf b.toNat])
  else none

def step : State → UInt8 → Option (State × List Char)
  | .direct, b => direct b
  | .opened, b =>
    if b = hyphen then some (.direct, ['+'])
    else (digit? b).map fun d =>
      let (s, cs) := Stretch.digit ⟨0, 0, false⟩ d
      (.digits s, cs)
  | .digits s, b =>
    match digit? b with
    | some d =>
      let (s, cs) := s.digit d
      some (.digits s, cs)
    | none =>
      if !s.isPadded then none
      else if b = hyphen then some (.direct, lone s.half)
      else (direct b).map fun (t, cs) => (t, lone s.half ++ cs)

def finish : State → Option (List Char)
  | .direct | .opened => some []
  | .digits s => if s.isPadded && !s.half then some [] else none

def reader : Reader State := ⟨step, finish⟩

def decode : Decoder := reader.readFrom .direct

end Utf7

end Encoding

end Scriptorium
