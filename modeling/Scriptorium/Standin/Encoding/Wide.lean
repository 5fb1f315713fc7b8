import Scriptorium.Standin.Encoding.Reader

/-!
Encodings whose units are two or four bytes wide. A unit of two bytes is a character or one half of
a pair that makes up a character; one of four bytes is a character. A mark in front may say which
byte of a unit comes first.
-/

namespace Scriptorium
set_option autoImplicit false

namespace Encoding

/-- Which byte of a unit comes first, the high one or the low one. -/
inductive ByteOrder where
  | big
  | little
  deriving DecidableEq, Repr

def ByteOrder.value : ByteOrder → List UInt8 → Nat
  | .big, bs => bs.foldl (fun n b => n * 256 + b.toNat) 0
  | .little, bs => bs.foldr (fun b n => n * 256 + b.toNat) 0

namespace Wide

/-- The units of two bytes, if nothing is left over. -/
def pairs? (order : ByteOrder) : List UInt8 → Option (List Nat)
  | [] => some []
  | a :: b :: bs => (pairs? order bs).map (order.value [a, b] :: ·)
  | _ => none

/-- The units of four bytes, if nothing is left over. -/
def fours? (order : ByteOrder) : List UInt8 → Option (List Nat)
  | [] => some []
  | a :: b :: c :: d :: bs => (fours? order bs).map (order.value [a, b, c, d] :: ·)
  | _ => none

def isHighHalf (n : Nat) : Bool := 0xd800 ≤ n && n < 0xdc00
def isLowHalf (n : Nat) : Bool := 0xdc00 ≤ n && n < 0xe000

/-- The characters of units of two bytes. Halves come in pairs, the high one first. -/
def ofPairs? : List Nat → Option (List Char)
  | [] => some []
  | [n] => if isHighHalf n || isLowHalf n then none else some [charOf n]
  | n :: m :: ns =>
    if isHighHalf n then
      if isLowHalf m then (ofPairs? ns).map (beyond :: ·) else none
    else if isLowHalf n then none
    else (ofPairs? (m :: ns)).map (charOf n :: ·)

def ofFours? (ns : List Nat) : Option (List Char) :=
  if ns.all fun n => Nat.isValidChar n then some (ns.map charOf) else none

def utf16 (order : ByteOrder) : Decoder := fun bs => (pairs? order bs).bind ofPairs?

def utf32 (order : ByteOrder) : Decoder := fun bs => (fours? order bs).bind ofFours?

/-- Units of two bytes, with the low byte first unless a mark says otherwise. -/
def markedUtf16 : Decoder
  | 0xff :: 0xfe :: bs => utf16 .little bs
  | 0xfe :: 0xff :: bs => utf16 .big bs
  | bs => utf16 .little bs

/-- Units of four bytes, with the low byte first unless a mark says otherwise. -/
def markedUtf32 : Decoder
  | 0xff :: 0xfe :: 0 :: 0 :: bs => utf32 .little bs
  | 0 :: 0 :: 0xfe :: 0xff :: bs => utf32 .big bs
  | bs => utf32 .little bs

end Wide

end Encoding

end Scriptorium
