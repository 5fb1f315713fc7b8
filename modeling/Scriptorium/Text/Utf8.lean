/-!
Texts as bytes. `bytes` writes a text in UTF-8; `decode` reads bytes back, giving for each
character the character and for each ill-formed part nothing. An ill-formed part is as long as it
could still have been the beginning of a character, and a byte that could not is read anew.

`byteOffsets?` is the table from byte offsets to character offsets. It is left out when every
character is one byte, since the two then coincide.
-/

namespace Scriptorium
set_option autoImplicit false

namespace Text

def bytes (cs : List Char) : List UInt8 := cs.flatMap String.utf8EncodeChar

def byteLength : List Char → Nat
  | [] => 0
  | c :: cs => c.utf8Size + byteLength cs

/-- For each byte the number of the character it belongs to, counting from `n`, and at the end the
number of the character that would follow. -/
def offsetTable (n : Nat) : List Char → List Nat
  | [] => [n]
  | c :: cs => List.replicate c.utf8Size n ++ offsetTable (n + 1) cs

def byteOffsets? (cs : List Char) : Option (List Nat) :=
  if byteLength cs = cs.length then none else some (offsetTable 0 cs)

/-- The character offset of a byte offset, by the table if there is one. -/
def charOffset (table : Option (List Nat)) (byte : Nat) : Nat :=
  match table with
  | none => byte
  | some t => t.getD byte (t.getLast?.getD 0)

/-- A character of which some bytes are still owed. The next one must lie in a range. -/
structure Begun where
  owed : Nat
  low : UInt8
  high : UInt8
  value : Nat

/-- What a first byte is: a whole character, the beginning of one, or neither. -/
inductive First where
  | whole (c : Char)
  | begun (b : Begun)
  | stray

def first (b : UInt8) : First :=
  let n := b.toNat
  if n < 0x80 then .whole (Char.ofNat n)
  else if n < 0xc2 then .stray
  else if n < 0xe0 then .begun ⟨0, 0x80, 0xbf, n - 0xc0⟩
  else if n < 0xf0 then
    .begun ⟨1, if n = 0xe0 then 0xa0 else 0x80, if n = 0xed then 0x9f else 0xbf, n - 0xe0⟩
  else if n < 0xf5 then
    .begun ⟨2, if n = 0xf0 then 0x90 else 0x80, if n = 0xf4 then 0x8f else 0xbf, n - 0xf0⟩
  else .stray

/-- Reads on in the midst of a character, or between two. -/
def decodeFrom : Option Begun → List UInt8 → List (Option Char)
  | none, [] => []
  | some _, [] => [none]
  | none, b :: bs =>
    match first b with
    | .whole c => some c :: decodeFrom none bs
    | .begun p => decodeFrom (some p) bs
    | .stray => none :: decodeFrom none bs
  | some p, b :: bs =>
    if p.low ≤ b ∧ b ≤ p.high then
      let value := p.value * 64 + (b.toNat - 0x80)
      match p.owed with
      | 0 => some (Char.ofNat value) :: decodeFrom none bs
      | owed + 1 => decodeFrom (some ⟨owed, 0x80, 0xbf, value⟩) bs
    else
      match first b with
      | .whole c => none :: some c :: decodeFrom none bs
      | .begun q => none :: decodeFrom (some q) bs
      | .stray => none :: none :: decodeFrom none bs

def decode (bs : List UInt8) : List (Option Char) := decodeFrom none bs

def decode? (bs : List UInt8) : Option (List Char) := (decode bs).mapM id

/-- The text with a replacement character for each ill-formed part. -/
def decodeLossy (bs : List UInt8) : List Char := (decode bs).map fun c => c.getD '\ufffd'

/-- The text whose characters have the bytes as their numbers. -/
def decodeLatin1 (bs : List UInt8) : List Char := bs.map fun b => Char.ofNat b.toNat

/-- The text of the bytes below 128, with a replacement character for each other one. -/
def decodeAscii (bs : List UInt8) : List Char :=
  bs.map fun b => if b < 0x80 then Char.ofNat b.toNat else '\ufffd'

end Text

end Scriptorium
