import Scriptorium.Standin.Encoding.Reader

/-!
Encodings with a byte for each character that do not have ASCII in its places. There are pages with
an order of their own (`Ebcdic`), which differ from each other in a few characters, and pages that
have ASCII in its places but for a few bytes.
-/

namespace Scriptorium
set_option autoImplicit false

namespace Encoding

/-- The bytes of the ASCII characters, in the order of these. -/
def ebcdicPlaces : List UInt8 :=
  [0, 1, 2, 3, 55, 45, 46, 47, 22, 5, 37, 11, 12, 13, 14, 15, 16, 17, 18, 19, 60, 61, 50, 38, 24,
    25, 63, 39, 28, 29, 30, 31, 64, 90, 127, 123, 91, 108, 80, 125, 77, 93, 92, 78, 107, 96, 75,
    97, 240, 241, 242, 243, 244, 245, 246, 247, 248, 249, 122, 94, 76, 126, 110, 111, 124, 193,
    194, 195, 196, 197, 198, 199, 200, 201, 209, 210, 211, 212, 213, 214, 215, 216, 217, 226, 227,
    228, 229, 230, 231, 232, 233, 186, 224, 187, 176, 109, 121, 129, 130, 131, 132, 133, 134, 135,
    136, 137, 145, 146, 147, 148, 149, 150, 151, 152, 153, 162, 163, 164, 165, 166, 167, 168, 169,
    192, 79, 208, 161, 7]

/-- A page: the characters that have another place in it, the characters that have one more, and
the bytes that are none. -/
structure Ebcdic where
  moved : List (UInt8 × Char) := []
  further : List (UInt8 × Char) := []
  gaps : List UInt8 := []
  deriving DecidableEq, Repr

namespace Ebcdic

def char? (page : Ebcdic) (b : UInt8) : Option Char :=
  let usual := charOf (ebcdicPlaces.idxOf b)
  if b ∈ page.gaps then none
  else
    match (page.moved ++ page.further).lookup b with
    | some c => some c
    | none => some (if page.moved.any fun e => e.2 = usual then beyond else usual)

def decode (page : Ebcdic) : Decoder := fun bs => bs.mapM page.char?

/-- The page of most countries. -/
def common : Ebcdic := {}

def hebrew : Ebcdic where
  gaps :=
    [0x70, 0x72, 0x73, 0x75, 0x76, 0x77, 0x80, 0x8c, 0x8d, 0x8e, 0x9a, 0x9b, 0x9c, 0x9e, 0xaa,
      0xab, 0xac, 0xad, 0xae, 0xcb, 0xcc, 0xcd, 0xce, 0xcf, 0xdb, 0xdc, 0xdd, 0xde, 0xdf, 0xeb,
      0xec, 0xed, 0xee, 0xef, 0xfb, 0xfc, 0xfd, 0xfe]

/-- The page of several countries at once. -/
def international : Ebcdic where
  moved := [(79, '!'), (74, '['), (90, ']'), (95, '^'), (187, '|')]

def german : Ebcdic where
  moved :=
    [(79, '!'), (181, '@'), (99, '['), (236, '\\'), (252, ']'), (95, '^'), (67, '\x7b'),
      (187, '|'), (220, '\x7d'), (89, '~')]

def turkish : Ebcdic where
  moved :=
    [(79, '!'), (252, '"'), (236, '#'), (173, '$'), (174, '@'), (104, '['), (220, '\\'),
      (172, ']'), (95, '^'), (141, '\x60'), (72, '\x7b'), (187, '|'), (140, '\x7d'), (204, '~')]

/-- The page of Greek, in which a control character fills the gaps. -/
def greek : Ebcdic where
  moved := [(79, '!'), (74, '['), (90, ']'), (95, '^'), (106, '|')]
  further :=
    [(220, '\x1a'), (225, '\x1a'), (236, '\x1a'), (237, '\x1a'), (252, '\x1a'), (253, '\x1a')]

end Ebcdic

/-- The page of Arabic that has its own percent sign in the place of ASCII's. -/
def arabicPage : Decoder := fun bs =>
  some (bs.map fun b => if b = 0x25 then beyond else charOf b.toNat)

/-- The bytes that repeat the signs of ASCII for a script that runs from right to left. -/
def repeatedSigns : List UInt8 :=
  [0xa0, 0xa1, 0xa2, 0xa3, 0xa4, 0xa6, 0xa7, 0xa8, 0xa9, 0xaa, 0xab, 0xad, 0xae, 0xaf, 0xba, 0xbc,
    0xbd, 0xbe, 0xdb, 0xdc, 0xdd, 0xde, 0xdf, 0xfb, 0xfc, 0xfd]

/-- A page that has the signs of ASCII twice. -/
def doubledSigns : Decoder := fun bs =>
  some (bs.map fun b => charOf (if b ∈ repeatedSigns then b.toNat - 0x80 else b.toNat))

/-- An encoding of Japanese with a currency sign and an overline in two places of ASCII, whose own
characters are pairs of bytes instead. -/
def shiftedJapanese : Decoder
  | [] => some []
  | 0x81 :: 0x5f :: bs => (shiftedJapanese bs).map ('\\' :: ·)
  | 0x81 :: 0xb0 :: bs => (shiftedJapanese bs).map ('~' :: ·)
  | b :: bs =>
    (shiftedJapanese bs).map
      ((if b = 0x5c ∨ b = 0x7e then beyond else charOf b.toNat) :: ·)

end Encoding

end Scriptorium
