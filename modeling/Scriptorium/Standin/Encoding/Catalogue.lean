import Scriptorium.Standin.Encoding.CodePage
import Scriptorium.Standin.Encoding.Escaped
import Scriptorium.Standin.Encoding.Switching
import Scriptorium.Standin.Encoding.Utf7
import Scriptorium.Standin.Punycode

/-!
The names of encodings, and the encodings in which ASCII does not stand for itself, by their names.
Letters count alike in a name, and so does all that is neither letter, digit nor point.
-/

namespace Scriptorium
set_option autoImplicit false

namespace Encoding

private def joined : List (List Char) → List Char
  | [] => []
  | [cs] => cs
  | cs :: rest => cs ++ '_' :: joined rest

/-- A name in small letters, its words joined by underscores. A point is part of a word. -/
def normalName (name : List Char) : List Char :=
  let words := (name.map Char.toLower).splitOnP fun c => !(c.isAlphanum || c == '.')
  joined (words.filter (· ≠ []))

/-- How an encoding is called: its proper name, and others in which a point may stand for an
underscore. -/
structure Label where
  proper : String
  others : List String := []
  deriving DecidableEq, Repr

def Label.Names (l : Label) (name : List Char) : Prop :=
  let n := normalName name
  let plain := n.map fun c => if c = '.' then '_' else c
  String.ofList n = l.proper ∨ String.ofList plain ∈ l.others

instance (l : Label) (name : List Char) : Decidable (l.Names name) := by
  unfold Label.Names; infer_instance

/-- UTF-8 with a mark in front, which is no part of the text. -/
def marked : Decoder
  | 0xef :: 0xbb :: 0xbf :: bs => some (bs.map fun b => charOf b.toNat)
  | bs => some (bs.map fun b => charOf b.toNat)

/-- Punycode, which is written in ASCII. -/
def punycode : Decoder := fun bs =>
  if bs.any (0x80 ≤ ·) then none
  else (Text.Punycode.decode? (bs.map fun b => charOf b.toNat)).map (·.map charOf)

/-- The encodings in which bytes below 128 may stand for other characters than those of ASCII, or
other bytes for those. -/
def catalogue : List (Label × Decoder) :=
  [(⟨"utf_7", ["u7", "utf7", "unicode_1_1_utf_7"]⟩, Utf7.decode), (⟨"utf_8_sig", []⟩, marked),
    (⟨"utf_16", ["u16", "utf16"]⟩, Wide.markedUtf16),
    (⟨"utf_16_be", ["unicodebigunmarked", "utf_16be"]⟩, Wide.utf16 .big),
    (⟨"utf_16_le", ["unicodelittleunmarked", "utf_16le"]⟩, Wide.utf16 .little),
    (⟨"utf_32", ["u32", "utf32"]⟩, Wide.markedUtf32),
    (⟨"utf_32_be", ["utf_32be"]⟩, Wide.utf32 .big),
    (⟨"utf_32_le", ["utf_32le"]⟩, Wide.utf32 .little),
    (⟨"unicode_escape", []⟩, Escaped.decode), (⟨"raw_unicode_escape", []⟩, Escaped.decodeRaw),
    (⟨"punycode", []⟩, punycode),
    (⟨"cp037", ["037", "csibm037", "ebcdic_cp_ca", "ebcdic_cp_nl", "ebcdic_cp_us", "ebcdic_cp_wt",
      "ibm037", "ibm039"]⟩, Ebcdic.common.decode),
    (⟨"cp1140", ["1140", "ibm1140"]⟩, Ebcdic.common.decode),
    (⟨"cp424", ["424", "csibm424", "ebcdic_cp_he", "ibm424"]⟩, Ebcdic.hebrew.decode),
    (⟨"cp500", ["500", "csibm500", "ebcdic_cp_be", "ebcdic_cp_ch", "ibm500"]⟩,
      Ebcdic.international.decode),
    (⟨"cp273", ["273", "csibm273", "ibm273"]⟩, Ebcdic.german.decode),
    (⟨"cp1026", ["1026", "csibm1026", "ibm1026"]⟩, Ebcdic.turkish.decode),
    (⟨"cp875", []⟩, Ebcdic.greek.decode), (⟨"cp864", ["864", "csibm864", "ibm864"]⟩, arabicPage),
    (⟨"mac_arabic", []⟩, doubledSigns), (⟨"mac_farsi", []⟩, doubledSigns),
    (⟨"shift_jis_2004", ["s_jis_2004", "shiftjis2004", "sjis_2004"]⟩, shiftedJapanese),
    (⟨"shift_jisx0213", ["s_jisx0213", "shiftjisx0213", "sjisx0213"]⟩, shiftedJapanese),
    (⟨"hz", ["hz_gb", "hz_gb_2312", "hzgb"]⟩, Tilde.decode),
    (⟨"iso2022_kr", ["csiso2022kr", "iso2022kr", "iso_2022_kr"]⟩, Announced.korean.decode),
    (⟨"iso2022_jp", ["csiso2022jp", "iso2022jp", "iso_2022_jp"]⟩, Announced.japanese.decode),
    (⟨"iso2022_jp_1", ["iso2022jp_1", "iso_2022_jp_1"]⟩, Announced.japanese1.decode),
    (⟨"iso2022_jp_2", ["iso2022jp_2", "iso_2022_jp_2"]⟩, Announced.japanese2.decode),
    (⟨"iso2022_jp_2004", ["iso2022jp_2004", "iso_2022_jp_2004"]⟩, Announced.japanese2004.decode),
    (⟨"iso2022_jp_3", ["iso2022jp_3", "iso_2022_jp_3"]⟩, Announced.japanese3.decode),
    (⟨"iso2022_jp_ext", ["iso2022jp_ext", "iso_2022_jp_ext"]⟩, Announced.japaneseExtended.decode)]

/-- The encoding of a name, if it is one in which ASCII does not stand for itself. -/
def named? (name : List Char) : Option Decoder :=
  (catalogue.find? fun e => decide (e.1.Names name)).map Prod.snd

end Encoding

end Scriptorium
