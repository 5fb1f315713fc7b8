import Scriptorium.Standin.Console.EmojiName
import Scriptorium.Standin.Console.Grapheme
import Scriptorium.Text.Class
import Scriptorium.Text.Small

/-!
Pictures by their names. The console shows a picture in place of its name between colons; what is
between colons and names no picture is shown as it stands. A name may end in the tone of a skin, and
behind it may stand how the picture is to be shown. What is shown of a text has pictures in place of
their names, and five control characters are dropped.
-/

namespace Scriptorium
set_option autoImplicit false

namespace Emoji
open Text Display

def pairs : List (List Char) → List (List Char × List Char)
  | name :: picture :: rest => (name, picture) :: pairs rest
  | _ => []

def entries (table : String) : List (List Char × List Char) :=
  pairs ((table.toList.splitOnP isBlank).filter (· ≠ []))

def peopleEntries : List (List Char × List Char) := entries people

def flagEntries : List (List Char × List Char) := entries flags

def pictureEntries : List (List Char × List Char) := entries pictures

/-- The sign for a letter of a country. -/
def flagLetter (c : Char) : Char := Char.ofNat (0x1f1e6 + (c.toNat - 'a'.toNat))

def withoutEnd? (ending : String) (cs : List Char) : Option (List Char) :=
  if ending.toList.isSuffixOf cs then some (cs.take (cs.length - ending.length)) else none

/-- What stands behind the name of a picture, and the sign for the tone of the skin. -/
def tones : List (String × Char) :=
  [("_light_skin_tone", '🏻'), ("_medium-light_skin_tone", '🏼'),
    ("_medium_skin_tone", '🏽'), ("_medium-dark_skin_tone", '🏾'),
    ("_dark_skin_tone", '🏿')]

/-- The sign that asks for letters and not for a picture. -/
def letterSign : Char := '\ufe0e'

/-- A picture with the sign for a tone behind its first character, in place of the one that asks
for a picture. -/
def withTone (tone : Char) : List Char → List Char
  | c :: cs => c :: tone :: cs.dropWhile (· == pictureSign)
  | [] => []

def named? (name : List Char) : Option (List Char) :=
  let country := if "flag_for_".toList.isPrefixOf name then name.drop 9 else name
  peopleEntries.lookup name <|> pictureEntries.lookup name <|>
    (flagEntries.lookup country).map (·.map flagLetter) <|>
    tones.findSome? fun t =>
      ((withoutEnd? t.1 name).bind fun base => peopleEntries.lookup base).map (withTone t.2)

/-- The picture of what stands between colons. -/
def picture? (cs : List Char) : Option (List Char) :=
  let shown (ending : String) (sign : Char) :=
    (withoutEnd? ending cs).map fun name => (named? (lowered name)).map (· ++ [sign])
  (shown "-text" letterSign <|> shown "-emoji" pictureSign).getD (named? (lowered cs))

private def isInside (c : Char) : Bool := c != ':' && !isBlank c

/-- What stands between the colon that a text begins with and the next one, and what follows it.
There are no blanks between them. -/
def between? : List Char → Option (List Char × List Char)
  | ':' :: cs =>
    match cs.dropWhile isInside with
    | ':' :: rest => some (cs.takeWhile isInside, rest)
    | _ => none
  | _ => none

theorem length_lt_of_between? {cs inner rest : List Char} (h : between? cs = some (inner, rest)) :
    rest.length < cs.length := by
  unfold between? at h
  split at h
  · rename_i ds
    split at h
    · rename_i r hd
      have hl := (List.dropWhile_suffix isInside (l := ds)).length_le
      rw [hd] at hl
      cases h
      simp only [List.length_cons] at hl ⊢
      omega
    · cases h
  · cases h

/-- The text with pictures for their names. -/
def replaced (cs : List Char) : List Char :=
  match _h : between? cs with
  | some (inner, rest) => (picture? inner).getD (':' :: inner ++ [':']) ++ replaced rest
  | none =>
    match cs with
    | [] => []
    | c :: cs => c :: replaced cs
  termination_by cs.length
  decreasing_by
    · exact length_lt_of_between? _h
    · exact Nat.lt_succ_self _

end Emoji

namespace Display

/-- Bell, backspace, vertical tab, form feed and carriage return are not shown. -/
def isDropped (c : Char) : Bool := c.toNat ∈ [7, 8, 11, 12, 13]

def visible (cs : List Char) : List Char := (Emoji.replaced cs).filter fun c => !isDropped c

end Display

end Scriptorium
