import Scriptorium.Number.Numeral
import Scriptorium.Standin.Console.ColorName
import Scriptorium.Text.Small

/-!
Styles, as a tag describes them in words: emphases, a colour, the colour behind the text, and an
address to link to. A style has one normal description, by which tags that open and close it are
compared; a description that is none is compared as it is written (`normalName`).

A colour made of three parts must have numbers for them. A part that is none is not only no style,
but an error (`Fault.notANumber`).
-/

namespace Scriptorium
set_option autoImplicit false

/-- The emphases, in the order in which a style names them. -/
inductive Emphasis where
  | bold
  | dim
  | italic
  | underline
  | blink
  | blink2
  | reverse
  | conceal
  | strike
  | underline2
  | frame
  | encircle
  | overline
  deriving DecidableEq, Repr

namespace Emphasis

/-- The words for an emphasis, the proper one first. -/
def words : Emphasis → List String
  | bold => ["bold", "b"]
  | dim => ["dim", "d"]
  | italic => ["italic", "i"]
  | underline => ["underline", "u"]
  | blink => ["blink"]
  | blink2 => ["blink2"]
  | reverse => ["reverse", "r"]
  | conceal => ["conceal", "c"]
  | strike => ["strike", "s"]
  | underline2 => ["underline2", "uu"]
  | frame => ["frame"]
  | encircle => ["encircle"]
  | overline => ["overline", "o"]

def all : List Emphasis :=
  [bold, dim, italic, underline, blink, blink2, reverse, conceal, strike, underline2, frame,
    encircle, overline]

def ofWord? (word : List Char) : Option Emphasis :=
  all.find? fun e => String.ofList word ∈ e.words

end Emphasis

/-- What a style asks for. An emphasis may be asked for or forbidden. -/
structure TagStyle where
  emphases : List (Emphasis × Bool) := []
  color : Option (List Char) := none
  background : Option (List Char) := none
  link : Option (List Char) := none
  deriving DecidableEq, Repr

namespace TagStyle
open Text

inductive Fault where
  | unknown
  | notANumber
  deriving DecidableEq, Repr

def wordsOf (cs : List Char) : List (List Char) := (cs.splitOnP isBlank).filter (· ≠ [])

/-! ## Colours -/

/-- What stands between a word with a bracket behind it and the closing bracket. -/
def argument? (word : String) (cs : List Char) : Option (List Char) :=
  let opening := word.toList ++ ['(']
  let inner := (cs.drop opening.length).dropLast
  if opening.isPrefixOf cs ∧ cs.getLast? = some ')' ∧ opening.length < cs.length then some inner
  else none

private def number (cs : List Char) : Nat := cs.foldl (fun n c => n * 10 + (digit? c).getD 0) 0

def triple (cs : List Char) : Except Fault Unit :=
  let parts := cs.splitOnP (· == ',')
  if cs = [] ∨ !(cs.all fun c => c = ',' || isBlank c || (digit? c).isSome) ∨ parts.length ≠ 3 then
    .error .unknown
  else if !parts.all Numeral.isInteger then .error .notANumber
  else if parts.all fun part => number part ≤ 255 then .ok ()
  else .error .unknown

private def isHexDigit (c : Char) : Bool := c.isDigit || ('a' ≤ c && c ≤ 'f')

/-- A colour by its name, its number or its parts, in small letters. -/
def readColor (word : List Char) : Except Fault (List Char) :=
  let word := lowered word
  if word = "default".toList ∨ ColorName.isName (String.ofList word) then .ok word
  else if word.head? = some '#' then
    if word.length = 7 ∧ word.tail.all isHexDigit then .ok word else .error .unknown
  else
    match argument? "color" word, argument? "rgb" word with
    | some ds, _ =>
      if ds ≠ [] ∧ ds.length ≤ 3 ∧ ds.all Char.isDigit ∧ number ds ≤ 255 then .ok word
      else .error .unknown
    | _, some parts => (triple parts).map fun _ => word
    | none, none => .error .unknown

/-! ## Styles -/

/-- Asks for an emphasis or forbids it, whatever was said of it before. -/
def emphasize (s : TagStyle) (e : Emphasis) (value : Bool) : TagStyle :=
  { s with emphases := (e, value) :: s.emphases.filter fun p => p.1 ≠ e }

def readFrom (s : TagStyle) : List (List Char) → Except Fault TagStyle
  | [] => .ok s
  | [word] =>
    match Emphasis.ofWord? (lowered word) with
    | some e => .ok (s.emphasize e true)
    | none => (readColor word).map fun c => { s with color := some c }
  | word :: next :: rest =>
    if lowered word = "on".toList then do
      readFrom { s with background := some (← readColor next) } rest
    else if lowered word = "not".toList then
      match Emphasis.ofWord? next with
      | some e => readFrom (s.emphasize e false) rest
      | none => .error .unknown
    else if lowered word = "link".toList then readFrom { s with link := some next } rest
    else
      match Emphasis.ofWord? (lowered word) with
      | some e => readFrom (s.emphasize e true) (next :: rest)
      | none => do readFrom { s with color := some (← readColor word) } (next :: rest)

def read (description : List Char) : Except Fault TagStyle :=
  if trim description = "none".toList then .ok {} else readFrom {} (wordsOf description)

def words (s : TagStyle) : List (List Char) :=
  (Emphasis.all.flatMap fun e =>
    match s.emphases.lookup e with
    | some value =>
      (if value then [] else ["not".toList]) ++ (e.words.take 1).map String.toList
    | none => []) ++
  s.color.toList ++ (s.background.elim [] fun c => ["on".toList, c]) ++
  (s.link.elim [] fun l => ["link".toList, l])

def description (s : TagStyle) : List Char :=
  if s.words = [] then "none".toList else [' '].intercalate s.words

/-- Whether no colour in a description has parts that are no numbers. -/
def isSound (description : List Char) : Bool :=
  match read description with
  | .error .notANumber => false
  | _ => true

/-- The name that a tag goes by. -/
def normalName (name : List Char) : Except Fault (List Char) :=
  match read name with
  | .ok s => .ok s.description
  | .error .unknown => .ok (lowered (trim name))
  | .error .notANumber => .error .notANumber

end TagStyle

end Scriptorium
