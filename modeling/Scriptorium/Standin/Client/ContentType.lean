import Scriptorium.Number.Numeral
import Scriptorium.Standin.Encoding.Catalogue
import Scriptorium.Text.Class
import Scriptorium.Text.Percent

/-!
Content types. Behind the type itself stand parameters, each a name and a value, between
semicolons outside of quotes. A value may come in numbered segments, whose names end in an asterisk
and a number; segments with another asterisk are written with percent signs, and then the whole
begins with the encoding that it is written in and its language.
-/

namespace Scriptorium
set_option autoImplicit false

inductive Charset where
  | utf8
  | latin1
  | ascii
  deriving DecidableEq, Repr

def Charset.decode : Charset → List UInt8 → List Char
  | .utf8 => Text.decodeLossy
  | .latin1 => Text.decodeLatin1
  | .ascii => Text.decodeAscii

namespace ContentType
open Text

/-- The texts between semicolons, when one is begun. A quote opens or closes a quotation, unless a
backslash stands in front of it. -/
def piecesFrom (piece : List Char) (quoting : Bool) : List Char → List (List Char)
  | [] => [piece]
  | c :: cs =>
    if c = ';' ∧ !quoting then piece :: piecesFrom [] false cs
    else
      let turns := c = '"' && piece.getLast? != some '\\'
      piecesFrom (piece ++ [c]) (quoting != turns) cs

def pieces (cs : List Char) : List (List Char) := piecesFrom [] false cs

structure Field where
  name : List Char
  value : List Char
  deriving DecidableEq, Repr

/-- A name, and what follows its equals sign. A name without a value stands as it is written. -/
def Field.ofPiece (piece : List Char) : Field :=
  if '=' ∈ piece then
    ⟨(trim (piece.takeWhile (· != '='))).map Char.toLower,
      trim ((piece.dropWhile (· != '=')).drop 1)⟩
  else ⟨trim piece, []⟩

/-- Puts `c` for each pair of `a` and `b`, from the front on. -/
def contract (a b c : Char) : List Char → List Char
  | x :: y :: cs =>
    if x = a ∧ y = b then c :: contract a b c cs else x :: contract a b c (y :: cs)
  | cs => cs

/-- The text within quotes, with its backslashes resolved, or within angle brackets. -/
def unquoted (cs : List Char) : List Char :=
  let inner := (cs.drop 1).dropLast
  if cs.length < 2 then cs
  else if cs.head? = some '"' ∧ cs.getLast? = some '"' then
    contract '\\' '"' '"' (contract '\\' '\\' '\\' inner)
  else if cs.head? = some '<' ∧ cs.getLast? = some '>' then inner
  else cs

inductive Fault where
  /-- the name of an encoding has a NUL character in it -/
  | nul
  /-- the segments of one parameter are numbered in part; the first one may be or not -/
  | partlyNumbered (isFirstNumbered : Bool)
  | longNumber (digits : Nat)
  deriving DecidableEq, Repr

def Fault.message : Fault → String
  | .nul => "embedded null character"
  | .partlyNumbered true => "'<' not supported between instances of 'NoneType' and 'int'"
  | .partlyNumbered false => "'<' not supported between instances of 'int' and 'NoneType'"
  | .longNumber digits =>
    "Exceeds the limit (" ++ toString Numeral.maxDigits ++
      " digits) for integer string conversion: value has " ++ toString digits ++
      " digits; use sys.set_int_max_str_digits() to increase the limit"

structure Segment where
  name : List Char
  number : Option Nat
  percent : Bool
  value : List Char
  deriving DecidableEq, Repr

private def isWordChar (c : Char) : Bool := c.isAlphanum || c == '_'

/-- The name of a segment, the digits of its number if it has one, and whether it is written with
percent signs. -/
def segmentName? (name : List Char) : Option (List Char × List Char × Bool) :=
  let word := name.takeWhile isWordChar
  if word = [] then none
  else match name.dropWhile isWordChar with
    | ['*'] => some (word, [], true)
    | '*' :: rest =>
      let digits := rest.takeWhile Char.isDigit
      if digits = [] then none
      else match rest.dropWhile Char.isDigit with
        | [] => some (word, digits, false)
        | ['*'] => some (word, digits, true)
        | _ => none
    | _ => none

def segment? (f : Field) : Option Segment :=
  (segmentName? f.name).map fun (name, digits, percent) =>
    let number := digits.foldl (fun n d => n * 10 + (d.toNat - 0x30)) 0
    ⟨name, if digits = [] then none else some number, percent, unquoted f.value⟩

/-- The fault of a number that is too long to be read. -/
def longNumber? (f : Field) : Option Fault :=
  (segmentName? f.name).bind fun (_, digits, _) =>
    if Numeral.maxDigits < digits.length then some (.longNumber digits.length) else none

namespace Segment

/-- Segments are in the order of their numbers, those of one number in that of their values, and
of two that are alike the one with percent signs comes last. -/
def le (s t : Segment) : Bool :=
  if s.number ≠ t.number then s.number.getD 0 ≤ t.number.getD 0
  else if s.value ≠ t.value then String.ofList s.value ≤ String.ofList t.value
  else !s.percent || t.percent

def text (s : Segment) : List Char :=
  if s.percent then decodeLatin1 (percentBytes s.value) else s.value

/-- The fault of a segment that is numbered while the first one of its parameter is not, or the
other way round. -/
def fault? (segments : List Segment) (s : Segment) : Option Fault :=
  (segments.find? fun t => t.name = s.name).bind fun first =>
    if s.number.isSome = first.number.isSome then none
    else some (.partlyNumbered first.number.isSome)

end Segment

/-- The fault of the parameter that has one and begins first. -/
def mixture? (segments : List Segment) : Option Fault :=
  segments.findSome? fun s => (segments.filter fun t => t.name = s.name).findSome?
    (Segment.fault? segments)

/-! ## The name of the character set -/

/-- A character as bytes, with an escape if its number is no byte. -/
def rawBytes (c : Char) : List UInt8 :=
  let n := c.toNat
  if n < 0x100 then [UInt8.ofNat n]
  else if n < 0x10000 then bytes ('\\' :: 'u' :: hex 4 n)
  else bytes ('\\' :: 'U' :: hex 8 n)

/-- The name in a value that begins with its own encoding and language, if it has the two
apostrophes behind them. A name that is not well-formed in its encoding is taken as it is. -/
def extendedName (value : List Char) : Except Fault (List Char) :=
  let encoding := value.takeWhile (· != '\'')
  let rest := ((value.dropWhile (· != '\'')).drop 1).dropWhile (· != '\'')
  if rest = [] then .ok value
  else if '\x00' ∈ encoding then .error .nul
  else
    let name := rest.drop 1
    .ok (((Encoding.named? encoding).bind fun decode => decode (name.flatMap rawBytes)).getD name)

def segmentedName (segments : List Segment) : Except Fault (List Char) :=
  let value := (segments.mergeSort Segment.le).flatMap Segment.text
  if segments.any Segment.percent then extendedName value else .ok value

private def isCharset (name : List Char) : Bool := name.map Char.toLower = "charset".toList

/-- The first value of the parameter that names the character set, if there is one. Segments count
only if no parameter names it in one piece, and never in the first place, which is that of the
type; but all of them must be sound. -/
def name? (contentType : List Char) : Except Fault (Option (List Char)) :=
  match (pieces contentType).map Field.ofPiece with
  | [] => .ok none
  | type :: parameters =>
    let whole := type :: parameters.filter fun f => (segment? f).isNone
    let segments := parameters.filterMap segment?
    match parameters.findSome? longNumber? <|> mixture? segments with
    | some fault => .error fault
    | none =>
      match whole.find? fun f => isCharset f.name with
      | some f => .ok (some (unquoted f.value))
      | none =>
        match segments.find? fun s => isCharset s.name with
        | some s => (segmentedName (segments.filter fun t => t.name = s.name)).map some
        | none => .ok none

def label : Charset → Encoding.Label
  | .utf8 => ⟨"utf_8", []⟩
  | .latin1 => ⟨"latin_1",
    ["8859", "cp819", "csisolatin1", "ibm819", "iso8859", "iso8859_1", "iso_8859_1",
      "iso_8859_1_1987", "iso_ir_100", "l1", "latin", "latin1"]⟩
  | .ascii => ⟨"ascii",
    ["646", "ansi_x3_4_1968", "ansi_x3_4_1986", "cp367", "csascii", "ibm367", "iso646_us",
      "iso_646_irv_1991", "iso_ir_6", "us", "us_ascii"]⟩

/-- The character set of a name. It is UTF-8 unless another one that is known is named. A name that
is not in ASCII names nothing. -/
def charsetOf (name : List Char) : Except Fault Charset :=
  if name.any fun c => 0x7f < c.toNat then .ok .utf8
  else if '\x00' ∈ name then .error .nul
  else if (label .latin1).Names name then .ok .latin1
  else if (label .ascii).Names name then .ok .ascii
  else .ok .utf8

def charset (contentType : Option String) : Except Fault Charset := do
  match ← name? (contentType.getD "").toList with
  | some name => charsetOf name
  | none => return .utf8

end ContentType

end Scriptorium
