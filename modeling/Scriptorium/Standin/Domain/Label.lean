import Scriptorium.Standin.Domain.Company
import Scriptorium.Standin.Domain.Composition
import Scriptorium.Standin.Domain.Direction
import Scriptorium.Standin.Domain.Letter
import Scriptorium.Standin.Punycode
import Scriptorium.Text.Quoted

/-!
Labels, of which domain names are made. Each label has a form in ASCII: one with other characters is
written in Punycode behind `xn--`. In this form a label has a greatest length.

Punycode can tell numbers that no character has. They are part of no label, but messages show them.
-/

namespace Scriptorium
set_option autoImplicit false

namespace Domain
open Text

/-- What makes a text no label, or a label no part of a name. Positions count from one. -/
inductive Fault where
  | empty
  | uncomposed
  | hyphensInside
  | hyphenOutside
  | markInFront
  | notPermitted (position : Nat) (label : List Nat)
  /-- the character before a joiner is unnamed -/
  | besideUnnamed (position : Nat) (label : List Nat)
  | joiner (position : Nat) (label : List Nat)
  | company (position : Nat) (label : List Nat)
  | reading (fault : ReadingFault) (label : List Nat)
  | nothingWritten
  | hyphenWritten
  | badlyWritten
  /-- it stands for a label that is written otherwise -/
  | otherwiseWritten
  | tooLong
  | nameTooLong
  deriving DecidableEq, Repr

/-- The number at a position, with four digits or more. -/
def numbered (position : Nat) (label : List Nat) : String :=
  let digits := Nat.toDigits 16 (label.getD (position - 1) 0)
  "U+" ++ String.ofList (List.replicate (4 - digits.length) '0' ++ digits.map Char.toUpper)

def ReadingFault.message (label : List Nat) : ReadingFault → String
  | .unknown position =>
    "Unknown directionality in label " ++ quotedNumbers label ++ " at position " ++
      toString position
  | .start =>
    "First codepoint in label " ++ quotedNumbers label ++ " must be directionality L, R or AL"
  | .inLeft position =>
    "Invalid direction for codepoint at position " ++ toString position ++
      " in a left-to-right label"
  | .inRight position =>
    "Invalid direction for codepoint at position " ++ toString position ++
      " in a right-to-left label"
  | .mixedDigits => "Can not mix numeral types in a right-to-left label"
  | .ending => "Label ends with illegal codepoint directionality"

def Fault.message : Fault → String
  | .empty => "Empty Label"
  | .uncomposed => "Label must be in Normalization Form C"
  | .hyphensInside => "Label has disallowed hyphens in 3rd and 4th position"
  | .hyphenOutside => "Label must not start or end with a hyphen"
  | .markInFront => "Label begins with an illegal combining character"
  | .notPermitted position label =>
    "Codepoint " ++ numbered position label ++ " at position " ++ toString position ++ " of " ++
      quotedNumbers label ++ " not allowed"
  | .besideUnnamed position label =>
    "Unknown codepoint adjacent to joiner " ++ numbered position label ++ " at position " ++
      toString position ++ " in " ++ quotedNumbers label
  | .joiner position label =>
    "Joiner " ++ numbered position label ++ " not allowed at position " ++ toString position ++
      " in " ++ quotedNumbers label
  | .company position label =>
    "Codepoint " ++ numbered position label ++ " not allowed at position " ++ toString position ++
      " in " ++ quotedNumbers label
  | .reading fault label => fault.message label
  | .nothingWritten => "Malformed A-label, no Punycode eligible content found"
  | .hyphenWritten => "A-label must not end with a hyphen"
  | .badlyWritten => "Invalid A-label"
  | .otherwiseWritten => "A-label is not the canonical Punycode encoding of its U-label"
  | .tooLong => "Label too long"
  | .nameTooLong => "Domain too long"

/-- The kind of failure that a fault is. -/
def Fault.kind : Fault → String
  | .notPermitted .. => "character"
  | .joiner .. | .company .. => "company"
  | .reading .. => "reading"
  | _ => "label"

/-- The first character of a label that cannot stand where it stands; `before` are those before it,
the last one first. -/
def characterFault? (label : List Nat) (before : List Char) : List Char → Option Fault
  | [] => none
  | c :: cs =>
    let position := before.length + 1
    if !isPermitted c then some (.notPermitted position label)
    else if isJoiner c && before.head?.any isUnnamed then some (.besideUnnamed position label)
    else if isInCompany before c cs then characterFault? label (c :: before) cs
    else some (if isJoiner c then .joiner position label else .company position label)

/-- The character of a number, or the replacement character if it has none. -/
def charOf (n : Nat) : Char := if n.isValidChar then Char.ofNat n else '\ufffd'

/-- What makes a text no label, in whatever script. The text is given by its numbers. -/
def labelFault? (label : List Nat) : Option Fault :=
  let cs := label.map charOf
  if cs = [] then some .empty
  else if ¬ IsComposed cs then some .uncomposed
  else if (cs.drop 2).take 2 = ['-', '-'] then some .hyphensInside
  else if cs.head? = some '-' ∨ cs.getLast? = some '-' then some .hyphenOutside
  else if cs.head?.any isMark then some .markInFront
  else characterFault? label [] cs <|>
    (readingFault? (cs.map Direction.of)).map fun fault => .reading fault label

/-! ## Labels in ASCII -/

/-- What stands before Punycode. -/
def mark : List Char := "xn--".toList

/-- What makes a text in ASCII no label, or lets it stand for none. No label is written in two
ways. -/
def asciiFault? (cs : List Char) : Option Fault :=
  if mark.isPrefixOf cs then
    let numbers := cs.drop mark.length
    if numbers = [] then some .nothingWritten
    else if numbers.getLast? = some '-' then some .hyphenWritten
    else match Punycode.decode? numbers with
      | some label =>
        if Punycode.encode label = numbers then labelFault? label else some .otherwiseWritten
      | none => some .badlyWritten
  else labelFault? (cs.map Char.toNat)

def mostLabelLength : Nat := 63

private def isAscii (c : Char) : Bool := c.toNat < 0x80

/-- The label that a text in ASCII stands for. -/
def unwritten (cs : List Char) : List Char :=
  if mark.isPrefixOf cs then
    ((Punycode.decode? (cs.drop mark.length)).getD []).map charOf
  else cs

/-- How a label is written in ASCII. -/
def written (cs : List Char) : List Char :=
  if cs.all isAscii then cs else mark ++ Punycode.encode (cs.map Char.toNat)

/-- The form of a label in ASCII, if it is one. -/
def ascii (cs : List Char) : Except Fault (List Char) :=
  if mostLabelLength < cs.length then .error .tooLong
  else
    match if cs.all isAscii then asciiFault? cs else labelFault? (cs.map Char.toNat) with
    | some fault => .error fault
    | none => if (written cs).length ≤ mostLabelLength then .ok (written cs) else .error .tooLong

end Domain

end Scriptorium
