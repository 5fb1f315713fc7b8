import Scriptorium.Standin.Domain.Label

/-!
Domain names in any script: labels between dots. A name can be written in ASCII if all its labels
can, and if that is not too long.
-/

namespace Scriptorium
set_option autoImplicit false

namespace Domain
open Text

/-- The dots of the different scripts. -/
def isDot (c : Char) : Bool := c ∈ ['.', '。', '．', '｡']

/-- The labels of a name. There may be a dot behind the last one. -/
def labels (name : List Char) : List (List Char) :=
  let parts := (lowered name).splitOnP isDot
  if parts.getLast? = some [] then parts.dropLast else parts

def mostLength : Nat := 253

/-- The labels with dots between them, and behind the last one if it has one in the name. -/
def dotted (name : List Char) (labels : List (List Char)) : List Char :=
  ['.'].intercalate labels ++ if name.getLast?.any isDot then ['.'] else []

/-- A name in ASCII. Between its labels there are dots in ASCII, too. -/
def asciiName? (name : List Char) : Option (List Char) :=
  match (labels name).mapM ascii with
  | .ok forms =>
    if (['.'].intercalate forms).length ≤ mostLength then some (dotted name forms) else none
  | .error _ => none

def isName (name : List Char) : Bool := (asciiName? name).isSome

/-- What is wrong with a name in ASCII when it is read: its length, or a label in it that stands for
none. A name whose first label stands for itself is not looked at. -/
def nameFault? (name : List Char) : Option Fault :=
  if ¬ mark.isPrefixOf (lowered name) then none
  else if mostLength + 1 < name.length then some .nameTooLong
  else (labels name).findSome? asciiFault?

/-- The name that a name in ASCII stands for. A name whose first label stands for itself stands for
itself. -/
def unwrittenName (name : List Char) : List Char :=
  if mark.isPrefixOf (lowered name) then dotted name ((labels name).map unwritten) else name

/-- Whether a name in ASCII can be looked up: no label of it is too long, and only behind the last
dot there may be none. -/
def canBeLookedUp (name : List Char) : Bool :=
  let parts := name.splitOnP (· == '.')
  parts.dropLast.all (· ≠ []) && parts.all (·.length ≤ mostLabelLength)

end Domain

end Scriptorium
