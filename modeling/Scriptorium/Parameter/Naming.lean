import Scriptorium.Text.Capital
import Scriptorium.Text.Class

/-!
The names and types of parameters, as they are written in a script. A variable is written with a
dollar sign, and with braces if its name is unusual; a type stands in brackets, may be followed by
arguments in parentheses, and is an array if it ends in brackets that hold nothing but commas.
-/

namespace Scriptorium
set_option autoImplicit false

namespace Naming
open Text

/-- The name under which a parameter is shown: without dollar signs, the first letter a capital. -/
def display (name : List Char) : List Char := capitalize (name.filter (· ≠ '$'))

/-- The name in a variable. -/
def stripSigil (written : List Char) : List Char :=
  match trim written with
  | '$' :: '{' :: cs =>
    if cs.getLast? = some '}' then cs.dropLast else '{' :: cs
  | '$' :: cs => cs
  | cs => cs

/-- The text before a last pair of brackets that holds nothing but commas, with blanks around
them. -/
def stripArraySuffix? (cs : List Char) : Option (List Char) :=
  match cs.reverse with
  | ']' :: r =>
    match ((r.dropWhile isBlank).dropWhile (· == ',')).dropWhile isBlank with
    | '[' :: before => some before.reverse
    | _ => none
  | _ => none

/-- What is inside a pair of brackets around a text. Without them it is the text itself. -/
def unbracket (cs : List Char) : List Char :=
  match cs with
  | '[' :: rest => if rest.getLast? = some ']' then trim rest.dropLast else cs
  | _ => cs

/-- A type as it is written: its name, and whether it is an array. -/
structure TypeConstraint where
  name : List Char
  isArray : Bool
  deriving DecidableEq, Repr

def typeConstraint (written : List Char) : TypeConstraint :=
  let name := trim ((unbracket (trim written)).takeWhile (· ≠ '('))
  match stripArraySuffix? name with
  | some before => ⟨trim before, true⟩
  | none => ⟨name, false⟩

end Naming

end Scriptorium
