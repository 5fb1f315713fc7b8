/-!
Hosts that are written as numbers. Four numbers between points make a host, and so do eight groups
of hexadecimal digits between colons, of which one run of zeros may be left out for a gap of two
colons. A host is numeric by its looks (`isNumeric`, `isBracketed`), and must then be well-formed.
-/

namespace Scriptorium
set_option autoImplicit false

namespace Host

/-- Four runs of digits between points. -/
def isNumeric (host : List Char) : Bool :=
  let runs := host.splitOnP (· == '.')
  runs.length = 4 && runs.all fun r => r ≠ [] && r.all Char.isDigit

def isBracketed (host : List Char) : Bool :=
  host.head? = some '[' && host.getLast? = some ']' && 2 ≤ host.length

/-- A number up to 255, without zeros in front. -/
def isOctet (digits : List Char) : Bool :=
  let value := digits.foldl (fun n d => n * 10 + (d.toNat - 0x30)) 0
  digits ≠ [] && digits.all Char.isDigit && digits.length ≤ 3 && value ≤ 255 &&
    (digits = ['0'] || digits.head? ≠ some '0')

def isQuad (host : List Char) : Bool :=
  let octets := host.splitOnP (· == '.')
  octets.length = 4 && octets.all isOctet

private def isHexDigit (c : Char) : Bool :=
  c.isDigit || ('a' ≤ c.toLower && c.toLower ≤ 'f')

def isGroup (digits : List Char) : Bool :=
  digits ≠ [] && digits.length ≤ 4 && digits.all isHexDigit

/-- How many groups there are between the colons of a text, if it is made of groups. -/
def groups? (cs : List Char) : Option Nat :=
  let parts := cs.splitOnP (· == ':')
  if cs = [] then some 0 else if parts.all isGroup then some parts.length else none

/-- The same for a text at the end, where four octets may stand for the last two groups. -/
def lastGroups? (cs : List Char) : Option Nat :=
  let parts := cs.splitOnP (· == ':')
  if isQuad (parts.getLast?.getD []) then
    if parts.dropLast.all isGroup then some (parts.length + 1) else none
  else groups? cs

/-- What stands before the first gap and behind it, if there is one. -/
def cutAtGap? : List Char → Option (List Char × List Char)
  | ':' :: ':' :: cs => some ([], cs)
  | c :: cs => (cutAtGap? cs).map fun p => (c :: p.1, p.2)
  | [] => none

/-- Eight groups, or fewer with a gap. -/
def isOctuple (cs : List Char) : Bool :=
  match cutAtGap? cs with
  | none => lastGroups? cs = some 8
  | some (before, behind) =>
    match groups? before, lastGroups? behind with
    | some m, some n => m + n < 8
    | _, _ => false

/-- Eight groups, and perhaps a percent sign and the name of a zone behind it. -/
def isZoned (cs : List Char) : Bool :=
  isOctuple (cs.takeWhile (· != '%')) &&
    match cs.dropWhile (· != '%') with
    | [] => true
    | _ :: zone => zone ≠ [] && '%' ∉ zone

end Host

end Scriptorium
