/-!
Binary floating-point numbers of 64 bits, kept exactly: a finite number is a sign, a significand
of at most 53 bits and a power of two. `ofRatio` rounds a quotient to the nearest of them, a half
to the even neighbour.
-/

namespace Scriptorium
set_option autoImplicit false

/-- The quotient rounded to the nearest natural number, a half to the even one. -/
def roundHalfEven (num den : Nat) : Nat :=
  let q := num / den
  let r := num % den
  if 2 * r < den ∨ (2 * r = den ∧ q % 2 = 0) then q else q + 1

def twoPow (n : Nat) : Nat := Nat.pow 2 n

/-- A finite number is the significand times two to the exponent. It is normal, with a
significand from `twoPow 52` on, unless the exponent is the least one, `-1074`. -/
inductive Binary64 where
  | finite (negative : Bool) (significand : Nat) (exponent : Int)
  | infinite (negative : Bool)
  | nan
  deriving DecidableEq, Repr

namespace Binary64

def leastExponent : Int := -1074
def greatestExponent : Int := 971

def zero (negative : Bool) : Binary64 := .finite negative 0 leastExponent

/-- The quotient divided by a power of two, as a quotient again. -/
private def scaled (num den : Nat) (exponent : Int) : Nat × Nat :=
  if 0 ≤ exponent then (num, den * twoPow exponent.toNat) else (num * twoPow (-exponent).toNat, den)

/-- The least allowed exponent at which the quotient has at most 53 bits before the point. -/
def exponentFor (num den : Nat) : Int :=
  let e := max ((num.log2 : Int) - den.log2 - 53) leastExponent
  let s := scaled num den e
  if s.1 / s.2 < twoPow 53 then e else e + 1

def ofRatio (negative : Bool) (num den : Nat) : Binary64 :=
  let e := exponentFor num den
  let s := scaled num den e
  let q := roundHalfEven s.1 s.2
  let (q, e) := if q = twoPow 53 then (twoPow 52, e + 1) else (q, e)
  if greatestExponent < e then .infinite negative else .finite negative q e

/-- The 64 bits of a number; a number that is none has none. -/
def bits? : Binary64 → Option Nat
  | .finite negative q e =>
    let magnitude := if q < twoPow 52 then q else (e + 1075).toNat * twoPow 52 + (q - twoPow 52)
    some (magnitude + if negative then twoPow 63 else 0)
  | .infinite negative => some (0x7ff * twoPow 52 + if negative then twoPow 63 else 0)
  | .nan => none

/-- The whole number that a number is, if it is one. -/
def whole? : Binary64 → Option Int
  | .finite negative q e =>
    let den := twoPow (-e).toNat
    let magnitude := q * twoPow e.toNat / den
    if q % den = 0 then some (if negative then -(magnitude : Int) else magnitude) else none
  | _ => none

end Binary64

end Scriptorium
