import Scriptorium.Number.Binary64

/-!
Spans of time in whole microseconds, from a number of minutes. Whole minutes are exact; the
fraction of a minute is turned into microseconds in binary floating point, and what is left below
a microsecond is rounded at the end, a half so that the total is even.
-/

namespace Scriptorium
set_option autoImplicit false

inductive TimespanError where
  | tooLong
  | notANumber
  deriving DecidableEq, Repr

namespace Timespan

def microsecondsPerMinute : Nat := 60000000
def microsecondsPerDay : Int := 86400000000
def maxDays : Int := 999999999

/-- The microseconds of a fraction of a minute, as a quotient. -/
private def ofFraction (num den : Nat) : Nat × Nat :=
  match Binary64.ofRatio false (num * microsecondsPerMinute) den with
  | .finite _ q e => if 0 ≤ e then (q * twoPow e.toNat, 1) else (q, twoPow (-e).toNat)
  | _ => (0, 1)

/-- The microseconds of a finite number of minutes, without its sign. -/
private def magnitude (significand : Nat) (exponent : Int) : Nat :=
  if 0 ≤ exponent then significand * twoPow exponent.toNat * microsecondsPerMinute
  else
    let den := twoPow (-exponent).toNat
    let whole := significand / den * microsecondsPerMinute
    let (num, den) := ofFraction (significand % den) den
    roundHalfEven (whole * den + num) den

def ofMinutes : Binary64 → Except TimespanError Int
  | .nan => .error .notANumber
  | .infinite _ => .error .tooLong
  | .finite negative q e =>
    let n : Int := if negative then -(magnitude q e : Int) else magnitude q e
    let days := n.fdiv microsecondsPerDay
    if days < -maxDays ∨ maxDays < days then .error .tooLong else .ok n

end Timespan

end Scriptorium
