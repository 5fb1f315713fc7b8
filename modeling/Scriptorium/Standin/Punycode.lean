/-!
Punycode: texts of any script in ASCII. The ASCII characters of a text come first, with a hyphen
behind them if there are any. Numbers then say which other characters there are and where, from the
lowest up; each number is a run of digits, whose weights adapt to the numbers before.
-/

namespace Scriptorium
set_option autoImplicit false

namespace Text

namespace Punycode

/-- The value of a digit: the letters come before the plain digits. -/
def digit? (c : Char) : Option Nat :=
  let n := c.toNat
  if 0x41 ≤ n ∧ n ≤ 0x5a then some (n - 0x41)
  else if 0x61 ≤ n ∧ n ≤ 0x7a then some (n - 0x61)
  else if 0x30 ≤ n ∧ n ≤ 0x39 then some (n - 0x16)
  else none

def digitChar (d : Nat) : Char := if d < 26 then Char.ofNat (0x61 + d) else Char.ofNat (0x16 + d)

/-- A digit below its threshold ends a number. -/
def threshold (place bias : Nat) : Nat := min (max (36 * (place + 1) - bias) 1) 26

theorem threshold_pos (place bias : Nat) : 0 < threshold place bias := by
  unfold threshold
  omega

/-- What is left of a number when it is divided until one digit can tell it, and 36 for each
division. -/
def reduced (delta divisions : Nat) : Nat × Nat :=
  if 455 < delta then reduced (delta / 35) (divisions + 36) else (delta, divisions)
  termination_by delta
  decreasing_by exact Nat.div_lt_self (by omega) (by omega)

/-- The bias after a number, when the text has the given length. -/
def adapted (delta : Nat) (isFirst : Bool) (length : Nat) : Nat :=
  let delta := if isFirst then delta / 700 else delta / 2
  let (delta, divisions) := reduced (delta + delta / length) 0
  divisions + 36 * delta / (delta + 38)

/-! ## Numbers -/

/-- The digits of a number from a place on. -/
def writeNumber (bias place n : Nat) : List Char :=
  let t := threshold place bias
  if n < t then [digitChar n]
  else digitChar (t + (n - t) % (36 - t)) :: writeNumber bias (place + 1) ((n - t) / (36 - t))
  termination_by n
  decreasing_by
    have := threshold_pos place bias
    exact Nat.lt_of_le_of_lt (Nat.div_le_self _ _) (by omega)

/-- Adds the number in front of a text to `value`, and gives what follows it. The digit at `place`
counts `weight` times. -/
def readNumber (bias : Nat) : List Char → Nat → Nat → Nat → Option (Nat × List Char)
  | [], _, _, _ => none
  | c :: cs, place, weight, value =>
    match digit? c with
    | none => none
    | some d =>
      let t := threshold place bias
      if d < t then some (value + d * weight, cs)
      else readNumber bias cs (place + 1) (weight * (36 - t)) (value + d * weight)

theorem length_lt_of_readNumber {bias n : Nat} {cs rest : List Char} {place weight value : Nat}
    (h : readNumber bias cs place weight value = some (n, rest)) : rest.length < cs.length := by
  fun_induction readNumber bias cs place weight value with
  | case1 => cases h
  | case2 => cases h
  | case3 => simp_all
  | case4 c cs _ _ _ _ _ _ _ ih => exact Nat.lt_succ_of_lt (ih h)

/-! ## Reading -/

/-- How much of a text is read: the numbers of the characters so far, the place behind the last one
that was put in and its number, and the bias of the next number. -/
structure Reading where
  text : List Nat
  place : Nat := 0
  char : Nat := 0x80
  bias : Nat := 72
  isFirst : Bool := true
  deriving DecidableEq, Repr

def Reading.next (r : Reading) (n : Nat) : Option Reading :=
  let length := r.text.length + 1
  let place := (r.place + n) % length
  let char := r.char + (r.place + n) / length
  if 0x10ffff < char then none
  else some ⟨r.text.take place ++ char :: r.text.drop place, place + 1, char,
    adapted n r.isFirst length, false⟩

def Reading.run (r : Reading) (cs : List Char) : Option (List Nat) :=
  if cs = [] then some r.text
  else
    match _h : readNumber r.bias cs 0 1 0 with
    | none => none
    | some (n, rest) =>
      match r.next n with
      | none => none
      | some r => r.run rest
  termination_by cs.length
  decreasing_by exact length_lt_of_readNumber _h

/-- The numbers of the characters that an ASCII text stands for. Among them there may be numbers
that no character has. -/
def decode? (cs : List Char) : Option (List Nat) :=
  let numbers := (cs.reverse.takeWhile (· != '-')).reverse
  let plain := ((cs.reverse.dropWhile (· != '-')).drop 1).reverse
  Reading.run { text := plain.map Char.toNat } numbers

/-! ## Writing -/

/-- How much of a text is written: the numbers so far, the next number, its bias, and how many
characters are told. -/
structure Writing where
  written : List Char := []
  delta : Nat := 0
  bias : Nat := 72
  count : Nat
  isFirst : Bool := true
  deriving DecidableEq, Repr

/-- Passes a character while those with the number `n` are written. -/
def Writing.pass (n : Nat) (w : Writing) (c : Nat) : Writing :=
  if c < n then { w with delta := w.delta + 1 }
  else if c = n then
    ⟨w.written ++ writeNumber w.bias 0 w.delta, 0, adapted w.delta w.isFirst (w.count + 1),
      w.count + 1, false⟩
  else w

/-- Writes the characters of a text with the given numbers; all those below `low` are written. -/
def Writing.run (cs : List Nat) (w : Writing) (low : Nat) : List Nat → List Char
  | [] => w.written
  | n :: ns =>
    let w := cs.foldl (pass n) { w with delta := w.delta + (n - low) * (w.count + 1) }
    run cs { w with delta := w.delta + 1 } (n + 1) ns

private def isPlain (n : Nat) : Bool := n < 0x80

/-- The ASCII text that stands for the characters with the given numbers, whether there are such
characters or not. -/
def encode (cs : List Nat) : List Char :=
  let plain := (cs.filter isPlain).map Char.ofNat
  let others := (cs.filter (!isPlain ·)).mergeSort.eraseDups
  plain ++ (if plain = [] then [] else ['-']) ++
    Writing.run cs { count := plain.length } 0x80 others

end Punycode

end Text

end Scriptorium
