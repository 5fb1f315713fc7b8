import Scriptorium.Standin.Encoding.Grid

/-!
Encodings that switch between character sets. In one of them (`Tilde`) a tilde and a brace lead to
the pairs of a grid and back. In the others (`Announced`) a sequence behind the escape character
names the set for what follows, and in some of them two control characters shift between two sets.
-/

namespace Scriptorium
set_option autoImplicit false

namespace Encoding

/-! ## By tildes -/

namespace Tilde

/-- Whether pairs are read, and the byte that waits for the one behind it: a tilde or the first of
a pair. -/
structure State where
  isPaired : Bool
  held : Option UInt8
  deriving DecidableEq, Repr

private def tilde : UInt8 := 0x7e

/-- What a byte behind a tilde means. -/
def turn (isPaired : Bool) (b : UInt8) : Option (State × List Char) :=
  if isPaired then
    if b = 0x7d then some (⟨false, none⟩, []) else none
  else if b = tilde then some (⟨false, none⟩, ['~'])
  else if b = 0x7b then some (⟨true, none⟩, [])
  else if b = 0x0a then some (⟨false, none⟩, [])
  else none

def step (s : State) (b : UInt8) : Option (State × List Char) :=
  match s.held with
  | none =>
    if 0x80 ≤ b then none
    else if s.isPaired ∨ b = tilde then some ({ s with held := some b }, [])
    else some (s, [charOf b.toNat])
  | some a =>
    if a = tilde then turn s.isPaired b
    else (Grid.gb2312.char? a b).map fun c => ({ s with held := none }, [c])

def finish (s : State) : Option (List Char) := if s.held = none then some [] else none

def reader : Reader State := ⟨step, finish⟩

def decode : Decoder := reader.readFrom ⟨false, none⟩

end Tilde

/-! ## By announcements -/

inductive GraphicSet where
  | ascii
  /-- ASCII with a currency sign and an overline in two places -/
  | roman
  | katakana
  | grid (g : Grid)
  /-- a set that can be named but not read -/
  | unreadable
  deriving DecidableEq, Repr

/-- A set that can be announced, by the last byte of the sequence that does it. -/
structure Announcement where
  isPaired : Bool
  final : UInt8
  set : GraphicSet
  deriving DecidableEq, Repr

/-- An encoding that announces its sets. -/
structure Announced where
  announcements : List Announcement
  /-- two control characters shift to the second set and back -/
  shifts : Bool
  /-- there is a third set, for one character at a time -/
  hasThird : Bool
  /-- the first set may be announced with its revision in front -/
  hasRevision : Bool
  deriving DecidableEq, Repr

namespace Announced

private def escape : UInt8 := 0x1b
private def dollar : UInt8 := 0x24

/-- The third set: that of ASCII until another one is announced. -/
inductive Third where
  | ascii
  | latin
  | greek
  deriving DecidableEq, Repr

/-- What waits for the next byte. -/
inductive Held where
  | nothing
  /-- the first byte of a pair -/
  | row (b : UInt8)
  /-- an unfinished sequence, without the escape character in front of it -/
  | sequence (bs : List UInt8)
  deriving DecidableEq, Repr

structure State where
  first : GraphicSet
  second : GraphicSet
  third : Third
  isShifted : Bool
  /-- in a sequence of another kind, which stands for itself -/
  isForeign : Bool
  held : Held
  deriving DecidableEq, Repr

def start : State := ⟨.ascii, .ascii, .ascii, false, false, .nothing⟩

def isFinal (b : UInt8) : Bool := 0x40 ≤ b && b ≤ 0x5a

def set? (e : Announced) (isPaired : Bool) (final : UInt8) : Option GraphicSet :=
  if !isPaired && final = 0x42 then some .ascii
  else (e.announcements.find? fun a => a.isPaired = isPaired && a.final = final).map
    Announcement.set

/-- Announces a set for a place, which a byte names. -/
def announce (e : Announced) (s : State) (place : UInt8) (isPaired : Bool) (final : UInt8) :
    Option State :=
  if !isFinal final then none
  else (e.set? isPaired final).bind fun set =>
    let s := { s with held := .nothing }
    if place = 0x28 then some { s with first := set }
    else if place = 0x29 then some { s with second := set }
    else if place = 0x2e ∧ e.hasThird then
      if final = 0x41 then some { s with third := .latin }
      else if final = 0x46 then some { s with third := .greek }
      else if final = 0x42 then some { s with third := .ascii }
      else none
    else none

/-- The places of the Greek set that are not taken. -/
private def greekGaps : List UInt8 := [0x24, 0x25, 0x2a, 0x2e, 0x52, 0x7f]

/-- The character of the third set that a byte names. -/
def thirdChar? (third : Third) (b : UInt8) : Option Char :=
  match third with
  | .ascii => if b < 0x80 then some (charOf b.toNat) else none
  | .latin => if b < 0x80 then some beyond else none
  | .greek =>
    if 0x80 ≤ b then some (charOf (b.toNat - 0x80))
    else if b ∈ greekGaps then none
    else some beyond

/-- A byte of a sequence of another kind. It stands for itself, and may be the last one. -/
def foreign (s : State) (b : UInt8) : State × List Char :=
  ({ s with isForeign := !isFinal b, held := .nothing }, [charOf b.toNat])

/-- A byte behind an escape character and some others. -/
def sequenceStep (e : Announced) (s : State) (bs : List UInt8) (b : UInt8) :
    Option (State × List Char) :=
  let on := some ({ s with held := .sequence (bs ++ [b]) }, ([] : List Char))
  match bs with
  | [] =>
    if b ∈ ([0x28, 0x29, dollar, 0x2e, 0x26] : List UInt8) then on
    else if e.hasThird ∧ b = 0x4e then on
    else
      let (s, cs) := foreign s b
      some (s, '\x1b' :: cs)
  | [a] =>
    if a = 0x4e then (thirdChar? s.third b).map fun c => ({ s with held := .nothing }, [c])
    else if a = dollar then
      if b = 0x28 ∨ b = 0x29 then on else (e.announce s 0x28 true b).map (·, [])
    else if a = 0x26 then
      if e.hasRevision ∧ b = 0x40 then on else none
    else (e.announce s a false b).map (·, [])
  | [a, place] =>
    if a = dollar then (e.announce s place true b).map (·, [])
    else if b = escape then on
    else none
  | [_, _, _] => if b = dollar then on else none
  | _ =>
    if b = 0x42 then (e.announce s 0x28 true b).map (·, []) else none

def graphic (s : State) (b : UInt8) : Option (State × List Char) :=
  match if s.isShifted then s.second else s.first with
  | .ascii => some (s, [charOf b.toNat])
  | .roman => some (s, [if b = 0x5c ∨ b = 0x7e then beyond else charOf b.toNat])
  | .katakana => if 0x21 ≤ b ∧ b ≤ 0x5f then some (s, [beyond]) else none
  | .grid _ => some ({ s with held := .row b }, [])
  | .unreadable => none

def step (e : Announced) (s : State) (b : UInt8) : Option (State × List Char) :=
  match s.held with
  | .sequence bs => e.sequenceStep s bs b
  | .row a =>
    match if s.isShifted then s.second else s.first with
    | .grid g => (g.char? a b).map fun c => ({ s with held := .nothing }, [c])
    | _ => none
  | .nothing =>
    if s.isForeign then some (foreign s b)
    else if b = escape then some ({ s with held := .sequence [] }, [])
    else if e.shifts ∧ b = 0x0f then some ({ s with isShifted := false }, [])
    else if e.shifts ∧ b = 0x0e then some ({ s with isShifted := true }, [])
    else if b = 0x0a then some ({ s with isShifted := false }, ['\n'])
    else if b < 0x20 then some (s, [charOf b.toNat])
    else if 0x80 ≤ b then none
    else graphic s b

def finish (s : State) : Option (List Char) := if s.held = .nothing then some [] else none

def reader (e : Announced) : Reader State := ⟨e.step, finish⟩

def decode (e : Announced) : Decoder := e.reader.readFrom start

/-! ## The encodings -/

private def jisX0208 : Announcement := ⟨true, 0x42, .grid .jisX0208⟩
private def jisX0208Before : Announcement := ⟨true, 0x40, .grid .jisX0208⟩
private def jisX0212 : Announcement := ⟨true, 0x44, .grid .jisX0212⟩
private def roman : Announcement := ⟨false, 0x4a, .roman⟩
private def ksX1001 : Announcement := ⟨true, 0x43, .grid .ksX1001⟩
private def secondPlane : Announcement := ⟨true, 0x50, .grid .jisX0213Second⟩

def korean : Announced := ⟨[ksX1001], true, false, false⟩

/-- An encoding of Japanese, which has no shifts. -/
private def japaneseWith (announcements : List Announcement) : Announced :=
  ⟨announcements, false, false, true⟩

def japanese : Announced := japaneseWith [jisX0208, roman, jisX0208Before]

def japanese1 : Announced := japaneseWith [jisX0208, jisX0212, roman, jisX0208Before]

def japanese2 : Announced where
  announcements :=
    [jisX0208, jisX0212, ksX1001, ⟨true, 0x41, .grid .gb2312⟩, roman, jisX0208Before,
      ⟨false, 0x41, .unreadable⟩, ⟨false, 0x46, .unreadable⟩]
  shifts := false
  hasThird := true
  hasRevision := true

def japanese3 : Announced :=
  japaneseWith [jisX0208, ⟨true, 0x4f, .grid .jisX0213First2000⟩, secondPlane]

def japanese2004 : Announced :=
  japaneseWith [jisX0208, ⟨true, 0x51, .grid .jisX0213First2004⟩, secondPlane]

def japaneseExtended : Announced :=
  japaneseWith [jisX0208, jisX0212, roman, ⟨false, 0x49, .katakana⟩, jisX0208Before]

end Announced

end Encoding

end Scriptorium
