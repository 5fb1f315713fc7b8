import Scriptorium.Text.Class
import Scriptorium.Text.Utf8
import Scriptorium.Tree.Node

/-!
From what a parser returns to a parse of the text. The parser itself is given from outside; it
counts in bytes of the text in UTF-8. A parse counts in characters, gives each node its text, and
lists the leaves as tokens and the outermost faults as diagnostics. A text that is not all ASCII
has a table of its bytes, and there is no parse if a node is outside of it. What is negative counts
from the end, both in the table and in the text.
-/

namespace Scriptorium
set_option autoImplicit false

/-- A node as the parser returns it. A missing one is a token that the parser made up. -/
structure RawNode where
  kind : String
  startByte : Int
  endByte : Int
  startRow : Int
  endRow : Int
  isMissing : Bool
  children : List RawNode

instance : Inhabited RawNode := ⟨⟨"", 0, 0, 0, 0, false, []⟩⟩

/-- A parser of the script language. It need not answer for every text. -/
abbrev Parser := String → Option RawNode

structure Token where
  kind : String
  text : String
  startOffset : Int
  endOffset : Int
  deriving DecidableEq, Repr

/-- A number that counts from the end of a length if it is negative. -/
def fromEnd (length : Nat) (n : Int) : Int := if n < 0 then n + length else n

theorem fromEnd_of_nonneg {length : Nat} {n : Int} (h : 0 ≤ n) : fromEnd length n = n := by
  simp [fromEnd, Int.not_lt.mpr h]

structure Source where
  chars : List Char
  table : Option (List Nat)

namespace Source

def ofString (text : String) : Source := ⟨text.toList, Text.byteOffsets? text.toList⟩

/-- The number of characters before a byte. Without a table it is that of the bytes. -/
def offset (src : Source) (byte : Int) : Int :=
  match src.table with
  | none => byte
  | some t => Text.charOffset src.table (fromEnd t.length byte).toNat

/-- Whether a byte can be looked up. Without a table every byte can. -/
def Knows (src : Source) (byte : Int) : Prop :=
  ∀ t ∈ src.table, 0 ≤ fromEnd t.length byte ∧ fromEnd t.length byte < t.length

instance (src : Source) (byte : Int) : Decidable (src.Knows byte) := by
  unfold Knows; infer_instance

def slice (src : Source) (start stop : Int) : List Char :=
  let place (n : Int) : Nat := (fromEnd src.chars.length n).toNat
  (src.chars.take (place stop)).drop (place start)

end Source

namespace RawNode

def isFault (n : RawNode) : Bool := n.kind == "ERROR" || n.isMissing

def chars (src : Source) (n : RawNode) : List Char :=
  src.slice (src.offset n.startByte) (src.offset n.endByte)

def text (src : Source) (n : RawNode) : String := String.ofList (n.chars src)

def token (src : Source) (n : RawNode) : Token :=
  ⟨n.kind, n.text src, src.offset n.startByte, src.offset n.endByte⟩

end RawNode

/-- What a message quotes of an unexpected text: the first line of what is not blank, or all of a
blank text, and no more than forty characters. -/
def excerpt (cs : List Char) : List Char :=
  let t := Text.trim cs
  (if t.isEmpty then cs else Text.firstLine t).take 40

namespace RawNode

def faultMessage (src : Source) (n : RawNode) : String :=
  if n.isMissing then "Missing '" ++ n.kind ++ "'"
  else "Unexpected '" ++ String.ofList (excerpt (n.chars src)) ++ "'"

def diagnostic (src : Source) (n : RawNode) : Diagnostic where
  startOffset := src.offset n.startByte
  length := src.offset n.endByte - src.offset n.startByte
  line := n.startRow + 1
  message := n.faultMessage src

mutual

/-- Whether a node and all that is below it begin and end where the source knows it. -/
def isWithin (src : Source) : RawNode → Bool
  | ⟨_, startByte, endByte, _, _, _, children⟩ =>
    decide (src.Knows startByte) && decide (src.Knows endByte) && areWithin src children

def areWithin (src : Source) : List RawNode → Bool
  | [] => true
  | n :: ns => isWithin src n && areWithin src ns

end

mutual

def toNode (src : Source) : RawNode → Node
  | ⟨kind, startByte, endByte, startRow, endRow, isMissing, children⟩ =>
    let n : RawNode := ⟨kind, startByte, endByte, startRow, endRow, isMissing, []⟩
    ⟨kind, src.offset startByte, src.offset endByte, startRow, endRow, n.text src, n.isFault,
      toNodes src children⟩

def toNodes (src : Source) : List RawNode → List Node
  | [] => []
  | n :: ns => toNode src n :: toNodes src ns

end

mutual

/-- The leaves that are in the text, in document order. -/
def tokens (src : Source) : RawNode → List Token
  | ⟨kind, startByte, endByte, startRow, endRow, isMissing, []⟩ =>
    if isMissing then [] else [token src ⟨kind, startByte, endByte, startRow, endRow, false, []⟩]
  | ⟨_, _, _, _, _, _, c :: children⟩ => tokens src c ++ tokensOf src children

def tokensOf (src : Source) : List RawNode → List Token
  | [] => []
  | n :: ns => tokens src n ++ tokensOf src ns

end

mutual

/-- One diagnostic for each fault that is met while not inside another, in document order. -/
def reports (src : Source) (inside : Bool) : RawNode → List Diagnostic
  | ⟨kind, startByte, endByte, startRow, endRow, isMissing, children⟩ =>
    let n : RawNode := ⟨kind, startByte, endByte, startRow, endRow, isMissing, []⟩
    (if n.isFault && !inside then [n.diagnostic src] else []) ++
      reportsOf src (inside || n.isFault) children

def reportsOf (src : Source) (inside : Bool) : List RawNode → List Diagnostic
  | [] => []
  | n :: ns => reports src inside n ++ reportsOf src inside ns

end

end RawNode

structure Parse where
  tokens : List Token
  tree : Node
  diagnostics : List Diagnostic

namespace Parse

def hasErrors (p : Parse) : Bool := !p.diagnostics.isEmpty

def ofRaw (text : String) (root : RawNode) : Parse :=
  let src := Source.ofString text
  ⟨root.tokens src, root.toNode src, root.reports src false⟩

inductive Fault where
  /-- the parser does not answer for the text -/
  | noTree
  /-- a node is outside of the text -/
  | outOfRange
  deriving DecidableEq, Repr

def Fault.message : Fault → String
  | .noTree => "no tree given for this text"
  | .outOfRange => "list index out of range"

/-- The parse of a text with a tree, all of which must be within it. -/
def ofTree (text : String) (root : RawNode) : Except Fault Parse :=
  if root.isWithin (.ofString text) then .ok (ofRaw text root) else .error .outOfRange

def ofText (parser : Parser) (text : String) : Except Fault Parse :=
  match parser text with
  | some root => ofTree text root
  | none => .error .noTree

end Parse

end Scriptorium
