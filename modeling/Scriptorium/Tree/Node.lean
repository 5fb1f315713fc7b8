/-!
Syntax trees of scripts. A node covers a stretch of the text, counted in characters, and carries
the text it covers. Trees are searched by the kinds of their nodes.

`outermost` is the search that the others are made of: it looks below a node, does not look below
what it found, and passes by the nodes at which it is told to stop. A kind that is both wanted and
stopped at is found.

A diagnostic is what a parse reports about one place of the text.
-/

namespace Scriptorium
set_option autoImplicit false

structure Diagnostic where
  startOffset : Int
  length : Int
  line : Int
  message : String
  deriving DecidableEq, Repr

structure Node where
  kind : String
  startOffset : Int
  endOffset : Int
  startRow : Int
  endRow : Int
  text : String
  isError : Bool
  children : List Node

namespace Node

/-- A node of which only the kind, the text and the children matter. -/
def plain (kind text : String) (children : List Node) : Node :=
  ⟨kind, 0, text.length, 0, 0, text, false, children⟩

instance : Inhabited Node := ⟨plain "" "" []⟩

mutual

/-- The outermost nodes below this one whose kind is wanted, in document order. -/
def outermost (wanted stop : List String) : Node → List Node
  | ⟨_, _, _, _, _, _, _, children⟩ => outermostAmong wanted stop children

/-- The outermost nodes whose kind is wanted, the given ones included. -/
def outermostAmong (wanted stop : List String) : List Node → List Node
  | [] => []
  | n :: ns =>
    (if n.kind ∈ wanted then [n]
      else if n.kind ∈ stop then []
      else outermost wanted stop n) ++ outermostAmong wanted stop ns

end

mutual

/-- The statements of a script: what is below the root, through lists of statements. -/
def statements : Node → List Node
  | ⟨_, _, _, _, _, _, _, children⟩ => statementsAmong children

def statementsAmong : List Node → List Node
  | [] => []
  | n :: ns =>
    (if n.kind = "statement_list" then statements n else [n]) ++ statementsAmong ns

end

@[simp] theorem outermost_eq (wanted stop : List String) (n : Node) :
    n.outermost wanted stop = outermostAmong wanted stop n.children := by
  cases n
  simp only [outermost]

@[simp] theorem outermostAmong_nil (wanted stop : List String) :
    outermostAmong wanted stop [] = [] := by
  simp only [outermostAmong]

theorem outermostAmong_cons (wanted stop : List String) (n : Node) (ns : List Node) :
    outermostAmong wanted stop (n :: ns) =
      (if n.kind ∈ wanted then [n]
        else if n.kind ∈ stop then []
        else outermostAmong wanted stop n.children) ++ outermostAmong wanted stop ns := by
  simp only [outermostAmong, outermost_eq]

@[simp] theorem statements_eq (n : Node) : n.statements = statementsAmong n.children := by
  cases n
  simp only [statements]

/-- The definition of a function, workflow or filter that a script consists of. -/
def findFunction? (root : Node) : Option Node :=
  root.statements.find? fun n => n.kind = "function_statement"

/-- The body of a definition. An empty one has none. -/
def findBody? (function : Node) : Option Node :=
  function.children.find? fun n => n.kind = "script_block"

def nestedScopes : List String := ["function_statement", "script_block_expression"]

/-- The declaration of parameters in a body, but not in a scope inside it. -/
def findParamBlock? (body : Node) : Option Node :=
  (body.outermost ["param_block"] nestedScopes).head?

end Node

/-- The kinds in a list of kinds that is written with bars between them. -/
def kindsOf (s : String) : List String := (s.toList.splitOn '|').map String.ofList

end Scriptorium
