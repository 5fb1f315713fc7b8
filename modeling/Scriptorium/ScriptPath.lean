/-!
Paths of scripts. A path is a sequence of parts between slashes; empty parts and single dots do
not count. The suffix of the last part begins at its last dot, unless that is its first or its
last character.
-/

namespace Scriptorium
set_option autoImplicit false

namespace ScriptPath

def parts (path : List Char) : List (List Char) :=
  (path.splitOnP (· == '/')).filter fun p => p ≠ [] ∧ p ≠ ['.']

/-- The slashes that a path begins with: at most one, but exactly two are kept. -/
def root : List Char → List Char
  | '/' :: '/' :: '/' :: _ => ['/']
  | '/' :: '/' :: _ => ['/', '/']
  | '/' :: _ => ['/']
  | _ => []

/-- The path with nothing in it that does not count. -/
def plain (path : List Char) : List Char := root path ++ ['/'].intercalate (parts path)

def name (path : List Char) : List Char := (parts path).getLast?.getD []

def suffix (name : List Char) : List Char :=
  let extension := (name.reverse.takeWhile (· != '.')).reverse
  if extension ≠ [] ∧ extension.length + 1 < name.length then '.' :: extension else []

def scriptSuffixes : List String := [".ps1", ".psm1", ".psd1"]

/-- Whether the path looks like that of a script; capitals do not matter. -/
def isScript (path : List Char) : Bool :=
  String.ofList ((suffix (name path)).map Char.toLower) ∈ scriptSuffixes

end ScriptPath

end Scriptorium
