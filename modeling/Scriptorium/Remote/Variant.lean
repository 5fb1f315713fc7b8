/-!
The two versions of a document that a store may keep.
-/

namespace Scriptorium
set_option autoImplicit false

inductive Variant where
  | draft
  | published
  deriving DecidableEq, Repr

namespace Variant

def word : Variant → String
  | draft => "draft"
  | published => "published"

def ofWord? (s : String) : Option Variant :=
  if s = "draft" then some draft else if s = "published" then some published else none

@[simp] theorem ofWord?_word (v : Variant) : ofWord? v.word = some v := by cases v <;> rfl

end Variant

end Scriptorium
