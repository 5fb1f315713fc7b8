import Mathlib.Data.List.Basic
import Scriptorium.Remote.Service

/-!
The address of a version tells of which document it is the version, and which one. The name of the
document stands in it as it is and may hold anything, quotes and slashes and what looks like the
rest of the address; but of the endings that stand behind it, none is the ending of another
(`ending_isSuffix_iff`), so where the name stops is never in doubt.
-/

namespace Scriptorium
set_option autoImplicit false

namespace Address

/-- What stands behind the name of the document. -/
def ending (v : Variant) : List Char := ("')/" ++ segment v ++ "/$value").toList

/-- What stands in front of it. -/
def opening (service : String) : List Char := (withoutSlashes service ++ "/Runbooks(guid'").toList

section Version
variable {service documentId : String} {v w : Variant} {x y : List Char}

theorem toList_ofVersion : (ofVersion service documentId v).toList =
    opening service ++ (documentId.toList ++ ending v) := by
  simp [ofVersion, opening, ending, List.append_assoc]

theorem ending_isSuffix_iff : ending v <:+ ending w ↔ v = w := by
  cases v <;> cases w <;> decide

theorem append_ending_inj : x ++ ending v = y ++ ending w ↔ x = y ∧ v = w := by
  constructor
  · intro h
    have hleft : ending v <:+ x ++ ending v := List.suffix_append x (ending v)
    have hright : ending w <:+ x ++ ending v := h ▸ List.suffix_append y (ending w)
    have hvw : v = w := by
      rcases List.suffix_or_suffix_of_suffix hleft hright with hsuffix | hsuffix
      · exact ending_isSuffix_iff.mp hsuffix
      · exact (ending_isSuffix_iff.mp hsuffix).symm
    subst hvw
    exact ⟨List.append_cancel_right h, rfl⟩
  · rintro ⟨rfl, rfl⟩
    rfl

theorem withoutSlashes_append (service : String) (n : Nat) :
    withoutSlashes (service ++ String.ofList (List.replicate n '/')) = withoutSlashes service := by
  have hslashes : ∀ c ∈ List.replicate n '/', (c == '/') = true := by
    intro c hc
    rw [List.eq_of_mem_replicate hc]
    rfl
  rw [withoutSlashes, String.toList_append, String.toList_ofList, List.reverse_append,
    List.reverse_replicate, List.dropWhile_append_of_pos hslashes]
  rfl

end Version

/-- At one service two versions have the same address only if they are the same version of the same
document, whatever the names of documents look like. Slashes behind the name of the service make no
difference. -/
theorem ofVersion_eq_iff (service d e : String) (v w : Variant) (n : Nat) :
    (ofVersion service d v = ofVersion service e w ↔ d = e ∧ v = w) ∧
    ofVersion (service ++ String.ofList (List.replicate n '/')) d v = ofVersion service d v := by
  constructor
  · rw [← String.toList_inj, toList_ofVersion, toList_ofVersion, List.append_cancel_left_eq,
      append_ending_inj, String.toList_inj]
  · rw [ofVersion, withoutSlashes_append]
    rfl

/-- A document whose name looks like the rest of an address. -/
example : ofVersion "http://a/" "a')/DraftRunbookVersion/$value" .published =
    "http://a/Runbooks(guid'a')/DraftRunbookVersion/$value')/PublishedRunbookVersion/$value" := by
  decide

end Address

end Scriptorium
