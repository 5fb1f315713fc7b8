import Mathlib.Logic.Relation
import Scriptorium.Proofs.Parameter.Specified

/-!
What a declaration of a parameter can be filled with, without any difference to what is read in it.
Whatever is in the default value, in an attribute or in a type may be replaced, at any depth: the
name is not looked for there, and a type is told by its own text. The texts of the attributes make
no difference either, but for the one that is taken for the type.
-/

namespace Scriptorium
set_option autoImplicit false

namespace Parameter
open Node

/-- The nodes whose content is not read. -/
def unread : List String := ["attribute", "type_literal", "script_parameter_default"]

/-- A change of one node below a declaration: its content is replaced if it is not read, or an
attribute or a type is written differently, if it is not that of the parameter. -/
inductive Retouch : Node → Node → Prop where
  | content {f : Frame} {p : List Frame} {n : Node} (ns : List Node) :
      n.kind ∈ unread → Retouch (n.within (f :: p)) ((n.withChildren ns).within (f :: p))
  | text {f : Frame} {p : List Frame} {n : Node} (x : String) :
      n.kind ∈ ["attribute", "type_literal"] → ¬TakesType f p →
      Retouch (n.within (f :: p)) ({ n with text := x }.within (f :: p))

section Places
variable {wanted stop : List String} {f : Frame} {p : List Frame} {n m d e : Node}

/-- If the texts found at the place are the same, those found in the tree are. -/
theorem texts_within
    (h : (outermostAmong wanted stop [n]).map text = (outermostAmong wanted stop [m]).map text) :
    ((n.within (f :: p)).outermost wanted stop).map text =
      ((m.within (f :: p)).outermost wanted stop).map text := by
  by_cases hp : Open wanted stop p
  · rw [outermost_within f hp, outermost_within f hp]
    simp only [List.map_append, h]
  · exact texts_of_not_open f hp n m

theorem names_unread (hn : n.kind ∈ unread) (hm : m.kind ∈ unread) :
    (names (n.within (f :: p))).map text = (names (m.within (f :: p))).map text := by
  have hpassed : ∀ k : Node, k.kind ∈ unread → outermostAmong ["variable"] besideName [k] = [] := by
    intro k hk
    have hwanted : ∀ kind ∈ unread, kind ∉ ["variable"] := by decide
    have hstop : ∀ kind ∈ unread, kind ∈ besideName := by decide
    exact outermostAmong_of_stop (hwanted _ hk) (hstop _ hk)
  exact texts_within (by rw [hpassed n hn, hpassed m hm])

/-- A default value is passed by, and an attribute is told by its text. -/
theorem types_unread (hn : n.kind ∈ unread) (ns : List Node) :
    (types (n.within (f :: p))).map text =
      (types ((n.withChildren ns).within (f :: p))).map text := by
  by_cases hwanted : n.kind ∈ ["attribute", "type_literal"]
  · have hfound : ∀ k : Node, k.kind = n.kind →
        outermostAmong ["attribute", "type_literal"] besideType [k] = [k] :=
      fun k hk => outermostAmong_of_mem (hk ▸ hwanted)
    exact texts_within (by rw [hfound n rfl, hfound (n.withChildren ns) rfl]; rfl)
  · have hstop : ∀ kind ∈ unread, kind ∉ ["attribute", "type_literal"] → kind ∈ besideType := by
      decide
    have hpassed : ∀ k : Node, k.kind = n.kind →
        outermostAmong ["attribute", "type_literal"] besideType [k] = [] :=
      fun k hk => outermostAmong_of_stop (hk ▸ hwanted) (hk ▸ hstop _ hn hwanted)
    exact texts_within (by rw [hpassed n rfl, hpassed (n.withChildren ns) rfl])

theorem Retouch.describe_eq (h : Retouch d e) : describe e = describe d := by
  symm
  cases h with
  | @content f p n ns hn =>
    refine describe_within ?_ fun _ => ?_
    · exact congrArg List.head? (names_unread hn hn)
    · exact congrArg List.getLast? (types_unread hn ns)
  | @text f p n x hn htakes =>
    have hunread : ∀ kind ∈ ["attribute", "type_literal"], kind ∈ unread := by decide
    refine describe_within ?_ fun _ => type_unmoved htakes _ _
    exact congrArg List.head? (names_unread (hunread _ hn) (hunread _ hn))

/-- Just at the place of the type it is the attribute there that is read. -/
theorem takesType_iff (hn : n.kind ∈ ["attribute", "type_literal"]) :
    TakesType f p ↔
      ∀ x, type? ({ n with text := x }.within (f :: p)) = some { n with text := x } := by
  constructor
  · rintro ⟨hp, hlater⟩ x
    rw [type?_eq, types, outermost_within f hp, hlater, List.append_nil,
      outermostAmong_of_mem (n := { n with text := x }) hn, List.getLast?_concat]
  · intro h
    by_contra htakes
    have hsame := type_unmoved htakes { n with text := "a" } { n with text := "b" }
    rw [List.getLast?_map, List.getLast?_map, ← type?_eq, ← type?_eq, h, h] at hsame
    have habsurd : "a" = "b" := Option.some.inj hsame
    exact absurd habsurd (by decide)

theorem exists_of_describe {q : Parameter} (h : describe d = .ok q) :
    ∃ v ∈ d.descendants, ∃ t ∈ d.descendants, v.Meets ["variable"] besideName ∧
      t.Meets ["attribute", "type_literal"] besideType ∧ q = written v.node.text t.node.text := by
  rw [describe_eq_reading] at h
  cases hreading : reading? d with
  | none =>
    rw [hreading] at h
    cases h
  | some q' =>
    rw [hreading] at h
    obtain rfl : q' = q := Except.ok.inj h
    obtain ⟨name, hname, hread⟩ := Option.bind_eq_some_iff.mp hreading
    obtain ⟨type, htype, hwritten⟩ := Option.map_eq_some_iff.mp hread
    obtain ⟨v, hv, rfl⟩ := Option.map_eq_some_iff.mp hname
    obtain ⟨t, ht, rfl⟩ := List.mem_map.mp (List.mem_of_getLast? htype)
    obtain ⟨ht, houtermost⟩ := List.mem_filter.mp ht
    refine ⟨v, List.mem_of_find?_eq_some hv, t, ht, ?_, (of_decide_eq_true houtermost).1,
      hwritten.symm⟩
    simpa using List.find?_some hv

end Places

/-- However often a declaration is changed where it is not read, what is read in it is the same, or
it cannot be read for the same reason. The name is that of a variable which is neither in an
attribute, nor in a type, nor in the default value, and the type is not in the default value. How an
attribute is written makes a difference at one place only. -/
theorem describe_indifferent (d : Node) :
    (∀ e, Relation.ReflTransGen Retouch d e → describe e = describe d) ∧
    (∀ q, describe d = .ok q → ∃ v ∈ d.descendants, ∃ t ∈ d.descendants,
      v.Meets ["variable"] besideName ∧ t.Meets ["attribute", "type_literal"] besideType ∧
        q = written v.node.text t.node.text) ∧
    ∀ (f : Frame) (p : List Frame) (n : Node), d = n.within (f :: p) →
      n.kind ∈ ["attribute", "type_literal"] →
      (TakesType f p ↔
        ∀ x, type? ({ n with text := x }.within (f :: p)) = some { n with text := x }) := by
  refine ⟨fun e h => ?_, fun q => exists_of_describe, fun f p n _ => takesType_iff⟩
  induction h with
  | refl => rfl
  | tail _ hstep ih => exact hstep.describe_eq.trans ih

/-- A declaration of `$Name` as a text, with an attribute in front of the type. -/
def adorned (check : String) (arguments initial : List Node) : Node :=
  plain "script_parameter" "" [
    plain "attribute_list" "" [{ plain "attribute" "" arguments with text := check },
      plain "attribute" "[string]" []],
    plain "variable" "$Name" [], plain "script_parameter_default" "" initial]

/-- What is around its attributes, while there is nothing in the default value. -/
def aroundAttributes : Frame :=
  ⟨plain "script_parameter" "" [], [],
    [plain "variable" "$Name" [], plain "script_parameter_default" "" []]⟩

/-- What is around the first of them. -/
def aroundCheck : Frame :=
  ⟨plain "attribute_list" "" [], [], [plain "attribute" "[string]" []]⟩

theorem not_takesType_check : ¬TakesType aroundAttributes [aroundCheck] :=
  fun htakes => absurd htakes.2 (List.cons_ne_nil (plain "attribute" "[string]" []) [])

/-- The attribute checks `$_`, and the default value is `[int]$first`. -/
theorem describe_indifferent_adorned :
    describe (adorned "[ValidateScript({$_})]" [plain "variable" "$_" []]
        [plain "type_literal" "[int]" [], plain "variable" "$first" []]) =
      describe (adorned "[Parameter()]" [] []) ∧
    describe (adorned "[Parameter()]" [] []) = .ok ⟨"Name", "Name", "string", false⟩ ∧
    (∃ v ∈ (adorned "[Parameter()]" [] []).descendants,
      ∃ t ∈ (adorned "[Parameter()]" [] []).descendants,
        v.Meets ["variable"] besideName ∧ t.Meets ["attribute", "type_literal"] besideType ∧
          written v.node.text t.node.text = ⟨"Name", "Name", "string", false⟩) ∧
    ∃ x, type? (adorned x [] []) ≠ some { plain "attribute" "" [] with text := x } := by
  have hread : describe (adorned "[Parameter()]" [] []) =
      .ok ⟨"Name", "Name", "string", false⟩ := rfl
  obtain ⟨hsame, hfound, hplace⟩ := describe_indifferent (adorned "[Parameter()]" [] [])
  refine ⟨hsame _ ?_, hread, ?_, ?_⟩
  · have htext : Retouch (adorned "[Parameter()]" [] [])
        (adorned "[ValidateScript({$_})]" [] []) :=
      .text (n := { plain "attribute" "" [] with text := "[Parameter()]" }) _ (by decide)
        not_takesType_check
    have harguments : Retouch (adorned "[ValidateScript({$_})]" [] [])
        (adorned "[ValidateScript({$_})]" [plain "variable" "$_" []] []) :=
      .content (f := aroundAttributes) (p := [aroundCheck])
        (n := { plain "attribute" "" [] with text := "[ValidateScript({$_})]" }) _ (by decide)
    refine ((Relation.ReflTransGen.single htext).tail harguments).tail ?_
    exact .content (p := [])
      (f := ⟨plain "script_parameter" "" [],
        [plain "attribute_list" "" [{ plain "attribute" "" [plain "variable" "$_" []] with
          text := "[ValidateScript({$_})]" }, plain "attribute" "[string]" []],
          plain "variable" "$Name" []], []⟩)
      (n := plain "script_parameter_default" "" []) _ (by decide)
  · obtain ⟨v, hv, t, ht, hname, htype, hwritten⟩ := hfound _ hread
    exact ⟨v, hv, t, ht, hname, htype, hwritten.symm⟩
  · have hcheck := hplace aroundAttributes [aroundCheck]
      { plain "attribute" "" [] with text := "[Parameter()]" } rfl (by decide)
    exact not_forall.mp fun htype => not_takesType_check (hcheck.mpr htype)

end Parameter

end Scriptorium
