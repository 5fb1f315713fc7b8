import Scriptorium.Proofs.Parameter.Scope
import Scriptorium.Proofs.Tree.Descendants

/-!
What the parameters of a script are, told by the places of the nodes alone, without a search. The
script consists of the first definition that only lists of statements are around; its body is the
first block in it, and the parameters are declared in the first declaration of parameters of the
body that is in no scope inside of it. What is read in a single declaration depends on that one
only, so that one that cannot be read makes no difference to the others: wherever such a declaration
can stand (`Declaring`), it may as well be missing.
-/

namespace Scriptorium
set_option autoImplicit false

namespace Parameter
open Node

/-! ### A single declaration -/

/-- The name is written in the first variable that is neither in an attribute, nor in a type, nor in
the default value. -/
def name? (d : Node) : Option Node := d.first? (Visit.Meets ["variable"] besideName)

/-- The type is the last attribute or type, of those that are not in the default value nor in one
another. -/
def type? (d : Node) : Option Node :=
  (d.every (Visit.IsOutermost ["attribute", "type_literal"] besideType)).getLast?

def reading? (d : Node) : Option Parameter :=
  (name? d).bind fun v => (type? d).map fun t => written v.text t.text

/-- Where a declaration is left out, what is said of it. -/
def fault (d : Node) : Fault :=
  match name? d with
  | none => .noVariable d.text
  | some v => .noType v.text

/-- There is no name or no type in the declaration. -/
def LeftOut (d : Node) : Prop :=
  (∀ v ∈ d.descendants, ¬ v.Meets ["variable"] besideName) ∨
    ∀ v ∈ d.descendants, ¬ v.Meets ["attribute", "type_literal"] besideType

instance (d : Node) : Decidable (LeftOut d) := by unfold LeftOut; infer_instance

theorem name?_eq_none {d : Node} :
    name? d = none ↔ ∀ v ∈ d.descendants, ¬ v.Meets ["variable"] besideName :=
  first?_eq_none _

theorem type?_eq (d : Node) : type? d = (types d).getLast? := by
  rw [type?, ← outermost_eq_every, types]

theorem type?_eq_none {d : Node} :
    type? d = none ↔ ∀ v ∈ d.descendants, ¬ v.Meets ["attribute", "type_literal"] besideType := by
  rw [type?_eq, List.getLast?_eq_none_iff, types, outermost_eq_nil]

theorem reading?_eq_none {d : Node} : reading? d = none ↔ LeftOut d := by
  rw [LeftOut, ← name?_eq_none, ← type?_eq_none, reading?]
  cases name? d <;> cases type? d <;> simp

theorem describe_eq_reading (d : Node) :
    describe d = (reading? d).elim (.error (fault d)) .ok := by
  unfold describe reading? fault name? type?
  rw [head?_outermost, outermost_eq_every]
  cases d.first? (Visit.Meets ["variable"] besideName) with
  | none => rfl
  | some v =>
    dsimp only [Option.bind_some]
    cases (d.every (Visit.IsOutermost ["attribute", "type_literal"] besideType)).getLast? with
    | none => rfl
    | some t => rfl

/-- The declarations that can be read give the parameters, and each of the others is reported. -/
theorem describeEach_eq (ds : List Node) :
    describeEach ds = (ds.filterMap reading?,
      (ds.filter fun d => LeftOut d).map fun d => skippedEntry (fault d)) := by
  induction ds with
  | nil => rfl
  | cons d ds ih =>
    have hd := describe_eq_reading d
    cases hreading : reading? d with
    | none =>
      have hleft : LeftOut d := reading?_eq_none.mp hreading
      rw [hreading] at hd
      simp [describeEach, hd, ih, hreading, hleft]
    | some p =>
      have hleft : ¬ LeftOut d := fun h => by
        rw [reading?_eq_none.mpr h] at hreading
        cases hreading
      rw [hreading] at hd
      simp [describeEach, hd, ih, hreading, hleft]

/-! ### The declarations of a script -/

/-- Where the parameters of the script are declared. -/
def paramBlock? (root : Node) : Option Node :=
  (root.first? Visit.IsDefinition).bind fun function =>
    function.findBody?.bind (first? (Visit.Meets ["param_block"] nestedScopes))

/-- The declarations that are in no other one, in document order. -/
def declarations (block : Node) : List Node :=
  block.every (Visit.IsOutermost ["script_parameter"] [])

theorem ofBlock_eq (block : Node) :
    (ofBlock block).1 = some ((declarations block).filterMap reading?) ∧
    ((ofBlock block).2.filter fun e => e.level = .warning) =
      ((declarations block).filter fun d => LeftOut d).map fun d => skippedEntry (fault d) := by
  rw [ofBlock_fst, outermost_eq_every, ← declarations, describeEach_eq]
  refine ⟨rfl, ?_⟩
  unfold ofBlock
  rw [outermost_eq_every, ← declarations]
  cases declarations block with
  | nil => rfl
  | cons d ds =>
    dsimp only
    rw [describeEach_eq]
    refine List.filter_eq_self.mpr fun e he => ?_
    obtain ⟨d, -, rfl⟩ := List.mem_map.mp he
    rfl

theorem extract_eq_none {root : Node} :
    (extract root).1 = none ↔ ∀ v ∈ root.descendants, ¬ v.IsDefinition := by
  rw [← first?_eq_none, ← findFunction?_eq_first?]
  unfold extract
  cases root.findFunction? with
  | none => exact ⟨fun _ => rfl, fun _ => rfl⟩
  | some function =>
    refine ⟨fun h => ?_, nofun⟩
    dsimp only at h
    split at h
    · cases h
    · split at h <;> cases h

theorem extract_of_paramBlock {root : Node} (hf : root.first? Visit.IsDefinition ≠ none) :
    extract root = match paramBlock? root with
      | none => (some [], [])
      | some block => ofBlock block := by
  obtain ⟨function, hfunction⟩ := Option.ne_none_iff_exists'.mp hf
  have hblock : paramBlock? root = function.findBody?.bind findParamBlock? := by
    rw [paramBlock?, hfunction, Option.bind_some]
    exact congrArg _ (funext fun body => (head?_outermost body).symm)
  rw [hblock]
  rw [← findFunction?_eq_first?] at hfunction
  unfold extract
  rw [hfunction]
  rfl

/-! ### Where a declaration can stand -/

/-- The place where the parameters of a script are declared. -/
def Parametric (q : List Frame) : Prop :=
  ∃ p b s, q = p ++ b :: s ∧ Bodily p ∧ b.own.kind = "script_block" ∧
    Open ["param_block"] nestedScopes s ∧ earlier ["param_block"] nestedScopes (b :: s) = []

/-- The frames lead to a node whose children may be declarations of parameters of the script: to
where these are declared, or further down, but not into a single declaration. -/
inductive Declaring : List Frame → Node → Prop where
  | block {q : List Frame} {m : Node} : Parametric q → m.kind = "param_block" → Declaring q m
  | inside {q r : List Frame} {g : Frame} {m : Node} :
      Parametric q → g.own.kind = "param_block" → Open ["script_parameter"] [] r →
      m.kind ∉ ["script_parameter"] → Declaring (q ++ g :: r) m

section Places
variable {root block d m : Node} {q : List Frame}

theorem Parametric.extracts (hq : Parametric q) (hblock : block.kind = "param_block") :
    extract (block.within q) = ofBlock block := by
  obtain ⟨p, b, s, rfl, hp, hb, hs, hbefore⟩ := hq
  have hbody : (block.within (b :: s)).kind = "script_block" := hb
  obtain ⟨function, hfunction, hfound⟩ := hp.finds hbody
  rw [within_append, extract_eq_ofBody hfunction hfound, ofBody_within hs hblock hbefore]

theorem exists_parametric (h : paramBlock? root = some block) :
    ∃ q, Parametric q ∧ block.kind = "param_block" ∧ root = block.within q := by
  obtain ⟨function, hfunction, hbody⟩ := Option.bind_eq_some_iff.mp h
  obtain ⟨body, hbody, hblock⟩ := Option.bind_eq_some_iff.mp hbody
  rw [← findFunction?_eq_first?] at hfunction
  rw [← head?_outermost] at hblock
  obtain ⟨after, hfirst⟩ : ∃ after, body.outermost ["param_block"] nestedScopes =
      [] ++ block :: after := List.head?_eq_some_iff.mp hblock
  obtain ⟨p, hp, hkind, rfl⟩ := exists_bodily hfunction hbody
  obtain ⟨b, s, rfl, hwanted, hs, hbefore, -⟩ := exists_place body hfirst
  exact ⟨p ++ b :: s, ⟨p, b, s, rfl, hp, hkind, hs, hbefore⟩, List.mem_singleton.mp hwanted,
    (within_append _ _ _).symm⟩

/-- What is extracted is read among the children of such a node, and before and after them. -/
theorem Declaring.extracts (h : Declaring q m) :
    ∃ before after, ∀ ns, (extract ((m.withChildren ns).within q)).1 =
      some ((before ++ outermostAmong ["script_parameter"] [] ns ++ after).filterMap reading?) := by
  cases h with
  | block hq hm =>
    refine ⟨[], [], fun ns => ?_⟩
    have hblock : (m.withChildren ns).kind = "param_block" := hm
    rw [hq.extracts hblock, (ofBlock_eq _).1, declarations, ← outermost_eq_every, outermost_eq,
      List.nil_append, List.append_nil]
    rfl
  | @inside q r g _ hq hg hr hm =>
    refine ⟨earlier ["script_parameter"] [] (g :: r), later ["script_parameter"] [] (g :: r),
      fun ns => ?_⟩
    have hpass : outermostAmong ["script_parameter"] [] [m.withChildren ns] =
        outermostAmong ["script_parameter"] [] ns :=
      outermostAmong_of_pass (n := m.withChildren ns) hm List.not_mem_nil
    have hblock : ((m.withChildren ns).within (g :: r)).kind = "param_block" := hg
    rw [within_append, hq.extracts hblock, (ofBlock_eq _).1, declarations, ← outermost_eq_every,
      outermost_within g hr, hpass]

/-- A declaration that cannot be read may be missing. -/
theorem Declaring.spares (h : Declaring q m) (hd : d.kind = "script_parameter") (hleft : LeftOut d)
    (ns ms : List Node) :
    (extract ((m.withChildren (ns ++ d :: ms)).within q)).1 =
      (extract ((m.withChildren (ns ++ ms)).within q)).1 := by
  obtain ⟨before, after, hextract⟩ := h.extracts
  have hdeclared : outermostAmong ["script_parameter"] [] (ns ++ d :: ms) =
      outermostAmong ["script_parameter"] [] ns ++ d ::
        outermostAmong ["script_parameter"] [] ms := by
    rw [outermostAmong_append, outermostAmong_cons, if_pos (List.mem_singleton.mpr hd),
      List.singleton_append]
  rw [hextract, hextract, hdeclared, outermostAmong_append]
  simp only [List.filterMap_append, List.filterMap_cons_none (reading?_eq_none.mpr hleft)]

theorem exists_declaring (h : paramBlock? root = some block) (hd : d ∈ declarations block) :
    ∃ q m ns ms, Declaring q m ∧ d.kind = "script_parameter" ∧
      root = (m.withChildren (ns ++ d :: ms)).within q := by
  obtain ⟨q, hq, hblock, rfl⟩ := exists_parametric h
  obtain ⟨before, after, hsplit⟩ := List.append_of_mem hd
  rw [declarations, ← outermost_eq_every] at hsplit
  obtain ⟨g, r, rfl, hwanted, hr, -, -⟩ := exists_place block hsplit
  have hkind := List.mem_singleton.mp hwanted
  rcases List.eq_nil_or_concat' r with rfl | ⟨r, f, rfl⟩
  · exact ⟨q, g.own, g.before, g.after, .block hq hblock, hkind, rfl⟩
  · have hf := hr f (List.mem_append_right _ List.mem_cons_self)
    refine ⟨q ++ g :: r, f.own, f.before, f.after,
      .inside hq hblock (fun e he => hr e (List.mem_append_left _ he)) hf.1, hkind, ?_⟩
    rw [within_append, ← List.cons_append, within_append]
    rfl

end Places

/-- What a script declares is told by the places of its nodes. There is nothing to tell if it has no
definition, and there are no parameters if the definition has no body or the body no declaration of
parameters. Of the declarations those give a parameter that have a name and a type, in document
order, and each of the others is reported; wherever one of these can stand, it may be missing. -/
theorem extract_specified (root : Node) :
    ((extract root).1 = none ↔ ∀ v ∈ root.descendants, ¬ v.IsDefinition) ∧
    (root.first? Visit.IsDefinition ≠ none → paramBlock? root = none →
      extract root = (some [], [])) ∧
    (∀ block, paramBlock? root = some block →
      (extract root).1 = some ((declarations block).filterMap reading?) ∧
      ((extract root).2.filter fun e => e.level = .warning) =
        ((declarations block).filter fun d => LeftOut d).map (fun d => skippedEntry (fault d)) ∧
      ∀ d ∈ declarations block, ∃ q m ns ms, Declaring q m ∧ d.kind = "script_parameter" ∧
        root = (m.withChildren (ns ++ d :: ms)).within q) ∧
    (∀ d, describe d = (reading? d).elim (.error (fault d)) .ok ∧
      (reading? d = none ↔ LeftOut d)) ∧
    ∀ q m, Declaring q m → ∀ d, d.kind = "script_parameter" → LeftOut d → ∀ ns ms,
      (extract ((m.withChildren (ns ++ d :: ms)).within q)).1 =
        (extract ((m.withChildren (ns ++ ms)).within q)).1 := by
  refine ⟨extract_eq_none, fun hf hnone => ?_, fun block hblock => ?_,
    fun d => ⟨describe_eq_reading d, reading?_eq_none⟩, fun q m h d hd hleft => h.spares hd hleft⟩
  · rw [extract_of_paramBlock hf, hnone]
  · have hf : root.first? Visit.IsDefinition ≠ none := by
      intro hnone
      rw [paramBlock?, hnone] at hblock
      cases hblock
    rw [extract_of_paramBlock hf, hblock]
    exact ⟨(ofBlock_eq block).1, (ofBlock_eq block).2, fun d hd => exists_declaring hblock hd⟩

/-- What is declared by `[string]$Name`, by `$Size = [int]$first`, which has no type but in the
default value, by `[ValidateScript({$_})]`, which has no variable but in an attribute, and by
`[int[]]$Counts`. -/
def named : Node :=
  plain "script_parameter" "[string]$Name" [plain "attribute_list" "[string]"
    [plain "attribute" "[string]" []], plain "variable" "$Name" []]

def untyped : Node :=
  plain "script_parameter" "$Size = [int]$first" [plain "variable" "$Size" [],
    plain "script_parameter_default" "= [int]$first" [plain "type_literal" "[int]" [],
      plain "variable" "$first" []]]

def unnamed : Node :=
  plain "script_parameter" "[ValidateScript({$_})]" [plain "attribute_list" ""
    [plain "attribute" "[ValidateScript({$_})]" [plain "variable" "$_" []]]]

def counts : Node :=
  plain "script_parameter" "[int[]]$Counts" [plain "attribute_list" "[int[]]"
    [plain "attribute" "[int[]]" []], plain "variable" "$Counts" []]

/-- The body and its declaration of parameters, in the definition that is the statement of a
script. -/
def toList : List Frame :=
  toBody ++ [⟨plain "script_block" "" [], [], []⟩, ⟨plain "param_block" "" [], [], []⟩]

def scriptOf (ds : List Node) : Node :=
  ((plain "parameter_list" "" []).withChildren ds).within toList

theorem bodily_toBody : Bodily toBody := by
  have hundefined : Undefined [] := by simp [Undefined, statementsAmong]
  refine ⟨toBody.dropLast, toBody.getLast (by decide), rfl, ⟨by decide, by decide, ?_⟩, rfl,
    by decide⟩
  simp [toBody, hundefined]

theorem declaring_toList : Declaring toList (plain "parameter_list" "" []) := by
  have hplace : Parametric (toBody ++ [⟨plain "script_block" "" [], [], []⟩]) :=
    ⟨toBody, _, [], rfl, bodily_toBody, rfl, open_nil, by simp [earlier]⟩
  have hinside := Declaring.inside (m := plain "parameter_list" "" []) (r := [])
    (g := ⟨plain "param_block" "" [], [], []⟩) hplace rfl open_nil (by decide)
  rwa [List.append_assoc] at hinside

/-- A script whose definition has no body. -/
def bodiless : Node := plain "program" "" [plain "function_statement" "" []]

/-- Two of the four are reported, and the parameters are the same without one of these. -/
theorem extract_specified_scriptOf :
    extract bodiless = (some [], []) ∧
    (extract (scriptOf [named, untyped, unnamed, counts])).1 =
      some [⟨"Name", "Name", "string", false⟩, ⟨"Counts", "Counts", "int", true⟩] ∧
    ((extract (scriptOf [named, untyped, unnamed, counts])).2.filter fun e => e.level = .warning) =
      [skippedEntry (.noType "$Size"), skippedEntry (.noVariable "[ValidateScript({$_})]")] ∧
    (extract (scriptOf [named, untyped, counts])).1 =
      (extract (scriptOf [named, untyped, unnamed, counts])).1 := by
  obtain ⟨-, -, hread, hdeclaration, hspared⟩ :=
    extract_specified (scriptOf [named, untyped, unnamed, counts])
  obtain ⟨hparameters, hwarnings, -⟩ := hread _ rfl
  have hleft : LeftOut unnamed := by decide +kernel
  have hmissing := hspared toList _ declaring_toList unnamed rfl hleft [named, untyped] [counts]
  refine ⟨?_, hparameters.trans ?_, hwarnings.trans ?_, hmissing.symm⟩
  · exact (extract_specified bodiless).2.1 (by decide +kernel) rfl
  · rfl
  · rfl

end Parameter

end Scriptorium
