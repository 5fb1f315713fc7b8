import Scriptorium.Parameter.Extraction
import Scriptorium.Proofs.Tree.Body

/-!
Scopes inside of a body: definitions and blocks of script that have parameters of their own. The
parameters of the script should not depend on what is in them. The search for the declaration of
parameters keeps out of them, but the searches below it, for the single declarations and for their
names and types, do not. `Exposed` says exactly of which scopes something is heard: what is in any
other makes no difference at all, and what is in an exposed one can change the parameters.
-/

namespace Scriptorium
set_option autoImplicit false

namespace Parameter
open Node

/-! ### Extraction in steps -/

/-- What is read in the declaration of parameters. -/
def ofBlock (block : Node) : Option (List Parameter) × Journal :=
  match block.outermost ["script_parameter"] [] with
  | [] => (some [], [⟨.info, "Runbook contains a param block but no parameters"⟩])
  | declarations => (some (describeEach declarations).1, (describeEach declarations).2)

def ofBody (body : Node) : Option (List Parameter) × Journal :=
  match body.findParamBlock? with
  | none => (some [], [])
  | some block => ofBlock block

theorem extract_eq_ofBody {root function body : Node} (hf : root.findFunction? = some function)
    (hb : function.findBody? = some body) : extract root = ofBody body := by
  unfold extract
  rw [hf]
  dsimp only
  rw [hb, Option.bind_some]
  rfl

theorem ofBlock_fst (block : Node) :
    (ofBlock block).1 = some (describeEach (block.outermost ["script_parameter"] [])).1 := by
  unfold ofBlock
  split
  · rename_i h
    rw [h]
    rfl
  · rfl

theorem describeEach_append (ns ms : List Node) :
    describeEach (ns ++ ms) =
      ((describeEach ns).1 ++ (describeEach ms).1, (describeEach ns).2 ++ (describeEach ms).2) := by
  induction ns with
  | nil => rfl
  | cons n ns ih =>
    rw [List.cons_append]
    cases hn : describe n with
    | ok q => simp [describeEach, hn, ih]
    | error f => simp [describeEach, hn, ih]

/-- The parameter of a declaration whose variable and type are so written. -/
def written (v t : String) : Parameter :=
  let name := Naming.stripSigil v.toList
  let type := Naming.typeConstraint t.toList
  ⟨String.ofList (Naming.display name), String.ofList name, String.ofList type.name, type.isArray⟩

def names (d : Node) : List Node := d.outermost ["variable"] besideName

def types (d : Node) : List Node := d.outermost ["attribute", "type_literal"] besideType

/-- Only texts matter to a description. -/
def ofTexts (declaration : String) (names types : List String) : Except Fault Parameter :=
  match names.head?, types.getLast? with
  | none, _ => .error (.noVariable declaration)
  | some v, none => .error (.noType v)
  | some v, some t => .ok (written v t)

theorem describe_eq_ofTexts (d : Node) :
    describe d = ofTexts d.text ((names d).map text) ((types d).map text) := by
  unfold describe ofTexts names types
  rw [List.head?_map, List.getLast?_map]
  cases (d.outermost ["variable"] besideName).head? with
  | none => rfl
  | some v =>
    cases (d.outermost ["attribute", "type_literal"] besideType).getLast? with
    | none => rfl
    | some t => rfl

theorem describe_of_texts {d : Node} {v t : String}
    (hv : ((names d).map text).head? = some v) (ht : ((types d).map text).getLast? = some t) :
    describe d = .ok (written v t) := by
  rw [describe_eq_ofTexts, ofTexts, hv, ht]

theorem describeEach_singleton {n m : Node} (h : describe n = describe m) :
    describeEach [n] = describeEach [m] := by
  unfold describeEach
  rw [h]

theorem describeEach_of_ok {n : Node} {q : Parameter} (h : describe n = .ok q) :
    (describeEach [n]).1 = [q] := by
  unfold describeEach
  rw [h]
  rfl

/-! ### Which scopes are heard -/

/-- If there is a variable at this place in a declaration, it is the name of the parameter. -/
def TakesName (d : Frame) (t : List Frame) : Prop :=
  Open ["variable"] besideName t ∧ earlier ["variable"] besideName (d :: t) = []

/-- If there is an attribute at this place, it is the type. -/
def TakesType (d : Frame) (t : List Frame) : Prop :=
  Open ["attribute", "type_literal"] besideType t ∧
    later ["attribute", "type_literal"] besideType (d :: t) = []

/-- Something is heard of a scope in the declaration of parameters, to which the frames lead: it
is where parameters are declared, or it is in a declaration, where the name or the type of the
parameter is looked for in it. Of a declaration without a name the type does not matter. -/
inductive Heard : List Frame → Node → Prop where
  | declaring {g : Frame} {r : List Frame} {n : Node} :
      Open ["script_parameter"] [] r → Heard (g :: r) n
  | naming {g d : Frame} {r t : List Frame} {n : Node} :
      Open ["script_parameter"] [] r → d.own.kind = "script_parameter" → TakesName d t →
      Heard (g :: (r ++ d :: t)) n
  | typing {g d : Frame} {r t : List Frame} {n : Node} :
      Open ["script_parameter"] [] r → d.own.kind = "script_parameter" → TakesType d t →
      names ((n.withChildren []).within (d :: t)) ≠ [] → Heard (g :: (r ++ d :: t)) n

/-- The frames lead from a body to a scope of which something is heard: the scope is in the
declaration of parameters of the body. -/
def Exposed (p : List Frame) (n : Node) : Prop :=
  ∃ b q g r, p = b :: (q ++ g :: r) ∧ Open ["param_block"] nestedScopes q ∧
    g.own.kind = "param_block" ∧ earlier ["param_block"] nestedScopes (b :: q) = [] ∧
    Heard (g :: r) n

theorem open_types_of_open_names {t : List Frame} (ht : Open ["variable"] besideName t) :
    Open ["attribute", "type_literal"] besideType t := by
  intro f hf
  have hkind := (ht f hf).2
  simp only [besideName, besideType, List.mem_cons, List.not_mem_nil, or_false, not_or] at hkind ⊢
  exact ⟨⟨hkind.2.1, hkind.2.2.1⟩, hkind.2.2.2⟩

theorem outermost_declaration (g : Frame) {s t : List Frame} {d : Frame}
    (hs : Open ["script_parameter"] [] s) (hd : d.own.kind = "script_parameter") (m : Node) :
    (m.within (g :: (s ++ d :: t))).outermost ["script_parameter"] [] =
      earlier ["script_parameter"] [] (g :: s) ++ [m.within (d :: t)] ++
        later ["script_parameter"] [] (g :: s) := by
  rw [← List.cons_append, within_append, outermost_within g hs,
    outermostAmong_of_mem (show (m.within (d :: t)).kind ∈ _ from List.mem_singleton.mpr hd)]

theorem ofBlock_of_ne_nil {block : Node} (h : block.outermost ["script_parameter"] [] ≠ []) :
    ofBlock block =
      (some (describeEach (block.outermost ["script_parameter"] [])).1,
        (describeEach (block.outermost ["script_parameter"] [])).2) := by
  unfold ofBlock
  split
  · rename_i hnone
    exact absurd hnone h
  · rfl

theorem ofBlock_ne (g : Frame) {s t : List Frame} {d : Frame} (hs : Open ["script_parameter"] [] s)
    (hd : d.own.kind = "script_parameter") {a b : Node} {v w : Parameter}
    (ha : describe (a.within (d :: t)) = .ok v) (hb : describe (b.within (d :: t)) = .ok w)
    (hne : v ≠ w) :
    (ofBlock (a.within (g :: (s ++ d :: t)))).1 ≠ (ofBlock (b.within (g :: (s ++ d :: t)))).1 := by
  rw [ofBlock_fst, ofBlock_fst, outermost_declaration g hs hd, outermost_declaration g hs hd]
  simp only [describeEach_append, describeEach_of_ok ha, describeEach_of_ok hb]
  simpa using hne

theorem ofBody_within {b : Frame} {q : List Frame} {block : Node}
    (hq : Open ["param_block"] nestedScopes q) (hblock : block.kind = "param_block")
    (hbefore : earlier ["param_block"] nestedScopes (b :: q) = []) :
    ofBody (block.within (b :: q)) = ofBlock block := by
  have hfound : (block.within (b :: q)).findParamBlock? = some block := by
    rw [findParamBlock?, outermost_within b hq, hbefore,
      outermostAmong_of_mem (List.mem_singleton.mpr hblock)]
    rfl
  rw [ofBody, hfound]

theorem ofBody_of_block {b g : Frame} {q r : List Frame} {m : Node}
    (hq : Open ["param_block"] nestedScopes q) (hg : g.own.kind = "param_block")
    (hbefore : earlier ["param_block"] nestedScopes (b :: q) = []) :
    ofBody (m.within (b :: (q ++ g :: r))) = ofBlock (m.within (g :: r)) := by
  have hblock : (m.within (g :: r)).kind = "param_block" := hg
  rw [← List.cons_append, within_append, ofBody_within hq hblock hbefore]

/-- Nothing is heard of a scope that is not in a declaration of parameters. -/
theorem not_exposed_of_beside {p : List Frame} {n : Node}
    (h : ∀ f ∈ p, f.own.kind ≠ "param_block") : ¬Exposed p n := by
  rintro ⟨b, q, g, r, rfl, -, hg, -⟩
  exact h g (by simp) hg

section Declaration
variable {d : Frame} {t : List Frame}

/-- A place at which the name is not taken makes no difference to it, whatever is there. -/
theorem name_unmoved (h : ¬TakesName d t) (n m : Node) :
    ((names (n.within (d :: t))).map text).head? =
      ((names (m.within (d :: t))).map text).head? := by
  by_cases ht : Open ["variable"] besideName t
  · have hearlier : earlier ["variable"] besideName (d :: t) ≠ [] := fun he => h ⟨ht, he⟩
    obtain ⟨v, vs, hv⟩ := List.exists_cons_of_ne_nil hearlier
    rw [names, names, outermost_within d ht, outermost_within d ht, hv]
    rfl
  · exact congrArg List.head? (texts_of_not_open d ht _ _)

theorem type_unmoved (h : ¬TakesType d t) (n m : Node) :
    ((types (n.within (d :: t))).map text).getLast? =
      ((types (m.within (d :: t))).map text).getLast? := by
  by_cases ht : Open ["attribute", "type_literal"] besideType t
  · have hlater : (later ["attribute", "type_literal"] besideType (d :: t)).map text ≠ [] :=
      fun he => h ⟨ht, List.map_eq_nil_iff.mp he⟩
    simp only [types, outermost_within d ht, List.map_append]
    rw [List.getLast?_append_of_ne_nil _ hlater, List.getLast?_append_of_ne_nil _ hlater]
  · exact congrArg List.getLast? (texts_of_not_open d ht _ _)

/-- A description is the same if the name and the type are; without a name the type is not looked
for. -/
theorem describe_within {n m : Node}
    (hname : ((names (n.within (d :: t))).map text).head? =
      ((names (m.within (d :: t))).map text).head?)
    (htype : names (n.within (d :: t)) ≠ [] →
      ((types (n.within (d :: t))).map text).getLast? =
        ((types (m.within (d :: t))).map text).getLast?) :
    describe (n.within (d :: t)) = describe (m.within (d :: t)) := by
  rw [describe_eq_ofTexts, describe_eq_ofTexts]
  unfold ofTexts
  rw [← hname]
  by_cases hnone : names (n.within (d :: t)) = []
  · rw [hnone]
    rfl
  · rw [htype hnone]
    rfl

end Declaration

section Scope
variable {n : Node} (hn : n.kind ∈ nestedScopes)
include hn

theorem not_mem_of_scope {l : List String} (hl : ∀ k ∈ nestedScopes, k ∉ l) (ns : List Node) :
    (n.withChildren ns).kind ∉ l := hl _ hn

/-- A search that comes to a scope goes on in it, if it is not told to keep out. -/
theorem outermost_scope {wanted stop : List String} (hwanted : ∀ k ∈ nestedScopes, k ∉ wanted)
    (hstop : ∀ k ∈ nestedScopes, k ∉ stop) {f : Frame} {p : List Frame} (hp : Open wanted stop p)
    (ns : List Node) :
    ((n.withChildren ns).within (f :: p)).outermost wanted stop =
      earlier wanted stop (f :: p) ++ outermostAmong wanted stop ns ++
        later wanted stop (f :: p) := by
  rw [outermost_within f hp,
    outermostAmong_of_pass (not_mem_of_scope hn hwanted ns) (not_mem_of_scope hn hstop ns)]
  rfl

section Declaration
variable {d : Frame} {t : List Frame}

theorem names_scope (ht : Open ["variable"] besideName t) (ns : List Node) :
    names ((n.withChildren ns).within (d :: t)) =
      earlier ["variable"] besideName (d :: t) ++ outermostAmong ["variable"] besideName ns ++
        later ["variable"] besideName (d :: t) :=
  outermost_scope hn (by decide) (by decide) ht ns

theorem types_scope (ht : Open ["attribute", "type_literal"] besideType t) (ns : List Node) :
    types ((n.withChildren ns).within (d :: t)) =
      earlier ["attribute", "type_literal"] besideType (d :: t) ++
        outermostAmong ["attribute", "type_literal"] besideType ns ++
        later ["attribute", "type_literal"] besideType (d :: t) :=
  outermost_scope hn (by decide) (by decide) ht ns

/-- What a declaration takes from a scope, the scope can change. -/
theorem describe_naming (hnaming : TakesName d t) :
    ∃ ns ms v w, describe ((n.withChildren ns).within (d :: t)) = .ok v ∧
      describe ((n.withChildren ms).within (d :: t)) = .ok w ∧ v ≠ w := by
  obtain ⟨ht, hearlier⟩ := hnaming
  let named (v : String) : List Node := [plain "variable" v [], plain "attribute" "[t]" []]
  have hnames : ∀ v, ((names ((n.withChildren (named v)).within (d :: t))).map text).head? =
      some v := by
    intro v
    rw [names_scope hn ht, hearlier]
    rfl
  -- the type is the same whatever the name is
  have htypes : ∃ y, ∀ v,
      ((types ((n.withChildren (named v)).within (d :: t))).map text).getLast? = some y := by
    let found := earlier ["attribute", "type_literal"] besideType (d :: t) ++
      [plain "attribute" "[t]" []] ++ later ["attribute", "type_literal"] besideType (d :: t)
    have hfound : (found.map text) ≠ [] := by simp [found]
    refine ⟨(found.map text).getLast hfound, fun v => ?_⟩
    rw [types_scope hn (open_types_of_open_names ht)]
    exact List.getLast?_eq_some_getLast hfound
  obtain ⟨y, htypes⟩ := htypes
  refine ⟨named "a", named "b", written "a" y, written "b" y,
    describe_of_texts (hnames _) (htypes _), describe_of_texts (hnames _) (htypes _), ?_⟩
  intro h
  have hraw : String.ofList (Naming.stripSigil "a".toList) =
      String.ofList (Naming.stripSigil "b".toList) := congrArg rawName h
  exact absurd hraw (by decide)

theorem describe_typing (hnaming : ¬TakesName d t) (htyping : TakesType d t)
    (hnames : names ((n.withChildren []).within (d :: t)) ≠ []) :
    ∃ ns ms v w, describe ((n.withChildren ns).within (d :: t)) = .ok v ∧
      describe ((n.withChildren ms).within (d :: t)) = .ok w ∧ v ≠ w := by
  obtain ⟨ht, hlater⟩ := htyping
  let typed (y : String) : List Node := [plain "attribute" y []]
  obtain ⟨c, cs, hc⟩ := List.exists_cons_of_ne_nil hnames
  have hname : ∀ y, ((names ((n.withChildren (typed y)).within (d :: t))).map text).head? =
      some c.text := by
    intro y
    rw [name_unmoved hnaming _ (n.withChildren []), hc]
    rfl
  have htype : ∀ y, ((types ((n.withChildren (typed y)).within (d :: t))).map text).getLast? =
      some y := by
    intro y
    rw [types_scope hn ht, hlater, List.append_nil, List.map_append]
    exact List.getLast?_concat
  refine ⟨typed "a", typed "b", written c.text "a", written c.text "b",
    describe_of_texts (hname _) (htype _), describe_of_texts (hname _) (htype _), ?_⟩
  intro h
  have htypeName : String.ofList (Naming.typeConstraint "a".toList).name =
      String.ofList (Naming.typeConstraint "b".toList).name := congrArg typeName h
  exact absurd htypeName (by decide)

end Declaration

section Block
variable {g : Frame} {r : List Frame}

omit hn in
/-- What is in a scope of which nothing is heard makes no difference to what is read in the
declaration. -/
theorem ofBlock_unmoved (h : ¬Heard (g :: r) n) (ns ms : List Node) :
    ofBlock ((n.withChildren ns).within (g :: r)) =
      ofBlock ((n.withChildren ms).within (g :: r)) := by
  have hr : ¬Open ["script_parameter"] [] r := fun hr => h (.declaring hr)
  obtain ⟨s, d, t, rfl, hs, hd⟩ := exists_first_of_not_open hr
  have hd : d.own.kind = "script_parameter" := by simpa using hd
  -- the declaration around the scope is found whatever is in it
  have hfound := outermost_declaration (t := t) g hs hd
  have hempty : ∀ ns, describe ((n.withChildren []).within (d :: t)) =
      describe ((n.withChildren ns).within (d :: t)) := by
    intro ns
    refine describe_within ?_ fun hnames => ?_
    · exact name_unmoved (fun hnaming => h (.naming hs hd hnaming)) _ _
    · exact type_unmoved (fun htyping => h (.typing hs hd htyping hnames)) _ _
  have hdescribe := (hempty ns).symm.trans (hempty ms)
  have hne : ∀ m : Node, (m.within (g :: (s ++ d :: t))).outermost ["script_parameter"] [] ≠ [] :=
    fun m => by
      rw [hfound]
      simp
  rw [ofBlock_of_ne_nil (hne _), ofBlock_of_ne_nil (hne _), hfound, hfound, describeEach_append,
    describeEach_append, describeEach_append, describeEach_append,
    describeEach_singleton hdescribe]

theorem exists_ofBlock_ne (h : Heard (g :: r) n) :
    ∃ ns ms, (ofBlock ((n.withChildren ns).within (g :: r))).1 ≠
      (ofBlock ((n.withChildren ms).within (g :: r))).1 := by
  cases h with
  | declaring hr =>
    let declared : Node :=
      plain "script_parameter" "" [plain "variable" "a" [], plain "attribute" "[t]" []]
    have hdescribe : describe declared = .ok (written "a" "[t]") := describe_of_texts rfl rfl
    have hamong : outermostAmong ["script_parameter"] [] [declared] = [declared] :=
      outermostAmong_of_mem (List.mem_singleton_self _)
    refine ⟨[], [declared], ?_⟩
    rw [ofBlock_fst, ofBlock_fst, outermost_scope hn (by decide) (by decide) hr,
      outermost_scope hn (by decide) (by decide) hr, hamong, outermostAmong_nil]
    simp only [describeEach_append, describeEach_of_ok hdescribe]
    intro heq
    have hlength := congrArg List.length (Option.some.inj heq)
    simp [describeEach] at hlength
  | naming hs hd hnaming =>
    obtain ⟨ns, ms, v, w, hv, hw, hne⟩ := describe_naming hn hnaming
    exact ⟨ns, ms, ofBlock_ne g hs hd hv hw hne⟩
  | @typing _ d _ t _ hs hd htyping hnames =>
    by_cases hnaming : TakesName d t
    · obtain ⟨ns, ms, v, w, hv, hw, hne⟩ := describe_naming hn hnaming
      exact ⟨ns, ms, ofBlock_ne g hs hd hv hw hne⟩
    · obtain ⟨ns, ms, v, w, hv, hw, hne⟩ := describe_typing hn hnaming htyping hnames
      exact ⟨ns, ms, ofBlock_ne g hs hd hv hw hne⟩

end Block

section Body
variable {b : Frame} {p : List Frame}

/-- A scope has no part in the search for the declaration of parameters, or it is in that
declaration. -/
theorem findParamBlock?_scope (b : Frame) (p : List Frame) :
    (∀ ns ms, ((n.withChildren ns).within (b :: p)).findParamBlock? =
      ((n.withChildren ms).within (b :: p)).findParamBlock?) ∨
    ∃ q g r, p = q ++ g :: r ∧ Open ["param_block"] nestedScopes q ∧
      g.own.kind = "param_block" ∧ earlier ["param_block"] nestedScopes (b :: q) = [] := by
  by_cases hp : Open ["param_block"] nestedScopes p
  · -- the search comes to the scope and stops
    refine .inl fun ns ms => ?_
    have hpassed : ∀ ns, outermostAmong ["param_block"] nestedScopes [n.withChildren ns] = [] :=
      fun ns => outermostAmong_of_stop (not_mem_of_scope hn (by decide) ns) hn
    rw [findParamBlock?, findParamBlock?, outermost_within b hp, outermost_within b hp, hpassed,
      hpassed]
  · obtain ⟨q, g, r, rfl, hq, hg⟩ := exists_first_of_not_open hp
    by_cases hwanted : g.own.kind ∈ ["param_block"]
    · cases hbefore : earlier ["param_block"] nestedScopes (b :: q) with
      | nil => exact .inr ⟨q, g, r, rfl, hq, List.mem_singleton.mp hwanted, hbefore⟩
      | cons c cs =>
        -- another declaration comes first
        refine .inl fun ns ms => ?_
        rw [← List.cons_append, findParamBlock?, findParamBlock?, within_append, within_append,
          outermost_within b hq, outermost_within b hq, hbefore]
        rfl
    · -- the search has stopped at a scope around this one
      refine .inl fun ns ms => ?_
      have hpassed : ∀ m : Node, outermostAmong ["param_block"] nestedScopes [m.within (g :: r)] =
          [] := fun m => outermostAmong_of_stop hwanted (hg.resolve_left hwanted)
      rw [← List.cons_append, findParamBlock?, findParamBlock?, within_append, within_append,
        outermost_within b hq, outermost_within b hq, hpassed, hpassed]

theorem ofBody_unmoved (h : ¬Exposed (b :: p) n) (ns ms : List Node) :
    ofBody ((n.withChildren ns).within (b :: p)) =
      ofBody ((n.withChildren ms).within (b :: p)) := by
  rcases findParamBlock?_scope hn b p with hsame | ⟨q, g, r, rfl, hq, hg, hbefore⟩
  · rw [ofBody, ofBody, hsame ns ms]
  · rw [ofBody_of_block hq hg hbefore, ofBody_of_block hq hg hbefore]
    exact ofBlock_unmoved (fun hheard => h ⟨b, q, g, r, rfl, hq, hg, hbefore, hheard⟩) ns ms

theorem exists_ofBody_ne (h : Exposed (b :: p) n) :
    ∃ ns ms, (ofBody ((n.withChildren ns).within (b :: p))).1 ≠
      (ofBody ((n.withChildren ms).within (b :: p))).1 := by
  obtain ⟨b', q, g, r, hp, hq, hg, hbefore, hheard⟩ := h
  obtain ⟨ns, ms, hne⟩ := exists_ofBlock_ne hn hheard
  refine ⟨ns, ms, ?_⟩
  rw [hp, ofBody_of_block hq hg hbefore, ofBody_of_block hq hg hbefore]
  exact hne

end Body

end Scope

/-- What is in a scope inside of the body of a script makes no difference to the parameters and to
what is reported, unless the scope is in the declaration of parameters where something is heard of
it, and then it can make one. -/
theorem nested_scope_ignored {root function body n : Node} {inner : List Frame}
    (hf : root.findFunction? = some function) (hb : function.findBody? = some body)
    (hbody : body = n.within inner) (hinner : inner ≠ []) (hn : n.kind ∈ nestedScopes) :
    ∃ p, Bodily p ∧ root = (n.within inner).within p ∧
      (¬Exposed inner n → ∀ ns, extract (((n.withChildren ns).within inner).within p) =
        extract root) ∧
      (Exposed inner n → ∃ ns, (extract (((n.withChildren ns).within inner).within p)).1 ≠
        (extract root).1) := by
  obtain ⟨p, hp, hkind, hroot⟩ := exists_bodily hf hb
  obtain ⟨b, q, rfl⟩ := List.exists_cons_of_ne_nil hinner
  have hown : n.withChildren n.children = n := by
    cases n
    rfl
  have hextract : ∀ ns, extract (((n.withChildren ns).within (b :: q)).within p) =
      ofBody ((n.withChildren ns).within (b :: q)) := by
    intro ns
    have hkind : ((n.withChildren ns).within (b :: q)).kind = "script_block" := by
      rw [hbody] at hkind
      exact hkind
    obtain ⟨function, hf, hb⟩ := hp.finds hkind
    exact extract_eq_ofBody hf hb
  have hextractRoot : extract root = ofBody ((n.withChildren n.children).within (b :: q)) := by
    rw [hown, ← hbody]
    exact extract_eq_ofBody hf hb
  refine ⟨p, hp, hbody ▸ hroot, fun hexposed ns => ?_, fun hexposed => ?_⟩
  · rw [hextract, hextractRoot]
    exact ofBody_unmoved hn hexposed ns n.children
  · obtain ⟨ns, ms, hne⟩ := exists_ofBody_ne hn hexposed
    -- one of the two is not what the script declares
    by_cases hns : (ofBody ((n.withChildren ns).within (b :: q))).1 = (extract root).1
    · exact ⟨ms, fun hms => hne (by rw [hns, ← hms, hextract])⟩
    · exact ⟨ns, fun h => hns (by rw [← h, hextract])⟩

/-- The body of a definition that is the only statement of a script. -/
def toBody : List Frame :=
  [⟨plain "program" "" [], [], []⟩, ⟨plain "statement_list" "" [], [], []⟩,
    ⟨plain "function_statement" "" [], [plain "function_name" "F" []], []⟩]

/-- The list of parameters `([string]$name)`. -/
def declaring (name : String) : Node :=
  plain "parameter_list" "" [plain "script_parameter" "" [plain "attribute_list" "[string]"
    [plain "attribute" "[string]" []], plain "variable" name []]]

/-- A scope with the parameter `$Inner`. -/
def scope (kind : String) : Node :=
  plain kind "" [plain "script_block" "" [plain "param_block" "" [declaring "$Inner"]]]

/-- In a body in front of the declaration `param([string]$Outer)`. -/
def beside : List Frame :=
  [⟨plain "script_block" "" [], [], [plain "param_block" "" [declaring "$Outer"]]⟩]

/-- In the attributes of that declaration. -/
def inFront : List Frame :=
  [⟨plain "script_block" "" [], [], []⟩, ⟨plain "param_block" "" [], [], [declaring "$Outer"]⟩,
    ⟨plain "attribute_list" "" [], [], []⟩, ⟨plain "attribute" "" [], [], []⟩]

theorem nested_scope_ignored_beside :
    ∃ p, Bodily p ∧
      ((scope "function_statement").within beside).within toBody =
        ((scope "function_statement").within beside).within p ∧
      ∀ ns, extract ((((scope "function_statement").withChildren ns).within beside).within p) =
        (some [⟨"Outer", "Outer", "string", false⟩], []) := by
  have hf : (((scope "function_statement").within beside).within toBody).findFunction? =
      some (((scope "function_statement").within beside).within (toBody.drop 2)) := rfl
  have hbody : (scope "function_statement").within beside =
      (scope "function_statement").within beside := rfl
  obtain ⟨p, hp, hroot, hignored, -⟩ :=
    nested_scope_ignored hf rfl hbody (List.cons_ne_nil _ _) (by decide)
  have hexposed : ¬Exposed beside (scope "function_statement") :=
    not_exposed_of_beside (by decide)
  exact ⟨p, hp, hroot, fun ns => (hignored hexposed ns).trans rfl⟩

/-- The parameter of a scope in the attributes of the declaration is taken for one of the script. -/
theorem not_ignored_in_front :
    ∃ function body,
      (((scope "script_block_expression").within inFront).within toBody).findFunction? =
        some function ∧
      function.findBody? = some body ∧ body = (scope "script_block_expression").within inFront ∧
      inFront ≠ [] ∧ (scope "script_block_expression").kind ∈ nestedScopes ∧
      (extract (((scope "script_block_expression").within inFront).within toBody)).1 =
        some [⟨"Inner", "Inner", "string", false⟩, ⟨"Outer", "Outer", "string", false⟩] ∧
      (extract ((((scope "script_block_expression").withChildren []).within inFront).within
        toBody)).1 = some [⟨"Outer", "Outer", "string", false⟩] :=
  ⟨_, _, rfl, rfl, rfl, List.cons_ne_nil _ _, by decide, by decide +kernel, by decide +kernel⟩

end Parameter

end Scriptorium
