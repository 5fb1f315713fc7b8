import Scriptorium.Proofs.Tree.Frame

/-!
Where the body of a script is found. The definition that a script consists of is the first one
among its statements, and the body is the first block in it; both are found by their places,
whatever else stands there (`Bodily`): a script has a body just if it is a block at such a place.
-/

namespace Scriptorium
set_option autoImplicit false

namespace Node
variable {f : Frame} {p : List Frame} {n body function root : Node}

/-- No definition is among the statements of these nodes. -/
def Undefined (ns : List Node) : Prop := ∀ n ∈ statementsAmong ns, n.kind ≠ "function_statement"

/-- The place of the first definition among the statements of a script. -/
structure Leading (p : List Frame) : Prop where
  below : p ≠ []
  lists : ∀ f ∈ p.tail, f.own.kind = "statement_list"
  first : ∀ f ∈ p, Undefined f.before

/-- The frames lead from a script to the body of the definition that it consists of. -/
def Bodily (p : List Frame) : Prop :=
  ∃ q f, p = q ++ [f] ∧ Leading q ∧ f.own.kind = "function_statement" ∧
    ∀ m ∈ f.before, m.kind ≠ "script_block"

theorem statementsAmong_cons (n : Node) (ns : List Node) :
    statementsAmong (n :: ns) =
      (if n.kind = "statement_list" then statementsAmong n.children else [n]) ++
        statementsAmong ns := by
  rw [statementsAmong, statements_eq]

theorem statementsAmong_append (ns ms : List Node) :
    statementsAmong (ns ++ ms) = statementsAmong ns ++ statementsAmong ms := by
  induction ns with
  | nil => rw [List.nil_append, statementsAmong, List.nil_append]
  | cons n ns ih =>
    rw [List.cons_append, statementsAmong_cons, statementsAmong_cons, ih, List.append_assoc]

theorem undefined_iff {ns : List Node} :
    Undefined ns ↔
      (statementsAmong ns).find? (fun m => m.kind = "function_statement") = none := by
  simp [Undefined, List.find?_eq_none]

theorem undefined_append {ns ms : List Node} (hns : Undefined ns) (hms : Undefined ms) :
    Undefined (ns ++ ms) := by
  intro n hn
  rw [statementsAmong_append] at hn
  rcases List.mem_append.mp hn with hn | hn
  · exact hns n hn
  · exact hms n hn

theorem findFunction?_around (hf : Undefined f.before) :
    (f.around n).findFunction? =
      (statementsAmong (n :: f.after)).find? fun m => m.kind = "function_statement" := by
  rw [findFunction?, statements_eq, children_around, statementsAmong_append, List.find?_append,
    undefined_iff.mp hf, Option.none_or]

theorem Leading.finds (hp : Leading p) (hn : n.kind = "function_statement") :
    (n.within p).findFunction? = some n := by
  obtain ⟨hbelow, hlists, hfirst⟩ := hp
  induction p with
  | nil => exact absurd rfl hbelow
  | cons f p ih =>
    obtain ⟨hf, hfirst⟩ := List.forall_mem_cons.mp hfirst
    rw [within_cons, findFunction?_around hf, statementsAmong_cons]
    cases p with
    | nil => simp [hn]
    | cons g p =>
      obtain ⟨hg, hlists⟩ := List.forall_mem_cons.mp hlists
      have hbelow := ih (List.cons_ne_nil _ _) hlists hfirst
      rw [findFunction?, statements_eq] at hbelow
      rw [within_cons, kind_around, if_pos hg, ← within_cons, List.find?_append, hbelow,
        Option.some_or]

mutual

theorem exists_leading : (n : Node) → n.findFunction? = some function →
    ∃ p, Leading p ∧ n = function.within p
  | ⟨kind, startOffset, endOffset, startRow, endRow, text, isError, children⟩, h => by
    rw [findFunction?, statements_eq] at h
    obtain ⟨before, m, after, p, rfl, rfl, hbefore, hlists, hfirst⟩ :=
      exists_leading_among children h
    exact ⟨⟨⟨kind, startOffset, endOffset, startRow, endRow, text, isError, []⟩, before, after⟩
      :: p, ⟨List.cons_ne_nil _ _, hlists, List.forall_mem_cons.mpr ⟨hbefore, hfirst⟩⟩, rfl⟩

theorem exists_leading_among : (ns : List Node) →
    (statementsAmong ns).find? (fun m => m.kind = "function_statement") = some function →
    ∃ before m after p, ns = before ++ m :: after ∧ m = function.within p ∧ Undefined before ∧
      (∀ f ∈ p, f.own.kind = "statement_list") ∧ ∀ f ∈ p, Undefined f.before
  | [], h => by
    rw [statementsAmong] at h
    cases h
  | n :: ns, h => by
    rw [← List.singleton_append, statementsAmong_append, List.find?_append] at h
    cases hn : (statementsAmong [n]).find? fun m => m.kind = "function_statement" with
    | none =>
      rw [hn, Option.none_or] at h
      obtain ⟨before, m, after, p, rfl, hm, hbefore, hp⟩ := exists_leading_among ns h
      exact ⟨n :: before, m, after, p, rfl, hm,
        undefined_append (undefined_iff.mpr hn) hbefore, hp⟩
    | some m =>
      rw [hn, Option.some_or] at h
      rw [h] at hn
      have hnone : Undefined [] := by
        rw [undefined_iff, statementsAmong]
        rfl
      rw [statementsAmong_cons] at hn
      by_cases hlist : n.kind = "statement_list"
      · rw [if_pos hlist, statementsAmong, List.append_nil, ← statements_eq] at hn
        obtain ⟨p, ⟨hbelow, hlists, hfirst⟩, hp⟩ := exists_leading n hn
        refine ⟨[], n, ns, p, rfl, hp, hnone, ?_, hfirst⟩
        cases p with
        | nil => exact absurd rfl hbelow
        | cons f p =>
          rw [hp] at hlist
          exact List.forall_mem_cons.mpr ⟨hlist, hlists⟩
      · rw [if_neg hlist, statementsAmong, List.append_nil] at hn
        have heq : function = n := List.mem_singleton.mp (List.mem_of_find?_eq_some hn)
        exact ⟨[], n, ns, [], rfl, heq.symm, hnone, nofun, nofun⟩

end

/-- A body is found at the place of a body only. -/
theorem exists_bodily (hf : root.findFunction? = some function)
    (hb : function.findBody? = some body) :
    ∃ p, Bodily p ∧ body.kind = "script_block" ∧ root = body.within p := by
  obtain ⟨q, hq, rfl⟩ := exists_leading root hf
  have hfunction : function.kind = "function_statement" := by
    simpa using List.find?_some hf
  obtain ⟨hbody, before, after, hchildren, hbefore⟩ := List.find?_eq_some_iff_append.mp hb
  refine ⟨q ++ [⟨function, before, after⟩], ⟨q, _, rfl, hq, hfunction, ?_⟩, ?_, ?_⟩
  · simpa using hbefore
  · simpa using hbody
  · have hfill : (⟨function, before, after⟩ : Frame).around body = function := by
      rw [Frame.around, ← hchildren]
      cases function
      rfl
    rw [within_append, within_cons, within_nil, hfill]

/-- And there it is found, whichever body it is. -/
theorem Bodily.finds (hp : Bodily p) (hbody : body.kind = "script_block") :
    ∃ function, (body.within p).findFunction? = some function ∧
      function.findBody? = some body := by
  obtain ⟨q, f, rfl, hq, hf, hbefore⟩ := hp
  refine ⟨f.around body, ?_, ?_⟩
  · rw [within_append]
    exact hq.finds hf
  · have hnone : f.before.find? (fun m => m.kind = "script_block") = none :=
      List.find?_eq_none.mpr fun m hm => by simpa using hbefore m hm
    rw [findBody?, children_around, List.find?_append, hnone, Option.none_or,
      List.find?_cons_of_pos (by simpa using hbody)]

end Node

end Scriptorium
