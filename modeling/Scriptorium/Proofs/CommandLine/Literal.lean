import Scriptorium.CommandLine
import Scriptorium.Proofs.CommandLine.Slate
import Scriptorium.Proofs.Tree.Inside
import Scriptorium.Remote.Shelf

/-!
Whether the texts of a document reach the console as they stand. Listing parameters and checking put
them into tables, whose cells are read as markup: a table is laid out of just its texts if and only if
none of them has anything to be read in it (`cells_eq_self_iff`), and a tag in one of them is lost or,
if it closes nothing, ends the command. Fetching prints the document without looking for markup.
-/

namespace Scriptorium
set_option autoImplicit false

namespace Console
variable {con : Console}

/-- The text is seen as it stands where it is read as markup. -/
def Literal (con : Console) (s : String) : Prop := con.shown s = .ok s

instance (s : String) : Decidable (con.Literal s) := by unfold Literal; infer_instance

/-- A text with one tag in it, which opens a style or closes one that is not open. -/
inductive Tagged : String → Prop where
  | opening {before name after : String} (hbefore : IsBare before) (hname : IsTagName name)
      (hne : name ≠ "") (hafter : IsBare after) : Tagged (before ++ "[" ++ name ++ "]" ++ after)
  | closing {before name after : String} (hbefore : IsBare before) (hname : IsTagName name) :
      Tagged (before ++ "[/" ++ name ++ "]" ++ after)

theorem not_literal_of_tagged (hcon : con.ReadsMarkup) {s : String} (hs : Tagged s) :
    ¬con.Literal s := by
  intro h
  cases hs with
  | opening hbefore hname hne hafter =>
    rw [Literal, hcon.tag hbefore hname hne hafter, Except.ok.injEq] at h
    -- the tag takes at least two characters, which are not seen
    have hlength := congrArg String.length h
    have hbracket : "[".length = 1 := rfl
    simp only [String.length_append] at hlength
    omega
  | closing hbefore hname =>
    obtain ⟨message, hfault⟩ := hcon.closing hbefore hname
    rw [Literal, hfault] at h
    cases h

theorem mapM_eq_self_iff {α ε : Type} {f : α → Except ε α} {as : List α} :
    as.mapM f = .ok as ↔ ∀ a ∈ as, f a = .ok a := by
  induction as with
  | nil => simp [pure, Except.pure]
  | cons a as ih =>
    rw [List.mapM_cons, List.forall_mem_cons, ← ih]
    cases f a with
    | error e => simp [bind, Except.bind]
    | ok b => cases as.mapM f <;> simp [bind, Except.bind, pure, Except.pure]

theorem cells_eq_self_iff {t : Table} :
    con.cells t = .ok t ↔ ∀ row ∈ t.heading :: t.rows, ∀ s ∈ row, con.Literal s := by
  rw [List.forall_mem_cons, cells]
  simp only [Literal, ← mapM_eq_self_iff]
  cases t.heading.mapM con.shown with
  | error e => simp [bind, Except.bind]
  | ok heading =>
    cases (t.rows.mapM fun row => row.mapM con.shown) <;>
      simp [bind, Except.bind, pure, Except.pure, Table.ext_iff]

theorem table_of_cells {t : Table} (h : con.cells t = .ok t) : con.table t = .ok (con.laidOut t) := by
  rw [table, h]
  rfl

end Console

open Console

/-- The two names of a parameter and that of its type are as `P` says. -/
def Parameter.Names (P : String → Prop) (q : Parameter) : Prop :=
  P q.displayName ∧ P q.rawName ∧ P q.typeName

/-- The text stands in one piece in what is put out. -/
def StandsIn (output s : String) : Prop := s.toList <:+: output.toList

namespace CommandLine
open Outcome

/-- What is said of a path before what is there is read. -/
def remark (con : Console) (path : String) : Except Console.Fault String :=
  if ScriptPath.isScript path.toList then .ok ""
  else
    let name := String.ofList (ScriptPath.name path.toList)
    con.markupLine
      ("[yellow]Warning:[/yellow] " ++ name ++ " does not look like a PowerShell script")

theorem printing_nothing (o : Outcome) : printing (.ok "") o = o := by
  rw [printing, after, String.empty_append]

theorem printing_of_ok {text : Except Console.Fault String} {s : String} (h : text = .ok s)
    (output : String) (exitCode : Nat) :
    printing text (ended output exitCode) = ended (s ++ output) exitCode := by
  rw [h]
  rfl

theorem exitCode_printing {text : Except Console.Fault String} {o : Outcome}
    (ho : o.exitCode = 1) : (printing text o).exitCode = 1 := by
  cases text with
  | error e => rfl
  | ok s => exact ho

section Words
variable {s t : String}

theorem isBare_append (hs : IsBare s) (ht : IsBare t) : IsBare (s ++ t) := by
  rw [IsBare, String.toList_append, List.all_append, Bool.and_eq_true]
  exact ⟨hs, ht⟩

theorem isBare_toString_nat (n : Nat) : IsBare (toString n) := by
  refine List.all_eq_true.mpr fun c hc => ?_
  change c ∈ n.repr.toList at hc
  rw [Nat.toList_repr] at hc
  have hdigit := Nat.isDigit_of_mem_toDigits (by decide) (by decide) hc
  simp only [Char.isDigit, Bool.and_eq_true, decide_eq_true_eq, ge_iff_le,
    UInt32.le_iff_toNat_le] at hdigit
  obtain ⟨hlow, hhigh⟩ := hdigit
  have hne {d : Char} (hd : 57 < d.toNat) : c ≠ d := fun h => by
    subst h
    exact absurd hhigh (by simpa using hd)
  have hvisible : isVisible c := by
    simp only [isVisible, decide_eq_true_eq]
    exact Nat.le_trans (by decide) hlow
  simp only [hvisible, Bool.true_and, Bool.and_eq_true, bne_iff_ne, ne_eq]
  exact ⟨⟨hne (by decide), hne (by decide)⟩, hne (by decide)⟩

theorem isBare_toString_int (n : Int) : IsBare (toString n) := by
  cases n with
  | ofNat n => exact isBare_toString_nat n
  | negSucc n => exact @isBare_append "-" _ (by decide) (isBare_toString_nat n.succ)

end Words

section Tables
variable {con : Console} (hcon : con.ReadsMarkup)
include hcon

/-- All other texts in the tables are words and numbers. -/
theorem cells_parameterTable_iff {ps : List Parameter} :
    con.cells (parameterTable ps) = .ok (parameterTable ps) ↔ ∀ q ∈ ps, q.Names con.Literal := by
  have hheading : ∀ s ∈ ["name", "parameter", "type", "array"], con.Literal s := by
    simp only [List.forall_mem_cons, List.not_mem_nil, false_implies, implies_true, and_true]
    refine ⟨?_, ?_, ?_, ?_⟩ <;> exact hcon.bare (by decide)
  have harray (q : Parameter) : con.Literal (if q.isArray then "yes" else "no") := by
    split <;> exact hcon.bare (by decide)
  refine cells_eq_self_iff.trans (List.forall_mem_cons.trans ((and_iff_right hheading).trans ?_))
  simp only [parameterTable, List.forall_mem_map, List.forall_mem_cons, List.not_mem_nil, false_implies,
    implies_true, and_true, harray, Parameter.Names]

theorem cells_diagnosticTable_iff {ds : List Diagnostic} :
    con.cells (diagnosticTable ds) = .ok (diagnosticTable ds) ↔
      ∀ d ∈ ds, con.Literal d.message := by
  have hheading : ∀ s ∈ ["line", "offset", "length", "message"], con.Literal s := by
    simp only [List.forall_mem_cons, List.not_mem_nil, false_implies, implies_true, and_true]
    refine ⟨?_, ?_, ?_, ?_⟩ <;> exact hcon.bare (by decide)
  have hnumber (n : Int) : con.Literal (toString n) := hcon.bare (isBare_toString_int n)
  refine cells_eq_self_iff.trans (List.forall_mem_cons.trans ((and_iff_right hheading).trans ?_))
  simp only [diagnosticTable, List.forall_mem_map, List.forall_mem_cons, List.not_mem_nil, false_implies,
    implies_true, and_true, hnumber, true_and]

theorem standsIn_parameterTable {ps : List Parameter}
    (hroom : (parameterTable ps).HasRoom con.width) :
    ∀ q ∈ ps, q.Names (StandsIn (con.laidOut (parameterTable ps))) := by
  intro q hq
  have hrow : [q.displayName, q.rawName, q.typeName, if q.isArray then "yes" else "no"] ∈
      (parameterTable ps).heading :: (parameterTable ps).rows :=
    List.mem_cons_of_mem _ (List.mem_map.mpr ⟨q, hq, rfl⟩)
  have hcell := hcon.laidOut hroom _ hrow
  exact ⟨hcell _ (by simp), hcell _ (by simp), hcell _ (by simp)⟩

theorem standsIn_diagnosticTable {ds : List Diagnostic}
    (hroom : (diagnosticTable ds).HasRoom con.width) :
    ∀ d ∈ ds, StandsIn (con.laidOut (diagnosticTable ds)) d.message := by
  intro d hd
  have hrow : [toString d.line, toString d.startOffset, toString d.length, d.message] ∈
      (diagnosticTable ds).heading :: (diagnosticTable ds).rows :=
    List.mem_cons_of_mem _ (List.mem_map.mpr ⟨d, hd, rfl⟩)
  exact hcon.laidOut hroom _ hrow _ (by simp)

/-- How many parameters there are is said without markup. -/
theorem markupLine_count (n : Nat) :
    con.markupLine ("(" ++ toString n ++ " parameters)") =
      .ok (con.printed ("(" ++ toString n ++ " parameters)")) := by
  have hbare : IsBare ("(" ++ toString n ++ " parameters)") :=
    isBare_append (isBare_append (by decide) (isBare_toString_nat n)) (by decide)
  rw [markupLine, hcon.bare hbare]
  rfl

end Tables

section Script
variable {con : Console} {parser : Parser} {path : String} {bytes : List UInt8} {text : String}
variable {p : Parse}

theorem withScript_regular (path : String) (htext : scriptText? bytes = some text)
    (hparse : Parse.ofText parser text = .ok p) (next : Parse → Outcome) :
    withScript con parser path (.regular bytes) next = printing (remark con path) (next p) := by
  simp only [withScript, htext, hparse, remark]
  split
  · rw [printing_nothing]
  · rfl

theorem params_of_some (hcon : con.ReadsMarkup) {ps : List Parameter}
    (htext : scriptText? bytes = some text) (hparse : Parse.ofText parser text = .ok p)
    (hps : (Parameter.extract p.tree).1 = some ps) :
    params con parser path (.regular bytes) =
      printing (remark con path) (printing (con.table (parameterTable ps))
        (ended (con.printed ("(" ++ toString ps.length ++ " parameters)")) 0)) := by
  rw [params, withScript_regular path htext hparse, hps]
  dsimp only
  rw [printing_of_ok (markupLine_count hcon ps.length), String.append_empty]

theorem check_of_ne_nil (htext : scriptText? bytes = some text)
    (hparse : Parse.ofText parser text = .ok p) (hds : p.diagnostics ≠ []) :
    check con parser path (.regular bytes) =
      printing (remark con path)
        (printing (con.table (diagnosticTable p.diagnostics)) (ended "" 1)) := by
  rw [check, withScript_regular path htext hparse]
  cases hd : p.diagnostics with
  | nil => exact absurd hd hds
  | cons d ds => rfl

theorem fetch_of_content {σ : Type} {env : Settings.Environment} {opener : Opener σ}
    {settings : Settings} {served : Fetch σ} {store : σ} {window : Int}
    {documentId content : String} {published force : Bool} (hsettings : Settings.load env = .ok settings)
    (hopen : opener settings = .ok (served, store))
    (hwindow : settings.freshnessWindow = .ok window)
    (hcontent :
      ((Cache.new documentId .standard window).get served store 0 force published).2.answer =
        .ok content) (hne : content ≠ "") :
    fetch con env opener documentId published force = ended (con.line content) 0 := by
  simp only [fetch, hsettings, hopen, hwindow, hcontent, if_neg hne]

theorem line_of_isPlain (hcon : con.ReadsMarkup) {s : String} (hs : IsPlain s)
    (hroom : HasRoom con.width s) : con.line s = s ++ "\n" := by
  rw [line, hcon.plain hs, hcon.printed hroom]

/-- On every console, the table of the parameters shows their names as they stand just if there is
nothing to be read in any of them, and so does that of the diagnostics with their messages. Then they
are laid out, and each stands in the output in one piece if the table has room. A check that finds
anything has exit code 1 in any case. A document is printed without being read. No text with a tag in
it is shown as it stands. -/
theorem texts_shown (hcon : con.ReadsMarkup) (htext : scriptText? bytes = some text)
    (hparse : Parse.ofText parser text = .ok p) :
    (∀ ps, (Parameter.extract p.tree).1 = some ps →
      (con.cells (parameterTable ps) = .ok (parameterTable ps) ↔
        ∀ q ∈ ps, q.Names con.Literal) ∧
      ((∀ q ∈ ps, q.Names con.Literal) → params con parser path (.regular bytes) =
        printing (remark con path) (ended (con.laidOut (parameterTable ps) ++
          con.printed ("(" ++ toString ps.length ++ " parameters)")) 0)) ∧
      ((parameterTable ps).HasRoom con.width →
        ∀ q ∈ ps, q.Names (StandsIn (con.laidOut (parameterTable ps))))) ∧
    (p.diagnostics ≠ [] → (check con parser path (.regular bytes)).exitCode = 1 ∧
      (con.cells (diagnosticTable p.diagnostics) = .ok (diagnosticTable p.diagnostics) ↔
        ∀ d ∈ p.diagnostics, con.Literal d.message) ∧
      ((∀ d ∈ p.diagnostics, con.Literal d.message) → check con parser path (.regular bytes) =
        printing (remark con path) (ended (con.laidOut (diagnosticTable p.diagnostics)) 1)) ∧
      ((diagnosticTable p.diagnostics).HasRoom con.width →
        ∀ d ∈ p.diagnostics, StandsIn (con.laidOut (diagnosticTable p.diagnostics)) d.message)) ∧
    (∀ {σ : Type} {env : Settings.Environment} {opener : Opener σ} {settings : Settings}
      {served : Fetch σ} {store : σ} {window : Int} {documentId content : String}
      {published force : Bool}, Settings.load env = .ok settings →
      opener settings = .ok (served, store) → settings.freshnessWindow = .ok window →
      ((Cache.new documentId .standard window).get served store 0 force published).2.answer =
        .ok content → content ≠ "" →
      fetch con env opener documentId published force = ended (con.line content) 0 ∧
      (IsPlain content → HasRoom con.width content → con.line content = content ++ "\n")) ∧
    (∀ s, Tagged s → ¬con.Literal s) := by
  refine ⟨fun ps hps => ⟨cells_parameterTable_iff hcon, fun hliteral => ?_,
    standsIn_parameterTable hcon⟩, fun hds => ⟨?_, cells_diagnosticTable_iff hcon,
    fun hliteral => ?_, standsIn_diagnosticTable hcon⟩, ?_, fun s => not_literal_of_tagged hcon⟩
  · have htable := table_of_cells ((cells_parameterTable_iff hcon).mpr hliteral)
    rw [params_of_some hcon htext hparse hps, printing_of_ok htable]
  · rw [check_of_ne_nil htext hparse hds]
    exact exitCode_printing (exitCode_printing rfl)
  · have htable := table_of_cells ((cells_diagnosticTable_iff hcon).mpr hliteral)
    rw [check_of_ne_nil htext hparse hds, printing_of_ok htable, String.append_empty]
  · intro σ env opener settings served store window documentId content published force hsettings
      hopen hwindow hcontent hne
    exact ⟨fetch_of_content hsettings hopen hwindow hcontent hne, line_of_isPlain hcon⟩

end Script

/-- A script of one declaration, whose type is also reported as a fault. -/
def declared : RawNode :=
  let attributes : RawNode :=
    ⟨"attribute_list", 0, 14, 0, 0, false, [⟨"attribute", 0, 14, 0, 0, false, []⟩]⟩
  let parameter : RawNode :=
    ⟨"script_parameter", 0, 16, 0, 0, false, [attributes, ⟨"variable", 14, 16, 0, 0, false, []⟩]⟩
  let body : RawNode :=
    ⟨"script_block", 0, 16, 0, 0, false, [⟨"param_block", 0, 16, 0, 0, false, [parameter]⟩]⟩
  ⟨"program", 0, 16, 0, 0, false,
    [⟨"function_statement", 0, 16, 0, 0, false, [body]⟩, ⟨"ERROR", 0, 14, 0, 0, false, []⟩]⟩

theorem ofText_declared {text : String} (h : (Text.bytes text.toList).length = 16) :
    Parse.ofText (fun _ => some declared) text = .ok (.ofRaw text declared) := by
  refine Parse.ofText_of_inside rfl ?_
  rw [h]
  simp only [declared, RawNode.Inside, RawNode.AreInside]
  decide

/-- A store with one document, whatever the settings are. -/
def stocked : Opener Shelf := fun _ =>
  .ok (Shelf.fetch, Shelf.empty.put "d" "param([string]$a)" .draft)

theorem texts_shown_declared :
    slate.ReadsMarkup ∧
    (Parameter.extract (Parse.ofRaw "[List[String]]$a" declared).tree).1 =
      some [⟨"A", "a", "List[String]", false⟩] ∧
    params slate (fun _ => some declared) "a.ps1"
        (.regular (Text.bytes "[List[String]]$a".toList)) =
      ended (slate.laidOut (parameterTable [⟨"A", "a", "List[String]", false⟩]) ++
        "(1 parameters)\n") 0 ∧
    slate.laidOut (parameterTable [⟨"A", "a", "List[String]", false⟩]) =
      "┏━━━━━━┳━━━━━━━━━━━┳━━━━━━━━━━━━━━┳━━━━━━━┓\n" ++
        "┃ name ┃ parameter ┃ type         ┃ array ┃\n" ++
        "┡━━━━━━╇━━━━━━━━━━━╇━━━━━━━━━━━━━━╇━━━━━━━┩\n" ++
        "│ A    │ a         │ List[String] │ no    │\n" ++
        "└──────┴───────────┴──────────────┴───────┘\n" ∧
    (Parse.ofRaw "[List[String]]$a" declared).diagnostics =
      [⟨0, 14, 1, "Unexpected '[List[String]]'"⟩] ∧
    check slate (fun _ => some declared) "a.ps1"
        (.regular (Text.bytes "[List[String]]$a".toList)) =
      ended (slate.laidOut (diagnosticTable [⟨0, 14, 1, "Unexpected '[List[String]]'"⟩])) 1 ∧
    slate.laidOut (diagnosticTable [⟨0, 14, 1, "Unexpected '[List[String]]'"⟩]) =
      "┏━━━━━━┳━━━━━━━━┳━━━━━━━━┳━━━━━━━━━━━━━━━━━━━━━━━━━━━━━┓\n" ++
        "┃ line ┃ offset ┃ length ┃ message                     ┃\n" ++
        "┡━━━━━━╇━━━━━━━━╇━━━━━━━━╇━━━━━━━━━━━━━━━━━━━━━━━━━━━━━┩\n" ++
        "│ 1    │ 0      │ 14     │ Unexpected '[List[String]]' │\n" ++
        "└──────┴────────┴────────┴─────────────────────────────┘\n" ∧
    fetch slate (fun _ => none) stocked "d" false false = ended "param([string]$a)\n" 0 := by
  have htext : scriptText? (Text.bytes "[List[String]]$a".toList) = some "[List[String]]$a" := by
    decide +kernel
  have hps : (Parameter.extract (Parse.ofRaw "[List[String]]$a" declared).tree).1 =
      some [⟨"A", "a", "List[String]", false⟩] := by decide +kernel
  have hds : (Parse.ofRaw "[List[String]]$a" declared).diagnostics =
      [⟨0, 14, 1, "Unexpected '[List[String]]'"⟩] := by decide +kernel
  have hshown :=
    @texts_shown _ _ "a.ps1" _ _ _ readsMarkup_slate htext (ofText_declared (by decide +kernel))
  have hremark : remark slate "a.ps1" = .ok "" := by decide +kernel
  rw [hps, hds, hremark] at hshown
  obtain ⟨hparams, hcheck, hfetch, -⟩ := hshown
  refine ⟨readsMarkup_slate, hps, ?_, ?_, hds, ?_, ?_, ?_⟩
  · obtain ⟨-, hliteral, -⟩ := hparams _ rfl
    rw [List.forall_mem_singleton] at hliteral
    rw [hliteral ⟨by decide +kernel, by decide +kernel, by decide +kernel⟩, printing_nothing]
    rfl
  · have hwidths : (parameterTable [⟨"A", "a", "List[String]", false⟩]).widths = [4, 9, 12, 5] := by
      decide +kernel
    apply laidOut_slate hwidths <;> decide +kernel
  · obtain ⟨-, -, hliteral, -⟩ := hcheck (List.cons_ne_nil _ _)
    rw [List.forall_mem_singleton] at hliteral
    rw [hliteral (by decide +kernel), printing_nothing]
  · have hwidths : (diagnosticTable [⟨0, 14, 1, "Unexpected '[List[String]]'"⟩]).widths =
        [4, 6, 6, 27] := by decide +kernel
    apply laidOut_slate hwidths <;> decide +kernel
  · obtain ⟨settings, hsettings, hwindow⟩ : ∃ s, Settings.load (fun _ => none) = .ok s ∧
        s.freshnessWindow = .ok 1800000000 :=
      ⟨(Settings.load fun _ => none).toOption.get (by decide +kernel), by decide +kernel,
        by decide +kernel⟩
    obtain ⟨hprinted, -⟩ := @hfetch _ _ stocked _ _ _ _ "d" "param([string]$a)" false false
      hsettings rfl hwindow (by decide +kernel) (by decide)
    rw [hprinted]
    decide +kernel

/-- The type of a parameter loses what looks like a tag in it, and a message that quotes a closing
tag ends the check. -/
theorem texts_lost_generic :
    slate.ReadsMarkup ∧
    (Parameter.extract (Parse.ofRaw "[List[string]]$a" declared).tree).1 =
      some [⟨"A", "a", "List[string]", false⟩] ∧
    params slate (fun _ => some declared) "a.ps1"
        (.regular (Text.bytes "[List[string]]$a".toList)) =
      ended (slate.laidOut (parameterTable [⟨"A", "a", "List", false⟩]) ++
        "(1 parameters)\n") 0 ∧
    slate.laidOut (parameterTable [⟨"A", "a", "List", false⟩]) =
      "┏━━━━━━┳━━━━━━━━━━━┳━━━━━━┳━━━━━━━┓\n" ++
        "┃ name ┃ parameter ┃ type ┃ array ┃\n" ++
        "┡━━━━━━╇━━━━━━━━━━━╇━━━━━━╇━━━━━━━┩\n" ++
        "│ A    │ a         │ List │ no    │\n" ++
        "└──────┴───────────┴──────┴───────┘\n" ∧
    (Parse.ofRaw "[/] is no tags$a" declared).diagnostics =
      [⟨0, 14, 1, "Unexpected '[/] is no tags'"⟩] ∧
    ∃ message, check slate (fun _ => some declared) "a.ps1"
        (.regular (Text.bytes "[/] is no tags$a".toList)) =
      crashed "" (.console (.markup message)) := by
  have hgeneric : scriptText? (Text.bytes "[List[string]]$a".toList) = some "[List[string]]$a" := by
    decide +kernel
  have hclosing : scriptText? (Text.bytes "[/] is no tags$a".toList) = some "[/] is no tags$a" := by
    decide +kernel
  have hps : (Parameter.extract (Parse.ofRaw "[List[string]]$a" declared).tree).1 =
      some [⟨"A", "a", "List[string]", false⟩] := by decide +kernel
  have hds : (Parse.ofRaw "[/] is no tags$a" declared).diagnostics =
      [⟨0, 14, 1, "Unexpected '[/] is no tags'"⟩] := by decide +kernel
  have hcells : slate.cells (parameterTable [⟨"A", "a", "List[string]", false⟩]) =
      .ok (parameterTable [⟨"A", "a", "List", false⟩]) := by decide +kernel
  have hremark : remark slate "a.ps1" = .ok "" := by decide +kernel
  refine ⟨readsMarkup_slate, hps, ?_, ?_, hds, "a tag closes nothing", ?_⟩
  · rw [params_of_some readsMarkup_slate hgeneric (ofText_declared (by decide +kernel)) hps,
      hremark, printing_nothing, table, hcells]
    rfl
  · have hwidths : (parameterTable [⟨"A", "a", "List", false⟩]).widths = [4, 9, 4, 5] := by
      decide +kernel
    apply laidOut_slate hwidths <;> decide +kernel
  · rw [check_of_ne_nil hclosing (ofText_declared (by decide +kernel)) (by simp [hds]), hds]
    decide +kernel

end CommandLine

end Scriptorium
