import Scriptorium.Proofs.Text.Trim
import Scriptorium.Tree.Parse

/-!
What a message quotes of an unexpected text. There is always something to quote, since a text that
is not blank has a first line, and it is never longer than forty characters. Of a text that is not
blank it is the beginning of what is not blank in it, up to the end of a line at most. A blank text
is quoted as it stands, and there a line break can come into the message; it does just if one is
among the forty characters.
-/

namespace Scriptorium
set_option autoImplicit false

namespace Text
variable {cs : List Char}

/-- The lines of a text, without the breaks that end them. A return and a feed behind it are one
break. -/
def lines : List Char → List (List Char)
  | [] => []
  | '\r' :: '\n' :: cs => [] :: lines cs
  | c :: cs =>
    if isLineBreak c then [] :: lines cs
    else
      match lines cs with
      | [] => [[c]]
      | l :: ls => (c :: l) :: ls

/-- No character of the text ends a line. -/
def OneLine (cs : List Char) : Prop := ∀ c ∈ cs, isLineBreak c = false

instance (cs : List Char) : Decidable (OneLine cs) :=
  List.decidableBAll (fun c => isLineBreak c = false) cs

instance (cs : List Char) : Decidable (Blanks cs) :=
  List.decidableBAll (fun c => isBlank c = true) cs

theorem firstLine_cons_of_break {c : Char} (hc : isLineBreak c = true) (cs : List Char) :
    firstLine (c :: cs) = [] := by
  simp [firstLine, hc]

theorem firstLine_cons_of_plain {c : Char} (hc : isLineBreak c = false) (cs : List Char) :
    firstLine (c :: cs) = c :: firstLine cs := by
  simp [firstLine, hc]

theorem lines_ne_nil (hcs : cs ≠ []) : lines cs ≠ [] := by
  fun_cases lines cs with
  | case1 => exact absurd rfl hcs
  | case2 cs => exact List.cons_ne_nil _ _
  | case3 c cs hreturn hbreak => exact List.cons_ne_nil _ _
  | case4 c cs hreturn hplain hlines => exact List.cons_ne_nil _ _
  | case5 c cs hreturn hplain l ls hlines => exact List.cons_ne_nil _ _

theorem headD_lines (cs : List Char) : (lines cs).headD [] = firstLine cs := by
  fun_induction lines cs with
  | case1 => rfl
  | case2 cs => rfl
  | case3 c cs hreturn hbreak => rw [firstLine_cons_of_break hbreak, List.headD_cons]
  | case4 c cs hreturn hplain hlines ih =>
    rw [firstLine_cons_of_plain (Bool.eq_false_iff.mpr hplain), ← ih, hlines]
    rfl
  | case5 c cs hreturn hplain l ls hlines ih =>
    rw [firstLine_cons_of_plain (Bool.eq_false_iff.mpr hplain), ← ih, hlines]
    rfl

theorem oneLine_firstLine (cs : List Char) : OneLine (firstLine cs) := by
  intro c hc
  simpa using List.mem_takeWhile_imp hc

theorem OneLine.take (h : OneLine cs) (n : Nat) : OneLine (cs.take n) :=
  fun c hc => h c (List.mem_of_mem_take hc)

theorem firstLine_ne_nil (hs : Trimmed cs) (hcs : cs ≠ []) : firstLine cs ≠ [] := by
  obtain ⟨c, r, rfl⟩ := List.exists_cons_of_ne_nil hcs
  have hblank : isBlank c = false := hs.front c rfl
  have hplain : isLineBreak c = false := by
    refine Bool.eq_false_iff.mpr fun hbreak => ?_
    rw [isBlank_of_isLineBreak hbreak] at hblank
    cases hblank
  rw [firstLine_cons_of_plain hplain]
  exact List.cons_ne_nil _ _

end Text

section Excerpt
open Text
variable {cs : List Char}

/-- The same excerpt, with the first line looked up among the lines of what is not blank. -/
def excerpt? (cs : List Char) : Option (List Char) :=
  let t := trim cs
  if t.isEmpty then some (cs.take 40) else (lines t).head?.map fun l => l.take 40

theorem excerpt_of_blanks (h : Blanks cs) : excerpt cs = cs.take 40 := by
  unfold excerpt
  rw [trim_eq_nil_iff.mpr h]
  rfl

theorem excerpt_of_not_blanks (h : ¬ Blanks cs) :
    excerpt cs = (firstLine (trim cs)).take 40 := by
  have hne : trim cs ≠ [] := fun hnil => h (trim_eq_nil_iff.mp hnil)
  unfold excerpt
  dsimp only
  rw [if_neg (by simpa using hne)]

/-- The line that is looked up is there. -/
theorem excerpt?_eq (cs : List Char) : excerpt? cs = some (excerpt cs) := by
  unfold excerpt? excerpt
  dsimp only
  by_cases hnil : trim cs = []
  · rw [if_pos (List.isEmpty_iff.mpr hnil), if_pos (List.isEmpty_iff.mpr hnil)]
  · rw [if_neg (by simpa using hnil), if_neg (by simpa using hnil)]
    have hfirst := headD_lines (trim cs)
    obtain ⟨l, ls, hlines⟩ := List.exists_cons_of_ne_nil (lines_ne_nil hnil)
    rw [hlines, List.headD_cons] at hfirst
    rw [hlines, List.head?_cons, Option.map_some, hfirst]

theorem length_excerpt_le (cs : List Char) : (excerpt cs).length ≤ 40 := List.length_take_le _ _

theorem excerpt_prefix_trim (h : ¬ Blanks cs) : excerpt cs <+: trim cs := by
  rw [excerpt_of_not_blanks h]
  exact (List.take_prefix _ _).trans (List.takeWhile_prefix _)

theorem excerpt_ne_nil (h : ¬ Blanks cs) : excerpt cs ≠ [] := by
  have hne : trim cs ≠ [] := fun hnil => h (trim_eq_nil_iff.mp hnil)
  rw [excerpt_of_not_blanks h, Ne, List.take_eq_nil_iff]
  exact not_or.mpr ⟨by decide, firstLine_ne_nil (trimmed_trim cs) hne⟩

theorem oneLine_excerpt_iff : OneLine (excerpt cs) ↔ ¬ Blanks cs ∨ OneLine (cs.take 40) := by
  by_cases h : Blanks cs
  · rw [excerpt_of_blanks h]
    simp [h]
  · rw [excerpt_of_not_blanks h]
    exact ⟨fun _ => .inl h, fun _ => (oneLine_firstLine _).take 40⟩

end Excerpt

namespace RawNode
open Text

/-- The message on a node that is not missing quotes an excerpt of its text. It is short and, if the
text is not blank, a part of what is not blank in it, from its beginning; and it is one line unless
the text is blank and has a line break among its first forty characters. -/
theorem message_excerpted (src : Source) (n : RawNode) (hpresent : n.isMissing = false) :
    ∃ q, excerpt? (n.chars src) = some q ∧
      (n.diagnostic src).message = "Unexpected '" ++ String.ofList q ++ "'" ∧
      q.length ≤ 40 ∧
      (¬ Blanks (n.chars src) → q ≠ [] ∧ q <+: trim (n.chars src)) ∧
      (OneLine q ↔ ¬ Blanks (n.chars src) ∨ OneLine ((n.chars src).take 40)) := by
  refine ⟨excerpt (n.chars src), excerpt?_eq _, ?_, length_excerpt_le _,
    fun h => ⟨excerpt_ne_nil h, excerpt_prefix_trim h⟩, oneLine_excerpt_iff⟩
  simp [diagnostic, faultMessage, hpresent]

/-- A fault over the whole of the text below. -/
def unfinished : RawNode := ⟨"ERROR", 0, 50, 0, 1, false, []⟩

/-- The text begins with blanks, of which the first ends a line, and goes on with two lines. -/
theorem message_excerpted_unfinished :
    ¬ Blanks (unfinished.chars
      (.ofString "\u0085 param([string]$Greeting = 'Hello, stranger'\r\n$a")) ∧
    (unfinished.diagnostic
      (.ofString "\u0085 param([string]$Greeting = 'Hello, stranger'\r\n$a")).message =
      "Unexpected 'param([string]$Greeting = 'Hello, strang'" := by
  obtain ⟨q, hq, hmessage, -⟩ := message_excerpted
    (.ofString "\u0085 param([string]$Greeting = 'Hello, stranger'\r\n$a") unfinished rfl
  have hexcerpt : some q = some "param([string]$Greeting = 'Hello, strang".toList :=
    hq.symm.trans (by decide +kernel)
  refine ⟨by decide +kernel, hmessage.trans ?_⟩
  rw [Option.some.inj hexcerpt]
  decide +kernel

/-- A fault that is a line separator and nothing else. -/
def separator : RawNode := ⟨"ERROR", 0, 3, 0, 0, false, []⟩

/-- The message on it has the separator in it. -/
theorem not_one_line_separator :
    separator.kind = "ERROR" ∧ separator.isMissing = false ∧
    separator.chars (.ofString "\u2028") = ['\u2028'] ∧
    (Parse.ofRaw "\u2028" ⟨"program", 0, 3, 0, 0, false, [separator]⟩).diagnostics =
      [separator.diagnostic (.ofString "\u2028")] ∧
    (separator.diagnostic (.ofString "\u2028")).message = "Unexpected '\u2028'" ∧
    ¬ ∃ q, (separator.diagnostic (.ofString "\u2028")).message =
      "Unexpected '" ++ String.ofList q ++ "'" ∧ OneLine q := by
  have hmessage : (separator.diagnostic (.ofString "\u2028")).message =
      "Unexpected '" ++ String.ofList ['\u2028'] ++ "'" := by decide +kernel
  refine ⟨rfl, rfl, by decide +kernel, by decide +kernel, hmessage.trans (by decide +kernel), ?_⟩
  rintro ⟨q, hq, hline⟩
  rw [hmessage] at hq
  have hchars := congrArg String.toList hq
  simp only [String.toList_append, List.append_left_inj, List.append_right_inj,
    String.toList_ofList] at hchars
  exact absurd (hline '\u2028' (by rw [← hchars]; exact List.mem_cons_self)) (by decide)

end RawNode

end Scriptorium
