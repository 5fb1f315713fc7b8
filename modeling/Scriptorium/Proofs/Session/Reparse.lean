import Scriptorium.Proofs.Margin.Reconciled
import Scriptorium.Proofs.Tree.Inside
import Scriptorium.Session

/-!
Parsing the text of a session again. Whatever was done to the margin before, as long as nothing in
it shares an anchor or was placed before the text, the new parse does not fail, and the parse errors
in the margin are then those of the text.

The margin may have been in any hands until then. A marker can be moved and resized through itself,
and its tag be written over, which the consistency of the margin does not survive; what reconciling
needs of it does.
-/

namespace Scriptorium
set_option autoImplicit false

namespace Margin
variable {κ ω : Type}

/-- The command is regular, or it changes a marker by hand and leaves a proper span. -/
def Command.Proper (s : Margin κ ω) : Command → Prop
  | .setTag _ _ => True
  | .moveMarker _ start => 0 ≤ start
  | .resizeMarker _ length => 0 ≤ length
  | c => c.Regular s

/-- What happens beside the commands: that which listeners do, and the entries of the session. -/
inductive Beside [DecidableEq κ] : Margin κ ω → Margin κ ω → Prop where
  | aside {s t : Margin κ ω} : Aside s t → Beside s t
  | report (s : Margin κ ω) (journal : Journal) :
      Beside s { s with journal := s.journal ++ journal }

section Woven
variable {s : Margin κ ω}

theorem Woven.retag (hs : Woven False [] none s) (m : MarkerId) (l : Label) :
    Woven False [] none (s.modifyMarker m fun x => { x with tag := l }) := by
  have hspan : ∀ n, ((s.modifyMarker m fun x => { x with tag := l }).marker n).span =
      (s.marker n).span := by
    intro n
    rw [marker_modifyMarker]
    split <;> rfl
  have hheard : ∀ n, ((s.modifyMarker m fun x => { x with tag := l }).marker n).deleted =
      (s.marker n).deleted := by
    intro n
    rw [marker_modifyMarker]
    split <;> rfl
  exact { hs with
    liveMade := by
      intro n hn
      obtain ⟨hmade, hcover⟩ := hs.liveMade n hn
      rw [hspan]
      exact ⟨Nat.lt_of_lt_of_le hmade (Registry.size_le_size_modify _ _ _), hcover⟩
    distinct := by
      intro n hn p hp heq
      rw [hspan, hspan] at heq
      exact hs.distinct n hn p hp heq
    followed := by
      intro n hn
      rw [hspan]
      exact hs.followed n hn
    needed := by
      intro i hi
      simp only [hspan]
      exact hs.needed i hi
    apart := by
      intro n hn b hb hanchor
      rw [hspan] at hanchor
      exact hs.apart n hn b hb hanchor
    tagged := False.elim
    shown := by
      intro b n hn
      obtain ⟨hb, _, howner⟩ := hs.shown b n hn
      rw [hheard]
      exact ⟨hb, False.elim, howner⟩ }

theorem Woven.reshape {τ : Prop} (hs : Woven τ [] none s) (m : MarkerId) {x : Span}
    (hx : (s.markerSpan m).Valid → x.Valid) :
    Woven τ [] none { s with tracker := s.tracker.setSpan (s.marker m).span x } := by
  refine hs.edit (u := s.tracker.setSpan (s.marker m).span x) rfl ?_ ?_
  · exact Nat.le_trans (Nat.le_max_left _ _) (Nat.le_of_eq (Registry.size_set _ _ _).symm)
  · intro i hi
    change ((s.tracker.spans.set (s.marker m).span x).get i).Valid
    rw [Registry.get_set]
    split
    · rename_i heq
      apply hx
      rwa [markerSpan, heq]
    · exact hi

variable [DecidableEq κ] {h : Reaction κ ω}

theorem perform_proper (ha : Aloof h) {c : Command} (hc : c.Proper s) (hs : Woven False [] none s) :
    Woven False [] none (perform h s c).1 := by
  cases c with
  | setTag m l => exact hs.retag m l
  | moveMarker m start => exact hs.reshape m fun hx => ⟨hc, hx.2⟩
  | resizeMarker m length => exact hs.reshape m fun hx => ⟨hx.1, hc⟩
  | _ => exact perform_woven ha.tactful (Command.Regular.plain hc) (undisturbed_of_aloof ha hc hs) hs

theorem woven_of_proper_run (ha : Aloof h) {lineCount : Option Int} {w : ω}
    (hr : Run Command.Proper Beside h (empty lineCount w) s) : Woven False [] none s := by
  refine run_induction (I := Woven False [] none) ?_ ?_ hr (woven_empty lineCount w)
  · exact fun t c hc ht => perform_proper ha hc ht
  · intro t u hbeside ht
    cases hbeside with
    | aside haside => exact ht.alike (.aside haside)
    | report journal =>
      exact ht.alike ⟨rfl, rfl, rfl, rfl, rfl, rfl, fun _ => rfl, fun _ => rfl, fun _ _ => Iff.rfl⟩

end Woven

end Margin

namespace Session
variable {κ ω : Type} [DecidableEq κ] {h : Margin.Reaction κ ω} {x : Session κ ω}

open Margin

/-- A tree inside of the text is reported in full, and the margin has just its faults afterwards.
The rest of the session stays as it was. -/
theorem reparse_reconciled (ha : Aloof h) {lineCount : Option Int} {w : ω}
    (hr : Run Command.Proper Beside h (empty lineCount w) x.margin) {parser : Parser}
    {text : String} {root : RawNode} (hroot : parser text = some root)
    (hin : root.Inside (Text.bytes text.toList).length) :
    ∃ y, x.reparse parser h text = (y, .ok (root.diagnostics (.ofString text))) ∧
      y = { x with margin := y.margin } ∧
      Reconciled (root.diagnostics (.ofString text)) x.margin y.margin := by
  have hds := root.valid_of_mem_diagnostics hin
  have hreported : ∀ journal, ∃ y,
      replaceParseErrors h (x.log journal).margin (root.diagnostics (.ofString text)) =
        (y, .ok (y.bookmarksOf .parseError)) ∧
      Reconciled (root.diagnostics (.ofString text)) x.margin y := by
    intro journal
    have hw := woven_of_proper_run ha (hr.tail (.aside (.report x.margin journal)))
    obtain ⟨y, hy, _, hrec⟩ := replaceParseErrors_reconciled ha hds hw
    exact ⟨y, hy, { hrec with }⟩
  have hsilent : x.log [] = x := by
    rw [log, List.append_nil]
  have hall : (Parse.ofRaw text root).diagnostics = root.diagnostics (.ofString text) :=
    Parse.diagnostics_ofRaw text root
  rw [reparse, Parse.ofText_of_inside hroot hin]
  dsimp only
  rw [hall]
  cases (Parse.ofRaw text root).hasErrors with
  | true =>
    rw [if_pos rfl]
    obtain ⟨y, hy, hrec⟩ := hreported [⟨.debug, "Runbook '" ++ x.documentId ++ "' has " ++
      toString (root.diagnostics (.ofString text)).length ++ " parse error(s)"⟩]
    rw [hy]
    exact ⟨_, rfl, rfl, hrec⟩
  | false =>
    rw [if_neg Bool.false_ne_true]
    obtain ⟨y, hy, hrec⟩ := hreported []
    rw [hsilent] at hy
    rw [hy]
    exact ⟨_, rfl, rfl, hrec⟩

/-- A tree of `aé)b`, which is five bytes long: an unexpected character, with another fault
inside of it, and a bracket that is missing. -/
def faulty : RawNode :=
  ⟨"program", 0, 5, 0, 0, false,
    [⟨"ERROR", 1, 3, 0, 0, false, [⟨"ERROR", 1, 3, 0, 0, false, []⟩]⟩,
      ⟨")", 4, 4, 0, 0, true, []⟩]⟩

/-- Two parse errors came to stand on one character, and the first of them lost its marker. -/
def edited : Margin Unit Unit :=
  performAll grumbler ((empty none ()).subscribe () .changed)
    [.toggleBreakpoint 3,
      .replaceParseErrors [⟨1, 1, 1, "Unexpected 'é'"⟩, ⟨1, 2, 1, "Unexpected 'é'"⟩,
        ⟨0, 1, 1, "Unexpected 'é'"⟩],
      .attachMarker 0 ⟨0, 2⟩, .charactersDeleted 2 1, .deleteMarker 0, .setTag 1 .blank,
      .moveMarker 3 1]

def reopened : Session Unit Unit := .new "42" "Restart-Fleet" (.new "42" .never 0) edited true

theorem reparse_reconciled_edited :
    Aloof grumbler ∧ Run Command.Proper Beside grumbler (empty none ()) reopened.margin ∧
    reopened.margin.stored = [0, 1, 2, 3] ∧
    reopened.margin.findingOf 1 = reopened.margin.findingOf 2 ∧
    faulty.Inside (Text.bytes "aé)b".toList).length ∧
    faulty.diagnostics (.ofString "aé)b") =
      [⟨1, 1, 1, "Unexpected 'é'"⟩, ⟨3, 0, 1, "Missing ')'"⟩] ∧
    ∃ y, reopened.reparse (fun _ => some faulty) grumbler "aé)b" =
        (y, .ok (faulty.diagnostics (.ofString "aé)b"))) ∧
      y = { reopened with margin := y.margin } ∧
      Reconciled (faulty.diagnostics (.ofString "aé)b")) reopened.margin y.margin := by
  have haloof : Aloof grumbler := fun _ _ _ => .refl
  have hrun : Run Command.Proper Beside grumbler (empty none ()) reopened.margin := by
    refine .head (.aside (.aside (.subscribe _ () .changed trivial))) (run_performAll _ _ ?_)
    intro c hc t
    simp only [List.mem_cons, List.not_mem_nil, or_false] at hc
    rcases hc with rfl | rfl | rfl | rfl | rfl | rfl | rfl
    · trivial
    · simp [Command.Proper, Command.Regular, Diagnostic.finding, Span.Valid]
    · trivial
    · change (0 : Int) ≤ 2
      decide
    · trivial
    · trivial
    · change (0 : Int) ≤ 1
      decide
  have hin : faulty.Inside (Text.bytes "aé)b".toList).length := by
    simp only [faulty, RawNode.Inside, RawNode.AreInside]
    decide +kernel
  exact ⟨haloof, hrun, by decide +kernel, by decide +kernel, hin, by decide +kernel,
    reparse_reconciled haloof hrun rfl hin⟩

end Session

end Scriptorium
