import Scriptorium.Proofs.Margin.Consistent

/-!
Listeners that take bookmarks and markers away while an operation is under way. Whichever they take
and whenever they do, to any depth, the margin is consistent when the operation is over, unless they
do so where a bookmark is given a marker (`Command.Undisturbed`). There the operation has told of
something else before and does not look again whether the bookmark is still stored; and the new
marker of a parse error is styled, and listeners told of it, before the bookmark listens to it.
-/

namespace Scriptorium
set_option autoImplicit false

namespace Margin

section Run
variable {κ ω : Type} [DecidableEq κ] {h : Reaction κ ω} {s : Margin κ ω}

omit [DecidableEq κ] in
theorem Command.Withdraws.sensible {c : Command} (hc : c.Withdraws s) : c.Sensible s := by
  cases c with
  | add b => exact hc.elim
  | linesDeleted first count => exact hc.elim
  | _ => exact trivial

section Undisturbed
variable (hl : Lawful Command.Withdraws h) {lineCount : Option Int} {w : ω}
variable (hr : Run (fun t c => c.Plain t ∧ c.Undisturbed h t) Aside h (empty lineCount w) s)
include hl hr

theorem woven_of_undisturbed_run : Woven True [] none s := by
  refine run_induction (I := Woven True [] none) ?_ ?_ hr (woven_empty lineCount w)
  · exact fun t c hc ht => perform_woven (tactful_of_lawful hl) hc.1 hc.2 ht
  · exact fun t u haside ht => ht.alike (.aside haside)

theorem ordered_of_undisturbed_run : s.ruling.Ordered [] 0 := by
  have hsensible : Lawful Command.Sensible h := hl.mono fun _ _ => Command.Withdraws.sensible
  exact ordered_of_run hsensible
    (run_mono (fun _ _ hc => Command.Plain.sensible hc.1) (fun _ _ => id) hr)

/-- Nothing is lost of what `consistent_of_run` says of listeners that do not call back. -/
theorem consistent_of_undisturbed_run : s.Consistent :=
  consistent_of_woven (ordered_of_undisturbed_run hl hr) (woven_of_undisturbed_run hl hr)

end Undisturbed

/-- No stored bookmark has a marker that is gone or an anchor that is not tracked, and no live marker
is tagged with a bookmark that does not have it. -/
structure Intact (s : Margin κ ω) : Prop where
  shown : ∀ b ∈ s.stored, ∀ m, (s.bookmark b).marker = some m → m ∈ s.live
  tracked : ∀ b ∈ s.stored, s.tracker.IsTracked (s.bookmark b).anchor
  tagged : ∀ m ∈ s.live, ∀ b, (s.marker m).tag = .bookmark b →
    b ∈ s.stored ∧ (s.bookmark b).marker = some m

/-- Listeners may delete markers and take bookmarks out whenever they are called, also while others
do so: when no command is under way, the margin is intact. -/
theorem intact_of_undisturbed_run (hl : Lawful Command.Withdraws h) {lineCount : Option Int} {w : ω}
    (hr : Run (fun t c => c.Plain t ∧ c.Undisturbed h t) Aside h (empty lineCount w) s) :
    s.Intact := by
  have hw := woven_of_undisturbed_run hl hr
  have hs := consistent_of_undisturbed_run hl hr
  refine ⟨fun b hb m hm => (hs.shown b hb m hm).1, ?_, hs.tagged⟩
  intro b hb
  cases hanchor : (s.bookmark b).anchor with
  | line i =>
    have hlines := (ordered_of_undisturbed_run hl hr).stays b hb List.not_mem_nil i hanchor
    exact hlines.1
  | span i => exact hw.tracks hb hanchor

end Run

/-- A listener that deletes the marker of a new parse error as soon as that is told of, and that of
the breakpoint while it is styled. When the breakpoint goes, it takes the other parse error along and
fails. -/
def tidier (_ : Unit) (n : Notice) (s : Margin Unit Unit) : List Command × Bool :=
  match n with
  | .changed 1 false => ([.deleteMarker 0], false)
  | .changed 0 true => ([.remove 2], true)
  | .markerRedraw m => (if (s.marker m).tag = .bookmark 0 then [.deleteMarker m] else [], false)
  | _ => ([], false)

def tidied : Margin Unit Unit :=
  performAll (scripted tidier 2) (((empty none ()).subscribe () .changed).subscribe () .markerRedraw)
    [.toggleBreakpoint 3, .replaceParseErrors [⟨4, 2, 1, "unexpected end"⟩], .attachMarker 0 ⟨0, 9⟩,
      .replaceParseErrors [⟨4, 2, 1, "unexpected end"⟩, ⟨7, 1, 1, "missing bracket"⟩],
      .linesDeleted 3 1]

theorem lawful_tidier : Lawful Command.Withdraws (scripted tidier 2) := by
  apply lawful_scripted
  intro k n s c hc t
  unfold tidier at hc
  split at hc
  · obtain rfl := List.mem_singleton.mp hc
    trivial
  · obtain rfl := List.mem_singleton.mp hc
    trivial
  · split at hc
    · obtain rfl := List.mem_singleton.mp hc
      trivial
    · cases hc
  · cases hc

theorem intact_of_undisturbed_run_tidied :
    Lawful Command.Withdraws (scripted tidier 2) ∧
    Run (fun t c => c.Plain t ∧ c.Undisturbed (scripted tidier 2) t) Aside (scripted tidier 2)
      (empty none ()) tidied ∧
    tidied.stored = [1] ∧ tidied.live = [2] ∧ tidied.Intact := by
  have hrun : Run (fun t c => c.Plain t ∧ c.Undisturbed (scripted tidier 2) t) Aside
      (scripted tidier 2) (empty none ()) tidied := by
    refine .head (.aside (.subscribe _ () .changed trivial)) ?_
    refine .head (.aside (.subscribe _ () .markerRedraw trivial)) ?_
    refine run_performAll_cons ⟨trivial, trivial⟩ ?_
    refine run_performAll_cons ⟨?_, ?_⟩ (run_performAll_cons ⟨trivial, ?_⟩
      (run_performAll_cons ⟨?_, ?_⟩ (run_performAll_cons ⟨?_, trivial⟩ .refl)))
    · simp [Command.Plain, Command.Regular, Diagnostic.finding, Span.Valid]
    · unfold Command.Undisturbed
      decide +kernel
    · unfold Command.Undisturbed
      decide +kernel
    · simp [Command.Plain, Command.Regular, Diagnostic.finding, Span.Valid]
    · unfold Command.Undisturbed
      decide +kernel
    · change (1 : Int) ≤ 3
      decide
  exact ⟨lawful_tidier, hrun, by decide +kernel, by decide +kernel,
    intact_of_undisturbed_run lawful_tidier hrun⟩

/-- Listeners of which each takes something away at the wrong moment. -/
inductive Meddler where
  | snatcher
  | carrier
  | sweeper
  deriving DecidableEq

def meddle (k : Meddler) (n : Notice) (s : Margin Meddler Unit) : List Command × Bool :=
  match k, n with
  | .snatcher, .markerRedraw m => ([.deleteMarker m], false)
  | .carrier, .markerRedraw m => (if m ∈ s.live then [] else [.remove 0], false)
  | .sweeper, .changed 0 true => ([.remove 1], false)
  | _, _ => ([], false)

theorem lawful_meddle : Lawful Command.Withdraws (scripted meddle 2) := by
  apply lawful_scripted
  intro k n s c hc t
  unfold meddle at hc
  split at hc
  · obtain rfl := List.mem_singleton.mp hc
    trivial
  · split at hc
    · cases hc
    · obtain rfl := List.mem_singleton.mp hc
      trivial
  · obtain rfl := List.mem_singleton.mp hc
    trivial
  · cases hc

/-- The marker of a new parse error is deleted while it is styled. -/
def snatched : Margin Meddler Unit :=
  performAll (scripted meddle 2) ((empty none ()).subscribe .snatcher .markerRedraw)
    [.replaceParseErrors [⟨4, 2, 1, "unexpected end"⟩]]

/-- The breakpoint is removed when its former marker goes, and gets the new one all the same. -/
def carriedOff : Margin Meddler Unit :=
  performAll (scripted meddle 2) ((empty none ()).subscribe .carrier .markerRedraw)
    [.toggleBreakpoint 3, .attachMarker 0 ⟨0, 9⟩, .attachMarker 0 ⟨0, 4⟩]

/-- Two parse errors that nobody has touched yet. -/
def unswept : Margin Meddler Unit :=
  performAll (scripted meddle 2) ((empty none ()).subscribe .sweeper .changed)
    [.replaceParseErrors [⟨4, 2, 1, "unexpected end"⟩, ⟨7, 1, 1, "missing bracket"⟩]]

/-- With the parse error that is not reported any more goes the other, which is shown anew. -/
def sweptOff : Margin Meddler Unit :=
  performAll (scripted meddle 2) unswept [.replaceParseErrors [⟨7, 1, 1, "missing bracket"⟩]]

theorem sweptOff_eq :
    sweptOff.stored = [] ∧ sweptOff.live = [2] ∧ (sweptOff.marker 2).tag = .bookmark 1 := by
  have hsorted : unswept.bookmarksOf .parseError = [0, 1] := by
    have hfound : unswept.stored.filter (fun b => (unswept.bookmark b).kind = .parseError) =
        [0, 1] := by decide +kernel
    unfold bookmarksOf
    rw [hfound, if_pos rfl]
    exact List.mergeSort_of_pairwise (by decide +kernel)
  change (replaceParseErrors _ unswept _).1.stored = [] ∧
    (replaceParseErrors _ unswept _).1.live = [2] ∧
      ((replaceParseErrors _ unswept _).1.marker 2).tag = .bookmark 1
  rw [replaceParseErrors_of_not_hasLineError (by decide +kernel), reconcile, hsorted]
  decide +kernel

theorem not_intact_meddled :
    Lawful Command.Withdraws (scripted meddle 2) ∧
    ∀ s ∈ [snatched, carriedOff, sweptOff],
      Run Command.Plain Aside (scripted meddle 2) (empty none ()) s ∧ ¬ s.Intact := by
  refine ⟨lawful_meddle, ?_⟩
  simp only [List.forall_mem_cons, List.not_mem_nil, false_implies, implies_true, and_true]
  refine ⟨⟨?_, ?_⟩, ⟨?_, ?_⟩, ⟨?_, ?_⟩⟩
  · refine .head (.aside (.subscribe _ .snatcher .markerRedraw trivial)) ?_
    refine run_performAll_cons ?_ .refl
    simp [Command.Plain, Command.Regular, Diagnostic.finding, Span.Valid]
  · intro hs
    have hlive : 0 ∈ snatched.live := hs.shown 0 (by decide +kernel) 0 (by decide +kernel)
    exact absurd hlive (by decide +kernel)
  · refine .head (.aside (.subscribe _ .carrier .markerRedraw trivial)) ?_
    exact run_performAll_cons trivial (run_performAll_cons trivial (run_performAll_cons trivial .refl))
  · intro hs
    obtain ⟨hstored, _⟩ := hs.tagged 1 (by decide +kernel) 0 (by decide +kernel)
    exact absurd hstored (by decide +kernel)
  · have hunswept : Run Command.Plain Aside (scripted meddle 2) (empty none ()) unswept := by
      refine .head (.aside (.subscribe _ .sweeper .changed trivial)) ?_
      refine run_performAll_cons ?_ .refl
      simp [Command.Plain, Command.Regular, Diagnostic.finding, Span.Valid]
    refine hunswept.trans (run_performAll_cons ?_ .refl)
    simp [Command.Plain, Command.Regular, Diagnostic.finding, Span.Valid]
  · intro hs
    obtain ⟨hstored, hlive, htag⟩ := sweptOff_eq
    obtain ⟨h, _⟩ := hs.tagged 2 (hlive ▸ List.mem_singleton_self 2) 1 htag
    rw [hstored] at h
    cases h

end Margin

end Scriptorium
