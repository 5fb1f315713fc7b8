import Scriptorium.Proofs.Margin.Mirror
import Scriptorium.Proofs.Session.Reparse

/-!
Reconciling the parse errors a second time. Once there is just one parse error for each finding and
each is shown, the margin is settled: reconciling with any diagnostics of the same findings passes
over every parse error and has nothing to put in, so that nothing is changed and nobody is told of
anything. The order of the diagnostics and how often each is repeated do not matter, since a finding
is taken by the one parse error that stands for it, whenever its turn comes.
-/

namespace Scriptorium
set_option autoImplicit false

/-- The diagnostics agree in what they find, in whatever order and however often. -/
def Diagnostic.SameFindings (ds es : List Diagnostic) : Prop :=
  ∀ f : Finding, (∃ d ∈ ds, d.finding = f) ↔ ∃ e ∈ es, e.finding = f

namespace Margin
variable {κ ω : Type}

/-- There is one parse error for each finding of the diagnostics and no other, and each is shown. -/
structure Settled (ds : List Diagnostic) (s : Margin κ ω) : Prop where
  once : (s.bookmarksOf .parseError).Nodup
  matched : Set.BijOn s.findingOf {b | b ∈ s.bookmarksOf .parseError} {f | ∃ d ∈ ds, d.finding = f}
  shown : ∀ b ∈ s.bookmarksOf .parseError, (s.bookmark b).marker ≠ none
  onSpans : ¬ s.HasLineError

theorem Reconciled.settled {ds : List Diagnostic} {s t : Margin κ ω} (h : Reconciled ds s t)
    (ht : Anchored t) : Settled ds t where
  once := nodup_bookmarksOf ht.storedOnce .parseError
  matched := h.matched
  shown b hb := by
    obtain ⟨_, m, _, hm⟩ := h.shown b hb
    rw [hm]
    exact Option.some_ne_none m
  onSpans := ht.not_hasLineError

section Again
variable {s : Margin κ ω} {ds es : List Diagnostic}

/-- Parse errors that are shown, each with a finding of its own that is wanted, are passed over. -/
theorem keepParseErrors_of_settled (g : Reaction κ ω) {bs : List BookmarkId}
    {wanted : List Finding} (flag : Bool) (hkeys : (bs.map s.findingOf).Nodup)
    (hwanted : ∀ b ∈ bs, s.findingOf b ∈ wanted) (hshown : ∀ b ∈ bs, (s.bookmark b).marker ≠ none) :
    keepParseErrors g bs wanted flag s = (s, .ok ((sift s.findingOf bs wanted).2, flag)) := by
  induction bs generalizing wanted with
  | nil => rfl
  | cons b bs ih =>
    obtain ⟨hkey, hkeys⟩ := List.nodup_cons.mp hkeys
    have hb := hwanted b List.mem_cons_self
    have hrest : ∀ c ∈ bs, s.findingOf c ∈ wanted.erase (s.findingOf b) := by
      intro c hc
      have hne : s.findingOf c ≠ s.findingOf b :=
        fun heq => hkey (heq ▸ List.mem_map_of_mem hc)
      exact (List.mem_erase_of_ne hne).mpr (hwanted c (List.mem_cons_of_mem b hc))
    rw [keepParseErrors, sift, if_pos hb, if_pos hb]
    simp only [if_neg (hshown b List.mem_cons_self)]
    exact ih hkeys hrest fun c hc => hshown c (List.mem_cons_of_mem b hc)

/-- Whoever listens, a settled margin is left as it is. -/
theorem Settled.replaceParseErrors (hs : Settled ds s) (hsame : Diagnostic.SameFindings ds es)
    (g : Reaction κ ω) :
    replaceParseErrors g s es = (s, .ok (s.bookmarksOf .parseError)) := by
  have hfound : ∀ f, f ∈ findings es ↔ ∃ d ∈ ds, d.finding = f :=
    fun f => mem_findings_iff.trans (hsame f).symm
  have hkeep := keepParseErrors_of_settled g false (hs.once.map_on hs.matched.injOn)
    (fun b hb => (hfound _).mpr (hs.matched.mapsTo hb)) hs.shown
  have hleft : (sift s.findingOf (s.bookmarksOf .parseError) (findings es)).2 = [] := by
    refine List.eq_nil_iff_forall_not_mem.mpr fun f hf => ?_
    obtain ⟨hf, hfree⟩ := (mem_left_sift (nodup_findings es)).mp hf
    obtain ⟨b, hb, hkey⟩ := hs.matched.surjOn ((hfound f).mp hf)
    exact hfree b hb hkey
  rw [hleft] at hkeep
  rw [replaceParseErrors_of_not_hasLineError hs.onSpans, reconcile, hkeep]
  exact congrArg (Prod.mk s) (arranged_of_not_hasLineError hs.onSpans _)

variable [DecidableEq κ] {h : Reaction κ ω}

/-- After the parse errors were reconciled with some diagnostics, reconciling them with others
leaves everything as it is, gives the same answer and tells nobody of anything, whoever listens,
just if the others have the same findings. -/
theorem reconciled_again (ha : Aloof h) {lineCount : Option Int} {w : ω}
    (hr : Run Command.Proper Beside h (empty lineCount w) s)
    (hds : ∀ d ∈ ds, d.finding.span.Valid) :
    ∃ t, replaceParseErrors h s ds = (t, .ok (t.bookmarksOf .parseError)) ∧
      ∀ es : List Diagnostic, (∀ e ∈ es, e.finding.span.Valid) →
        (Diagnostic.SameFindings ds es ↔
          ∀ g : Reaction κ ω,
            replaceParseErrors g t es = (t, .ok (t.bookmarksOf .parseError))) := by
  obtain ⟨t, hrun, ht, hrec⟩ := replaceParseErrors_reconciled ha hds (woven_of_proper_run ha hr)
  refine ⟨t, hrun, fun es hes => ⟨fun hsame => ?_, fun hquiet => ?_⟩⟩
  · exact (hrec.settled ht.toAnchored).replaceParseErrors hsame
  · -- the parse errors of the margin stand for the findings of either list
    obtain ⟨u, hagain, _, hrec'⟩ := replaceParseErrors_reconciled ha hes ht
    obtain rfl : t = u := congrArg Prod.fst ((hquiet h).symm.trans hagain)
    intro f
    exact Set.ext_iff.mp (hrec.matched.image_eq.symm.trans hrec'.matched.image_eq) f

end Again

/-- Two parse errors came to stand on one character, and the first of them lost its marker. One
listener hears of everything. -/
def collapsed : Margin Bool (List Sighting) :=
  performAll scribe ((((empty none []).subscribe true .changed).subscribe true .redraw).subscribe
      true .markerRedraw)
    [.replaceParseErrors [⟨0, 1, 1, "unexpected end"⟩, ⟨1, 1, 1, "unexpected end"⟩,
      ⟨1, 2, 1, "unexpected end"⟩], .charactersDeleted 2 1, .deleteMarker 1]

theorem reconciled_again_collapsed :
    Run Command.Proper Beside scribe (empty none []) collapsed ∧
    collapsed.stored = [0, 1, 2] ∧ collapsed.findingOf 1 = collapsed.findingOf 2 ∧
    (collapsed.bookmark 1).marker = none ∧
    ∃ t, replaceParseErrors scribe collapsed
        [⟨1, 1, 1, "unexpected end"⟩, ⟨3, 0, 2, "missing brace"⟩] =
        (t, .ok (t.bookmarksOf .parseError)) ∧ t.stored = [1, 3] ∧
      ∀ g : Reaction Bool (List Sighting),
        replaceParseErrors g t [⟨3, 0, 9, "missing brace"⟩, ⟨1, 1, 1, "unexpected end"⟩,
          ⟨3, 0, 2, "missing brace"⟩] = (t, .ok (t.bookmarksOf .parseError)) := by
  have hrun : Run Command.Proper Beside scribe (empty none []) collapsed := by
    refine .head (.aside (.aside (.subscribe _ true .changed trivial))) ?_
    refine .head (.aside (.aside (.subscribe _ true .redraw trivial))) ?_
    refine .head (.aside (.aside (.subscribe _ true .markerRedraw trivial))) ?_
    refine run_performAll_cons ?_ (run_performAll_cons ?_ (run_performAll_cons trivial .refl))
    · simp [Command.Proper, Command.Regular, Diagnostic.finding, Span.Valid]
    · exact Int.le_of_lt (by decide : (0 : Int) < 2)
  refine ⟨hrun, by decide +kernel, by decide +kernel, by decide +kernel, ?_⟩
  have hvalid : ∀ d ∈ ([⟨1, 1, 1, "unexpected end"⟩, ⟨3, 0, 2, "missing brace"⟩] : List Diagnostic),
      d.finding.span.Valid := by
    simp [Diagnostic.finding, Span.Valid]
  obtain ⟨t, ht, hagain⟩ := reconciled_again records_scribe.aloof hrun hvalid
  refine ⟨t, ht, ?_, (hagain _ (by simp [Diagnostic.finding, Span.Valid])).mp ?_⟩
  · have hsorted : collapsed.bookmarksOf .parseError = [0, 1, 2] := by
      have hfound : collapsed.stored.filter (fun b => (collapsed.bookmark b).kind = .parseError) =
          [0, 1, 2] := by decide +kernel
      unfold bookmarksOf
      rw [hfound, if_pos rfl]
      exact List.mergeSort_of_pairwise (by decide +kernel)
    have hleft : t = (replaceParseErrors scribe collapsed
        [⟨1, 1, 1, "unexpected end"⟩, ⟨3, 0, 2, "missing brace"⟩]).1 :=
      (congrArg Prod.fst ht).symm
    rw [hleft, replaceParseErrors_of_not_hasLineError (by decide +kernel), reconcile, hsorted]
    decide +kernel
  · intro f
    simp only [Diagnostic.finding, List.mem_cons, List.not_mem_nil, or_false, exists_eq_or_imp,
      exists_eq_left]
    tauto

end Margin

end Scriptorium
