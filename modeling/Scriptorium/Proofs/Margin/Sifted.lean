import Mathlib.Data.List.Induction
import Mathlib.Data.Set.Operations
import Scriptorium.Proofs.Margin.Spared

/-!
The two passes by which the parse errors of the margin are reconciled with the findings of a parse.
Which bookmarks stay is settled before anything is done: each parse error in turn takes the finding
that it stands for, as long as that is still wanted (`sift`). The first pass brings this about
(`Sifted`), since nothing that it does to one bookmark is felt by another; the second puts in a
bookmark for each finding that nobody took (`Reported`). Neither can fail.
-/

namespace Scriptorium
set_option autoImplicit false

section Findings
variable {ds : List Diagnostic} {f : Finding}

theorem findings_concat (ds : List Diagnostic) (d : Diagnostic) :
    findings (ds ++ [d]) =
      if d.finding ∈ findings ds then findings ds else findings ds ++ [d.finding] := by
  unfold findings
  rw [List.foldl_append]
  rfl

theorem mem_findings_iff : f ∈ findings ds ↔ ∃ d ∈ ds, d.finding = f := by
  constructor
  · exact mem_findings
  · rintro ⟨d, hd, rfl⟩
    induction ds using List.reverseRecOn with
    | nil => cases hd
    | append_singleton ds e ih =>
      rw [findings_concat]
      rcases List.mem_append.mp hd with hd | hd
      · split
        · exact ih hd
        · exact List.mem_append_left _ (ih hd)
      · rw [List.mem_singleton.mp hd]
        split
        · assumption
        · simp

theorem nodup_findings (ds : List Diagnostic) : (findings ds).Nodup := by
  induction ds using List.reverseRecOn with
  | nil => exact List.nodup_nil
  | append_singleton ds d ih =>
    rw [findings_concat]
    split
    · exact ih
    · rename_i hd
      simpa using ih.concat hd

theorem findings_filter (p : Finding → Bool) (ds : List Diagnostic) :
    findings (ds.filter fun d => p d.finding) = (findings ds).filter p := by
  induction ds using List.reverseRecOn with
  | nil => rfl
  | append_singleton ds d ih =>
    rw [List.filter_append, findings_concat]
    by_cases hp : p d.finding
    · have hone : [d].filter (fun d => p d.finding) = [d] := List.filter_cons_of_pos hp
      rw [hone, findings_concat, ih]
      by_cases hd : d.finding ∈ findings ds
      · rw [if_pos hd, if_pos (List.mem_filter.mpr ⟨hd, hp⟩)]
      · rw [if_neg hd, if_neg (mt (fun h => (List.mem_filter.mp h).1) hd), List.filter_append,
          List.filter_cons_of_pos hp, List.filter_nil]
    · have hnone : [d].filter (fun d => p d.finding) = [] := List.filter_cons_of_neg hp
      rw [hnone, List.append_nil, ih]
      split
      · rfl
      · rw [List.filter_append, List.filter_cons_of_neg hp, List.filter_nil, List.append_nil]

end Findings

/-- Those that get the finding that they stand for, each finding going to the first that asks for
it, and the findings that nobody asked for. -/
def sift (key : BookmarkId → Finding) :
    List BookmarkId → List Finding → List BookmarkId × List Finding
  | [], wanted => ([], wanted)
  | b :: bs, wanted =>
    if key b ∈ wanted then
      (b :: (sift key bs (wanted.erase (key b))).1, (sift key bs (wanted.erase (key b))).2)
    else sift key bs wanted

section Sift
variable {key : BookmarkId → Finding} {bs : List BookmarkId} {wanted : List Finding}
variable {b : BookmarkId} {f : Finding}

theorem sift_congr {other : BookmarkId → Finding} (h : ∀ b ∈ bs, other b = key b) :
    sift other bs wanted = sift key bs wanted := by
  induction bs generalizing wanted with
  | nil => rfl
  | cons b bs ih =>
    have hrest : ∀ c ∈ bs, other c = key c := fun c hc => h c (List.mem_cons_of_mem b hc)
    simp only [sift, h b List.mem_cons_self, ih hrest]

theorem mem_sift (hn : wanted.Nodup) : b ∈ (sift key bs wanted).1 ↔
    key b ∈ wanted ∧ bs.find? (fun c => key c = key b) = some b := by
  induction bs generalizing wanted with
  | nil => simp [sift]
  | cons c bs ih =>
    rw [sift, List.find?_cons]
    by_cases hc : key c ∈ wanted
    · rw [if_pos hc, List.mem_cons, ih (hn.erase _), hn.mem_erase_iff]
      by_cases hkey : key c = key b
      · have : b = c ↔ c = b := eq_comm
        simp [hkey.symm, hc, this]
      · have hne : b ≠ c := fun heq => hkey (congrArg key heq.symm)
        simp [hkey, Ne.symm hkey, hne]
    · rw [if_neg hc, ih hn]
      by_cases hkey : key c = key b
      · simp [hkey.symm, hc]
      · simp [hkey]

/-- Which are kept hangs only on which of their findings are wanted. -/
theorem kept_sift_congr {other : List Finding} (hn : wanted.Nodup) (hn' : other.Nodup)
    (h : ∀ b ∈ bs, key b ∈ wanted ↔ key b ∈ other) :
    (sift key bs wanted).1 = (sift key bs other).1 := by
  induction bs generalizing wanted other with
  | nil => rfl
  | cons b bs ih =>
    have hrest : ∀ c ∈ bs, key c ∈ wanted ↔ key c ∈ other :=
      fun c hc => h c (List.mem_cons_of_mem b hc)
    rw [sift, sift]
    by_cases hb : key b ∈ wanted
    · rw [if_pos hb, if_pos ((h b List.mem_cons_self).mp hb)]
      refine congrArg (b :: ·) (ih (hn.erase _) (hn'.erase _) fun c hc => ?_)
      rw [hn.mem_erase_iff, hn'.mem_erase_iff, hrest c hc]
    · rw [if_neg hb, if_neg (mt (h b List.mem_cons_self).mpr hb)]
      exact ih hn hn' hrest

/-- What is left over are the findings that nobody stands for, in their order. -/
theorem left_sift (hn : wanted.Nodup) :
    (sift key bs wanted).2 = wanted.filter fun f => ∀ b ∈ bs, key b ≠ f := by
  induction bs generalizing wanted with
  | nil => simp [sift]
  | cons c bs ih =>
    rw [sift]
    split
    · rw [ih (hn.erase _), hn.erase_eq_filter, List.filter_filter]
      refine List.filter_congr fun f _ => ?_
      rw [Bool.eq_iff_iff, Bool.and_eq_true, decide_eq_true_eq, decide_eq_true_eq, bne_iff_ne,
        List.forall_mem_cons, ne_comm (a := f)]
      exact and_comm
    · rename_i hc
      rw [ih hn]
      refine List.filter_congr fun f hf => ?_
      have hne : key c ≠ f := fun heq => hc (heq ▸ hf)
      simp [hne]

theorem mem_left_sift (hn : wanted.Nodup) : f ∈ (sift key bs wanted).2 ↔
    f ∈ wanted ∧ ∀ b ∈ bs, key b ≠ f := by
  rw [left_sift hn, List.mem_filter, decide_eq_true_eq]

theorem nodup_left_sift (hn : wanted.Nodup) : (sift key bs wanted).2.Nodup := by
  rw [left_sift hn]
  exact hn.filter _

end Sift

namespace Margin
variable {κ ω : Type}

theorem Spares.findingOf {K : BookmarkId → Prop} [DecidablePred K] {s t : Margin κ ω}
    {b : BookmarkId} (h : Spares K s t) (hb : b < s.bookmarks.size)
    (hmade : ∀ i, (s.bookmark b).anchor = .span i → i < s.tracker.spans.size) :
    t.findingOf b = s.findingOf b := by
  have hspan : t.span? b = s.span? b := by
    unfold span?
    rw [h.anchor hb]
    cases ha : (s.bookmark b).anchor with
    | line i => rfl
    | span i => exact congrArg some (h.span i (hmade i ha))
  rw [Margin.findingOf, Margin.findingOf, hspan, h.message hb]

/-- The bookmark is left as it is when of `bs` just those in `kept` are kept and shown. -/
def Untouched (bs kept : List BookmarkId) (s : Margin κ ω) (b : BookmarkId) : Prop :=
  b < s.bookmarks.size ∧ (b ∈ bs → b ∈ kept ∧ (s.bookmark b).marker ≠ none)

instance (bs kept : List BookmarkId) (s : Margin κ ω) : DecidablePred (Untouched bs kept s) := by
  intro b
  unfold Untouched
  infer_instance

/-- Of the parse errors `bs` of `s` those in `kept` are left in `t`, and each is shown; one that was
shown before is so in the same way. The markers of the others are gone. -/
structure Sifted (bs kept : List BookmarkId) (s t : Margin κ ω) : Prop where
  known : ∀ b ∈ bs, b < s.bookmarks.size
  within : ∀ b ∈ kept, b ∈ bs
  spares : Spares (Untouched bs kept s) s t
  stored : t.stored = s.stored.filter fun b => b ∈ bs → b ∈ kept
  shown : ∀ b ∈ kept, (t.bookmark b).marker ≠ none
  gone : ∀ b ∈ bs, b ∉ kept → ∀ m, (s.bookmark b).marker = some m →
    m < t.markers.size ∧ m ∉ t.live

namespace Sifted
variable {bs cs kept more : List BookmarkId} {s t u : Margin κ ω}

theorem nil (s : Margin κ ω) : Sifted [] [] s s where
  known b hb := by cases hb
  within b hb := hb
  spares := .refl _ s
  stored := by simp
  shown b hb := by cases hb
  gone b hb := by cases hb

/-- Of two lists without a common member each is kept by itself. -/
theorem kept_append_iff (hkept : ∀ b ∈ kept, b ∈ bs) (hmore : ∀ b ∈ more, b ∈ cs)
    (hapart : ∀ b ∈ bs, b ∉ cs) (b : BookmarkId) :
    (b ∈ bs ++ cs → b ∈ kept ++ more) ↔ (b ∈ bs → b ∈ kept) ∧ (b ∈ cs → b ∈ more) := by
  simp only [List.mem_append]
  constructor
  · intro hkeep
    constructor
    · intro hb
      rcases hkeep (.inl hb) with hmem | hmem
      · exact hmem
      · exact absurd (hmore b hmem) (hapart b hb)
    · intro hc
      rcases hkeep (.inr hc) with hmem | hmem
      · exact absurd hc (hapart b (hkept b hmem))
      · exact hmem
  · rintro ⟨hb, hc⟩ (hmem | hmem)
    · exact .inl (hb hmem)
    · exact .inr (hc hmem)

theorem append (h : Sifted bs kept s u) (hu : Sifted cs more u t) (hapart : ∀ b ∈ bs, b ∉ cs)
    (hcs : ∀ c ∈ cs, c < s.bookmarks.size) : Sifted (bs ++ cs) (kept ++ more) s t := by
  -- what comes later is, after the first part, what it was
  have hlater : ∀ c ∈ cs, u.bookmark c = s.bookmark c := by
    intro c hc
    exact h.spares.bookmark c ⟨hcs c hc, fun hb => absurd hc (hapart c hb)⟩
  -- and what the first part kept stays as it then was
  have hearlier : ∀ b ∈ bs, t.bookmark b = u.bookmark b := by
    intro b hb
    refine hu.spares.bookmark b ⟨?_, fun hc => absurd hc (hapart b hb)⟩
    exact Nat.lt_of_lt_of_le (h.known b hb) h.spares.bookmarkBound
  have hboth := kept_append_iff h.within hu.within hapart
  refine ⟨?_, ?_, ?_, ?_, ?_, ?_⟩
  · intro b hb
    rcases List.mem_append.mp hb with hb | hb
    · exact h.known b hb
    · exact hcs b hb
  · intro b hb
    rcases List.mem_append.mp hb with hb | hb
    · exact List.mem_append_left _ (h.within b hb)
    · exact List.mem_append_right _ (hu.within b hb)
  · refine (h.spares.narrow ?_).trans (hu.spares.narrow ?_)
    · rintro b ⟨hb, hkeep⟩
      have hfirst := ((hboth b).mp fun hmem => (hkeep hmem).1).1
      exact ⟨hb, fun hbs => ⟨hfirst hbs, (hkeep (List.mem_append_left _ hbs)).2⟩⟩
    · rintro b ⟨hb, hkeep⟩
      have hsecond := ((hboth b).mp fun hmem => (hkeep hmem).1).2
      refine ⟨Nat.lt_of_lt_of_le hb h.spares.bookmarkBound, fun hc => ⟨hsecond hc, ?_⟩⟩
      rw [hlater b hc]
      exact (hkeep (List.mem_append_right _ hc)).2
  · rw [hu.stored, h.stored, List.filter_filter]
    apply List.filter_congr
    intro b _
    rw [← Bool.decide_and, decide_eq_decide, hboth b]
    exact and_comm
  · intro b hb
    rcases List.mem_append.mp hb with hb | hb
    · rw [hearlier b (h.within b hb)]
      exact h.shown b hb
    · exact hu.shown b hb
  · intro b hb hout m hm
    rw [List.mem_append, not_or] at hout
    rcases List.mem_append.mp hb with hb | hb
    · obtain ⟨hmade, hdead⟩ := h.gone b hb hout.1 m hm
      refine ⟨Nat.lt_of_lt_of_le hmade hu.spares.markerBound, ?_⟩
      exact fun hl => hdead (hu.spares.dead m hmade hl)
    · exact hu.gone b hb hout.2 m (hlater b hb ▸ hm)

end Sifted

section Operations
variable [DecidableEq κ] {h : Reaction κ ω} {τ : Prop} {s : Margin κ ω} {b : BookmarkId}

omit [DecidableEq κ] in
/-- A parse error that is shown is left as it is. -/
theorem sifted_skip (hb : b < s.bookmarks.size) (hm : (s.bookmark b).marker ≠ none) :
    Sifted [b] [b] s s where
  known c hc := List.mem_singleton.mp hc ▸ hb
  within c hc := hc
  spares := .refl _ s
  stored := by simp
  shown c hc := List.mem_singleton.mp hc ▸ hm
  gone c hc hout := absurd hc hout

theorem sifted_mark (ha : Aloof h) (hw : Woven τ [] none s) (hb : b ∈ s.stored) {i : SpanId}
    (hanchor : (s.bookmark b).anchor = .span i) (hm : (s.bookmark b).marker = none) :
    (markParseError h s b).2 = .ok () ∧ Sifted [b] [b] s (markParseError h s b).1 := by
  have hi : i ∈ s.tracker.trackedSpans := hw.tracks hb hanchor
  have hnot : ¬ Untouched [b] [b] s b := by
    rintro ⟨_, hkeep⟩
    exact (hkeep (List.mem_singleton_self b)).2 hm
  obtain ⟨hspares, hok, hstored, hmarker⟩ := markParseError_spares ha hnot hanchor hi (.refl _ s)
  refine ⟨hok, ?_⟩
  exact {
    known := fun c hc => List.mem_singleton.mp hc ▸ hw.known b hb
    within := fun c hc => hc
    spares := hspares
    stored := by simpa using hstored
    shown := by
      intro c hc
      rw [List.mem_singleton.mp hc, hmarker]
      exact Option.some_ne_none _
    gone := fun c hc hout => absurd hc hout }

theorem sifted_drop (ha : Aloof h) (hw : Woven τ [] none s) (hb : b ∈ s.stored) {i : SpanId}
    (hanchor : (s.bookmark b).anchor = .span i) :
    Sifted [b] [] s (notifyChanged h (discard h s b) b true) := by
  have hnot : ¬ Untouched [b] [] s b := by
    rintro ⟨_, hkeep⟩
    exact List.not_mem_nil (hkeep (List.mem_singleton_self b)).1
  have hsame := notifyChanged_alike ha (discard h s b) b true
  have hspares := notifyChanged_spares ha b true (discard_spares ha hnot hanchor hw (.refl _ s))
  refine ⟨?_, ?_, hspares, ?_, ?_, ?_⟩
  · exact fun c hc => List.mem_singleton.mp hc ▸ hw.known b hb
  · intro c hc
    cases hc
  · rw [hsame.stored, stored_discard ha]
    simp
  · intro c hc
    cases hc
  · intro c hc _ m hm
    obtain rfl := List.mem_singleton.mp hc
    refine ⟨Nat.lt_of_lt_of_le (hw.liveMade m (hw.shows hm)).1 hspares.markerBound, ?_⟩
    rw [hsame.live]
    exact live_discard ha hm

/-- The first pass over the parse errors does not fail, and comes to a sift of them. -/
theorem keepParseErrors_sifted (ha : Aloof h) {bs : List BookmarkId} (hn : bs.Nodup)
    (hbs : ∀ b ∈ bs, b ∈ s.stored ∧ (s.bookmark b).kind = .parseError) (wanted : List Finding)
    (flag : Bool) (hw : Woven τ [] none s) :
    ∃ t changed, keepParseErrors h bs wanted flag s =
        (t, .ok ((sift s.findingOf bs wanted).2, changed)) ∧
      Woven τ [] none t ∧ Sifted bs (sift s.findingOf bs wanted).1 s t := by
  induction bs generalizing s wanted flag with
  | nil => exact ⟨s, flag, rfl, hw, .nil s⟩
  | cons b bs ih =>
    obtain ⟨hnew, hn⟩ := List.nodup_cons.mp hn
    obtain ⟨hb, hkind⟩ := hbs b List.mem_cons_self
    have hknown := hw.known b hb
    obtain ⟨i, hanchor⟩ := hw.kinds b hknown hkind
    -- once the first bookmark is dealt with, the others are still as they were
    have hrest : ∀ (u : Margin κ ω) (keep : List BookmarkId) (wanted : List Finding) (flag : Bool),
        Woven τ [] none u → Sifted [b] keep s u →
        ∃ t changed, keepParseErrors h bs wanted flag u =
            (t, .ok ((sift s.findingOf bs wanted).2, changed)) ∧
          Woven τ [] none t ∧ Sifted (b :: bs) (keep ++ (sift s.findingOf bs wanted).1) s t := by
      intro u keep wanted flag hu hsifted
      have hothers : ∀ c ∈ bs, c ∈ s.stored ∧ c < s.bookmarks.size ∧ c ≠ b := by
        intro c hc
        obtain ⟨hcs, _⟩ := hbs c (List.mem_cons_of_mem b hc)
        exact ⟨hcs, hw.known c hcs, fun heq => hnew (heq ▸ hc)⟩
      have hkey : ∀ c ∈ bs, u.findingOf c = s.findingOf c := by
        intro c hc
        obtain ⟨_, hlt, _⟩ := hothers c hc
        exact hsifted.spares.findingOf hlt fun j hj => (hw.made c hlt j hj).1
      have hstill : ∀ c ∈ bs, c ∈ u.stored ∧ (u.bookmark c).kind = .parseError := by
        intro c hc
        obtain ⟨hcs, hlt, hne⟩ := hothers c hc
        constructor
        · rw [hsifted.stored]
          simp [hcs, hne]
        · rw [hsifted.spares.kind hlt]
          exact (hbs c (List.mem_cons_of_mem b hc)).2
      obtain ⟨t, changed, hrun, ht, hlater⟩ := ih hn hstill wanted flag hu
      rw [sift_congr hkey] at hrun hlater
      refine ⟨t, changed, hrun, ht, ?_⟩
      refine hsifted.append hlater ?_ fun c hc => (hothers c hc).2.1
      intro c hc
      rw [List.mem_singleton.mp hc]
      exact hnew
    rw [keepParseErrors, sift]
    by_cases hwanted : s.findingOf b ∈ wanted
    · rw [if_pos hwanted, if_pos hwanted]
      by_cases hm : (s.bookmark b).marker = none
      · obtain ⟨hok, hsifted⟩ := sifted_mark ha hw hb hanchor hm
        have hmarked := (markParseError_woven ha.tactful hb hm
          (staysShown_of_woven ha (hw.known b hb) hw) hw).1
        have hcall : markParseError h s b = ((markParseError h s b).1, .ok ()) :=
          Prod.ext rfl hok
        simp only [if_pos hm]
        rw [hcall]
        exact hrest _ _ _ _ hmarked hsifted
      · simp only [if_neg hm]
        exact hrest _ _ _ _ hw (sifted_skip hknown hm)
    · rw [if_neg hwanted, if_neg hwanted]
      have hdropped : Woven τ [] none (notifyChanged h (discard h s b) b true) :=
        (ha.tactful.changed b true (ha.tactful.discard hknown hw).1).1
      exact hrest _ _ _ _ hdropped (sifted_drop ha hw hb hanchor)

/-- The margin `t` has, after the bookmarks of `s`, one new parse error for each finding. -/
structure Reported (fs : List Finding) (new : List BookmarkId) (s t : Margin κ ω) : Prop where
  spares : Spares (· < s.bookmarks.size) s t
  stored : t.stored = s.stored ++ new
  found : new.map t.findingOf = fs
  fresh : ∀ b ∈ new, s.bookmarks.size ≤ b
  kind : ∀ b ∈ new, (t.bookmark b).kind = .parseError
  shown : ∀ b ∈ new, (t.bookmark b).marker ≠ none

omit [DecidableEq κ] in
theorem Reported.append {fs gs : List Finding} {new more : List BookmarkId} {s t u : Margin κ ω}
    (h : Reported fs new s u) (hw : Woven τ [] none u) (hu : Reported gs more u t) :
    Reported (fs ++ gs) (new ++ more) s t := by
  have hknown : ∀ b ∈ new, b < u.bookmarks.size := by
    intro b hb
    apply hw.known
    rw [h.stored]
    exact List.mem_append_right _ hb
  refine ⟨?_, ?_, ?_, ?_, ?_, ?_⟩
  · exact h.spares.trans (hu.spares.narrow fun b hb => Nat.lt_of_lt_of_le hb h.spares.bookmarkBound)
  · rw [hu.stored, h.stored, List.append_assoc]
  · rw [List.map_append, hu.found, ← h.found]
    congr 1
    apply List.map_congr_left
    intro b hb
    exact hu.spares.findingOf (hknown b hb) fun i hi => (hw.made b (hknown b hb) i hi).1
  · intro b hb
    rcases List.mem_append.mp hb with hb | hb
    · exact h.fresh b hb
    · exact Nat.le_trans h.spares.bookmarkBound (hu.fresh b hb)
  · intro b hb
    rcases List.mem_append.mp hb with hb | hb
    · rw [hu.spares.kind (hknown b hb)]
      exact h.kind b hb
    · exact hu.kind b hb
  · intro b hb
    rcases List.mem_append.mp hb with hb | hb
    · rw [hu.spares.bookmark b (hknown b hb)]
      exact h.shown b hb
    · exact hu.shown b hb

theorem Aloof.heeds_reported (ha : Aloof h) (s : Margin κ ω) : Heeds h (Reported [] [] s) := by
  refine heeds_of_aloof ha ?_
  intro t u hstep ht
  refine ⟨ht.spares.aside hstep, ?_, rfl, ht.fresh, ?_, ?_⟩
  · rw [(Alike.aside hstep).stored, ht.stored]
  all_goals
    intro b hb
    cases hb

omit [DecidableEq κ] in
theorem Reported.silence (s : Margin κ ω) : Reported [] [] s s := by
  refine ⟨.refl _ s, (List.append_nil _).symm, rfl, ?_, ?_, ?_⟩
  all_goals
    intro b hb
    cases hb

omit [DecidableEq κ] in
theorem reported_log (s t : Margin κ ω) (e : Entry) (ht : Reported [] [] s t) :
    Reported [] [] s (t.log e) := by
  refine ⟨ht.spares.log e, ht.stored, rfl, ht.fresh, ?_, ?_⟩
  all_goals
    intro b hb
    cases hb

theorem reported_one (ha : Aloof h) {f : Finding} (hf : f.span.Valid) (hw : Woven τ [] none s) :
    ∃ t, markParseError h (s.reported f) s.bookmarks.size = (t, .ok ()) ∧ Woven τ [] none t ∧
      Reported [f] [s.bookmarks.size] s t := by
  have hbookmark := s.bookmark_reported f
  have hanchor := congrArg Bookmark.anchor hbookmark
  have hspan := s.span_reported f
  obtain ⟨u, hu⟩ := Tracker.track_of_valid (hspan ▸ hf)
  obtain ⟨hlines, htracked⟩ := lines_of_track_span hu
  have hspans := Tracker.spans_of_track hu
  have hadded : Spares (· < s.bookmarks.size) s (s.reported f) :=
    (Spares.refl _ s).reported (fun _ => id) f
  have hrun : markParseError h (s.reported f) s.bookmarks.size =
      ((markParseError h (s.reported f) s.bookmarks.size).1, .ok ()) :=
    Prod.ext rfl (markParseError_reported h s hf)
  refine ⟨_, hrun, reported_woven ha.tactful hf (staysShown_reported ha s hf) hw, ?_⟩
  rw [markParseError_of_track h hanchor hu]
  -- from here on the span is tracked, as that of any stored parse error is
  have hfollowed : Spares (· < s.bookmarks.size) (s.reported f)
      { s.reported f with tracker := u } :=
    (Spares.refl _ _).edit hlines htracked (Nat.le_of_eq (congrArg Registry.size hspans.symm))
      fun i _ => congrArg (fun r : Registry Span => r.get i) hspans
  obtain ⟨hspares, _, hstored, hmarker⟩ := markParseError_spares (K := (· < s.bookmarks.size)) ha
    (Nat.lt_irrefl _) (t := { s.reported f with tracker := u }) hanchor
    (Tracker.isTracked_of_track hu) hfollowed
  have hlt : s.bookmarks.size < (s.reported f).bookmarks.size := by
    change s.bookmarks.size < (s.bookmarks.push _).1.size
    rw [Registry.size_push]
    exact Nat.lt_succ_self _
  have hmade : ∀ i, ((s.reported f).bookmark s.bookmarks.size).anchor = .span i →
      i < (s.reported f).tracker.spans.size := by
    intro i hi
    obtain rfl := Anchor.span.inj (hanchor.symm.trans hi)
    change s.tracker.spans.size < (s.tracker.spans.push _).1.size
    rw [Registry.size_push]
    exact Nat.lt_succ_self _
  have hfinding : (s.reported f).findingOf s.bookmarks.size = f := by
    simp [findingOf, span?, hbookmark, Anchor.span?, hspan]
  refine ⟨hadded.trans (hspares.narrow fun _ => id), hstored, ?_, ?_, ?_, ?_⟩
  · rw [List.map_singleton, hspares.findingOf hlt hmade, hfinding]
  · exact fun b hb => Nat.le_of_eq (List.mem_singleton.mp hb).symm
  · intro b hb
    rw [List.mem_singleton.mp hb, hspares.kind hlt, hbookmark]
  · intro b hb
    rw [List.mem_singleton.mp hb, hmarker]
    exact Option.some_ne_none _

theorem addParseErrors_reported (ha : Aloof h) {fs : List Finding} (hfs : ∀ f ∈ fs, f.span.Valid)
    (hw : Woven τ [] none s) :
    ∃ t new, addParseErrors h fs s = (t, .ok ()) ∧ Woven τ [] none t ∧ Reported fs new s t := by
  induction fs generalizing s with
  | nil =>
    exact ⟨s, [], rfl, hw, .silence s⟩
  | cons f fs ih =>
    obtain ⟨u, hrun, hu, hone⟩ := reported_one ha (hfs f List.mem_cons_self) hw
    have htold : Woven τ [] none (notifyChanged h u s.bookmarks.size false) :=
      (ha.tactful.changed _ false hu).1
    obtain ⟨t, new, hlater, ht, hrest⟩ :=
      ih (fun g hg => hfs g (List.mem_cons_of_mem f hg)) htold
    have hquiet : Reported [] [] u (notifyChanged h u s.bookmarks.size false) :=
      notifyChanged_keeps (ha.heeds_reported u) (reported_log u) _ false (.silence u)
    refine ⟨t, s.bookmarks.size :: new, ?_, ht, ?_⟩
    · rw [addParseErrors_cons, hrun]
      exact hlater
    · exact hone.append hu (hquiet.append htold hrest)

end Operations

end Margin

end Scriptorium
