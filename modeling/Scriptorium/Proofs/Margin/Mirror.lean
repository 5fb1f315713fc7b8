import Mathlib.Data.Finset.Basic
import Scriptorium.Proofs.Margin.Recorder

/-!
Whoever hears of every bookmark that comes and goes knows which are stored. From the record of
what it heard, a listener makes up a set: a bookmark that came is put in, one that went is taken
out. After every command this set is what is stored, and each single departure is told of once.

While a command is under way the two differ, by the bookmarks that have left and that nobody was
told of yet. `Mirrors` carries these, beside the margin in which the command began.
-/

namespace Scriptorium
set_option autoImplicit false

namespace Margin
variable {κ ω : Type}

/-- What a listener makes of its set when it hears the notice. -/
def reflect (set : Finset BookmarkId) (x : Sighting) : Finset BookmarkId :=
  match x.notice with
  | .changed b false => insert b set
  | .changed b true => set.erase b
  | _ => set

def mirror (l : List Sighting) : Finset BookmarkId := l.foldl reflect ∅

/-- A notice that a bookmark went reaches those who had it in their set, and finds it gone; a
notice that it came or moved finds it there. -/
def Honest (set : Finset BookmarkId) (x : Sighting) : Prop :=
  ∀ b, (x.notice = .changed b true → b ∈ set ∧ b ∉ x.stored) ∧
    (x.notice = .changed b false → b ∈ x.stored)

/-- Every notice was honest when it was sent. -/
def Truthful (l : List Sighting) : Prop :=
  ∀ past x later, l = past ++ x :: later → Honest (mirror past) x

def departures (b : BookmarkId) (l : List Sighting) : Nat :=
  l.countP fun x => x.notice = .changed b true

section Record
variable {l : List Sighting} {x : Sighting}

theorem mirror_concat (l : List Sighting) (x : Sighting) :
    mirror (l ++ [x]) = reflect (mirror l) x := by
  simp [mirror]

theorem departures_concat (b : BookmarkId) (l : List Sighting) (x : Sighting) :
    departures b (l ++ [x]) = departures b l + if x.notice = .changed b true then 1 else 0 := by
  simp [departures, List.countP_singleton]

theorem truthful_nil : Truthful [] := by
  intro past x later hl
  simp at hl

theorem Truthful.concat (hl : Truthful l) (hx : Honest (mirror l) x) : Truthful (l ++ [x]) := by
  intro past y later heq
  rcases List.eq_nil_or_concat later with rfl | ⟨later, z, rfl⟩
  · obtain ⟨rfl, hxy⟩ := List.append_inj' heq rfl
    cases hxy
    exact hx
  · refine hl past y later ?_
    have hassoc : past ++ y :: (later ++ [z]) = (past ++ y :: later) ++ [z] := by simp
    rw [List.concat_eq_append, hassoc] at heq
    exact (List.append_inj' heq rfl).1

/-- Notices of other kinds change nothing of all this. -/
theorem append_quiet {q : List Sighting} (hq : ∀ x ∈ q, ∀ b removed, x.notice ≠ .changed b removed)
    (hl : Truthful l) :
    mirror (l ++ q) = mirror l ∧ Truthful (l ++ q) ∧
      ∀ b, departures b (l ++ q) = departures b l := by
  induction q generalizing l with
  | nil => simpa using hl
  | cons x q ih =>
    have hx := hq x List.mem_cons_self
    have hsame : mirror (l ++ [x]) = mirror l := by
      rw [mirror_concat]
      unfold reflect
      split
      · rename_i b heq
        exact absurd heq (hx b false)
      · rename_i b heq
        exact absurd heq (hx b true)
      · rfl
    have hhonest : Honest (mirror l) x := fun b =>
      ⟨fun heq => absurd heq (hx b true), fun heq => absurd heq (hx b false)⟩
    have hcount : ∀ b, departures b (l ++ [x]) = departures b l := by
      intro b
      simp [departures_concat, hx b true]
    obtain ⟨hm, ht, hd⟩ := ih (fun y hy => hq y (List.mem_cons_of_mem x hy)) (hl.concat hhonest)
    rw [List.append_assoc] at hm ht
    refine ⟨hm.trans hsame, ht, ?_⟩
    intro b
    have := hd b
    rw [List.append_assoc] at this
    exact this.trans (hcount b)

end Record

/-- In `t`, on the way of a command that began in `s`, the listener's set is what is stored but
for `out`: these have left and nobody was told yet. -/
structure Mirrors [DecidableEq κ] (k : κ) (heard : ω → List Sighting) (s : Margin κ ω)
    (out : List BookmarkId) (t : Margin κ ω) : Prop where
  attends : t.changed.listeners.count k = 1
  nodup : t.stored.Nodup
  known : ∀ b ∈ t.stored, b < t.bookmarks.size
  former : ∀ b ∈ s.stored, b < t.bookmarks.size
  outNodup : out.Nodup
  gone : ∀ b ∈ out, b ∈ s.stored ∧ b ∉ t.stored
  shows : ∀ b, b ∈ mirror (heard t.shared) ↔ b ∈ t.stored ∨ b ∈ out
  truthful : Truthful (heard t.shared)
  departed : ∀ b, departures b (heard t.shared) = departures b (heard s.shared) +
    if b ∈ s.stored ∧ b ∉ t.stored ∧ b ∉ out then 1 else 0

variable [DecidableEq κ] {k : κ} {heard : ω → List Sighting}

namespace Mirrors
variable {s t u : Margin κ ω} {out : List BookmarkId} {b : BookmarkId}

theorem hushed (ht : Mirrors k heard s out t) (hu : Hushed k heard t u) :
    Mirrors k heard s out u := by
  obtain ⟨q, hq, hquiet⟩ := hu.heard
  obtain ⟨hm, htr, hd⟩ := append_quiet hquiet ht.truthful
  exact {
    attends := hu.attends.trans ht.attends
    nodup := hu.stored ▸ ht.nodup
    known := fun b hb => Nat.lt_of_lt_of_le (ht.known b (hu.stored ▸ hb)) hu.grows
    former := fun b hb => Nat.lt_of_lt_of_le (ht.former b hb) hu.grows
    outNodup := ht.outNodup
    gone := fun b hb => by rw [hu.stored]; exact ht.gone b hb
    shows := fun b => by rw [hq, hm, hu.stored]; exact ht.shows b
    truthful := by rw [hq]; exact htr
    departed := fun b => by rw [hq, hd, hu.stored]; exact ht.departed b }

theorem leave (ht : Mirrors k heard s [] t) {bs : List BookmarkId} (hn : bs.Nodup)
    (hbs : ∀ b ∈ bs, b ∈ t.stored ∧ b ∈ s.stored) :
    Mirrors k heard s bs { t with stored := t.stored.filter (· ∉ bs) } where
  attends := ht.attends
  nodup := ht.nodup.filter _
  known b hb := ht.known b (List.mem_filter.mp hb).1
  former := ht.former
  outNodup := hn
  gone b hb := ⟨(hbs b hb).2, by simp [hb]⟩
  shows b := by
    rw [ht.shows b]
    by_cases hb : b ∈ bs
    · simp [hb, (hbs b hb).1]
    · simp [hb]
  truthful := ht.truthful
  departed b := by
    rw [ht.departed b]
    by_cases hb : b ∈ bs
    · simp [hb, (hbs b hb).1]
    · simp [hb]

variable {h : Reaction κ ω} (hrec : Records h k heard)
include hrec

/-- The recorder is subscribed once, so that it hears once. -/
theorem heard_changed (ht : Mirrors k heard s out t) (b : BookmarkId) (removed : Bool) :
    heard (notifyChanged h t b removed).shared =
      heard t.shared ++ [⟨.changed b removed, t.stored⟩] := by
  obtain ⟨_, _, _, hheard⟩ := hrec.changed t b removed
  rw [hheard, ht.attends]
  rfl

theorem told (ht : Mirrors k heard s (b :: out) t) :
    Mirrors k heard s out (notifyChanged h t b true) := by
  obtain ⟨hst, hbk, hatt, _⟩ := hrec.changed t b true
  have hheard := ht.heard_changed hrec b true
  obtain ⟨hbout, hout⟩ := List.nodup_cons.mp ht.outNodup
  obtain ⟨hbs, hbt⟩ := ht.gone b List.mem_cons_self
  refine ⟨hatt.trans ht.attends, hst ▸ ht.nodup, ?_, ?_, hout, ?_, ?_, ?_, ?_⟩
  · rw [hst, hbk]
    exact ht.known
  · rw [hbk]
    exact ht.former
  · intro c hc
    rw [hst]
    exact ht.gone c (List.mem_cons_of_mem b hc)
  · intro c
    have hc := ht.shows c
    rw [hheard, mirror_concat, hst]
    simp only [reflect, Finset.mem_erase, hc, List.mem_cons]
    constructor
    · rintro ⟨hne, hct | rfl | hco⟩
      · exact .inl hct
      · exact absurd rfl hne
      · exact .inr hco
    · rintro (hct | hco)
      · exact ⟨fun hcb => hbt (hcb ▸ hct), .inl hct⟩
      · exact ⟨fun hcb => hbout (hcb ▸ hco), .inr (.inr hco)⟩
  · rw [hheard]
    refine ht.truthful.concat fun c => ⟨?_, ?_⟩
    · intro heq
      cases heq
      exact ⟨(ht.shows b).mpr (.inr List.mem_cons_self), hbt⟩
    · intro heq
      cases heq
  · intro c
    rw [hheard, departures_concat, hst, ht.departed c]
    by_cases hcb : c = b
    · subst hcb
      simp [hbs, hbt, hbout]
    · simp [hcb, Ne.symm hcb]

theorem moved (ht : Mirrors k heard s [] t) (hb : b ∈ t.stored) :
    Mirrors k heard s [] (notifyChanged h t b false) := by
  obtain ⟨hst, hbk, hatt, _⟩ := hrec.changed t b false
  have hheard := ht.heard_changed hrec b false
  refine ⟨hatt.trans ht.attends, hst ▸ ht.nodup, ?_, ?_, ht.outNodup, ?_, ?_, ?_, ?_⟩
  · rw [hst, hbk]
    exact ht.known
  · rw [hbk]
    exact ht.former
  · intro c hc
    cases hc
  · intro c
    have hc := ht.shows c
    rw [hheard, mirror_concat, hst]
    simp only [reflect, Finset.mem_insert, hc]
    constructor
    · rintro (rfl | hct)
      · exact .inl hb
      · exact hct
    · exact .inr
  · rw [hheard]
    refine ht.truthful.concat fun c => ⟨?_, ?_⟩
    · intro heq
      cases heq
    · intro heq
      cases heq
      exact hb
  · intro c
    rw [hheard, departures_concat, hst, ht.departed c]
    simp

/-- A bookmark that was not there before the command is stored and then told of. -/
theorem come (ht : Mirrors k heard s [] t) (hnew : b ∉ t.stored) (hfirst : b ∉ s.stored)
    (hu : Hushed k heard { t with stored := t.stored ++ [b] } u) (hb : b < u.bookmarks.size) :
    Mirrors k heard s [] (notifyChanged h u b false) := by
  obtain ⟨q, hq, hquiet⟩ := hu.heard
  obtain ⟨hm, htr, hd⟩ := append_quiet hquiet ht.truthful
  have hatt : u.changed.listeners.count k = 1 := hu.attends.trans ht.attends
  obtain ⟨hst, hbk, hatt', hheard⟩ := hrec.changed u b false
  rw [hatt, List.replicate_one, hq] at hheard
  have hstored : (notifyChanged h u b false).stored = t.stored ++ [b] := hst.trans hu.stored
  have hgrows : t.bookmarks.size ≤ (notifyChanged h u b false).bookmarks.size := by
    rw [hbk]
    exact hu.grows
  refine ⟨hatt'.trans hatt, ?_, ?_, ?_, ht.outNodup, ?_, ?_, ?_, ?_⟩
  · rw [hstored]
    simpa using ht.nodup.concat hnew
  · intro c hc
    rw [hstored] at hc
    rcases List.mem_append.mp hc with hc | hc
    · exact Nat.lt_of_lt_of_le (ht.known c hc) hgrows
    · obtain rfl := List.mem_singleton.mp hc
      rwa [hbk]
  · intro c hc
    exact Nat.lt_of_lt_of_le (ht.former c hc) hgrows
  · intro c hc
    cases hc
  · intro c
    have hc := ht.shows c
    rw [hheard, mirror_concat, hm, hstored]
    simp only [reflect, Finset.mem_insert, hc, List.mem_append, List.mem_singleton]
    tauto
  · rw [hheard]
    refine htr.concat fun c => ⟨?_, ?_⟩
    · intro heq
      cases heq
    · intro heq
      cases heq
      exact hu.stored ▸ List.mem_append_right _ (List.mem_singleton_self b)
  · intro c
    rw [hheard, departures_concat, hd, hstored, ht.departed c]
    by_cases hcb : c = b
    · subst hcb
      simp [hfirst]
    · simp [hcb]

theorem redraw (ht : Mirrors k heard s [] t) : Mirrors k heard s [] (notifyRedraw h t) :=
  ht.hushed (hushed_notifyRedraw hrec t)

theorem discarded (ht : Mirrors k heard s [] t) (hbt : b ∈ t.stored) (hbs : b ∈ s.stored) :
    Mirrors k heard s [b] (discard h t b) := by
  have hleave := ht.leave (List.nodup_singleton b) (by simp [hbt, hbs])
  have hfilter : t.stored.filter (· ∉ [b]) = t.stored.filter (· ≠ b) := by simp
  rw [hfilter] at hleave
  exact hleave.hushed (hushed_discard hrec t b)

theorem add (ht : Mirrors k heard s [] t) (hb : b < t.bookmarks.size)
    (hfirst : b ∉ t.stored → b ∉ s.stored) : Mirrors k heard s [] (add h t b).1 := by
  rcases add_cases h t b with he | ⟨e, he⟩ | ⟨u, hnew, _, _, he⟩
  · rwa [he]
  · rw [he]
    exact ht.hushed (.log t e)
  · rw [he]
    have htaken : Hushed k heard { t with stored := t.stored ++ [b] } (t.taken b u) := by
      unfold taken
      dsimp only
      split
      · exact (Hushed.tracker _ u).trans (.watch _ b _)
      · exact .tracker _ u
    have hhush := htaken.trans (hushed_notifyRedraw hrec _)
    exact ht.come hrec hnew (hfirst hnew) hhush (Nat.lt_of_lt_of_le hb hhush.grows)

theorem remove (ht : Mirrors k heard s [] t) (hbs : b ∈ s.stored) :
    Mirrors k heard s [] (remove h t b).1 := by
  unfold Margin.remove
  split
  · rename_i hbt
    have hgone := ht.discarded hrec hbt hbs
    exact (hgone.hushed (hushed_notifyRedraw hrec _)).told hrec
  · exact ht

theorem discardEach (ht : Mirrors k heard s [] t) {bs : List BookmarkId} (hn : bs.Nodup)
    (hbt : ∀ b ∈ bs, b ∈ t.stored) (hbs : ∀ b ∈ bs, b ∈ s.stored) :
    Mirrors k heard s [] (discardEach h t bs) := by
  induction bs generalizing t with
  | nil => exact ht
  | cons b bs ih =>
    obtain ⟨hb, hn⟩ := List.nodup_cons.mp hn
    have hgone := ht.discarded hrec (hbt b List.mem_cons_self) (hbs b List.mem_cons_self)
    refine ih (hgone.told hrec) hn ?_ fun c hc => hbs c (List.mem_cons_of_mem b hc)
    intro c hc
    rw [(hrec.changed _ b true).1, (hushed_discard hrec t b).stored]
    refine List.mem_filter.mpr ⟨hbt c (List.mem_cons_of_mem b hc), ?_⟩
    exact decide_eq_true fun hcb => hb (hcb ▸ hc)

theorem removeAt (hs : Mirrors k heard s [] s) (kind : Kind) (line : Int) :
    Mirrors k heard s [] (removeAt h s kind line).1 := by
  have hdoomed : ∀ b ∈ s.stored.filter (fun b => s.IsAt kind line b), b ∈ s.stored :=
    fun b hb => (List.mem_filter.mp hb).1
  have hd := hs.discardEach hrec (hs.nodup.filter _) hdoomed hdoomed
  unfold Margin.removeAt
  dsimp only
  split
  · exact hd
  · exact hd.redraw hrec

theorem addOnLine (ht : Mirrors k heard s [] t) (kind : Kind) (line : Int) :
    Mirrors k heard s [] (addOnLine h t kind line).1 := by
  have hadd : Mirrors k heard s []
      (Margin.add h (t.newBookmark kind (.line line) "" none).1 t.bookmarks.size).1 := by
    refine (ht.hushed (.newBookmark t kind _ "" none)).add hrec ?_ ?_
    · simp [newBookmark_line]
    · exact fun _ hs => Nat.lt_irrefl _ (ht.former _ hs)
  unfold Margin.addOnLine
  rw [newBookmark_line] at hadd ⊢
  dsimp only at hadd ⊢
  split <;> simp_all

theorem toggleBreakpoint (hs : Mirrors k heard s [] s) (line : Int) :
    Mirrors k heard s [] (toggleBreakpoint h s line).1 := by
  have hr := hs.removeAt hrec .breakpoint line
  unfold Margin.toggleBreakpoint
  split
  · rename_i t ht
    rw [ht] at hr
    exact hr.addOnLine hrec .breakpoint line
  · rename_i t n ht
    rw [ht] at hr
    exact hr

theorem clearDebugPoint (hs : Mirrors k heard s [] s) :
    Mirrors k heard s [] (clearDebugPoint h s) := by
  refine List.foldlRecOn (motive := fun t => Mirrors k heard s [] t) _ _ hs ?_
  intro t ht b hb
  exact ht.remove hrec (mem_bookmarksOf.mp hb).1

theorem tellRemoved {bs : List BookmarkId} (ht : Mirrors k heard s bs t) :
    Mirrors k heard s [] (bs.foldl (fun t b => notifyChanged h t b true) t) ∧
      (bs.foldl (fun t b => notifyChanged h t b true) t).stored = t.stored := by
  induction bs generalizing t with
  | nil => exact ⟨ht, rfl⟩
  | cons b bs ih =>
    obtain ⟨hm, hst⟩ := ih (ht.told hrec)
    exact ⟨hm, hst.trans (hrec.changed t b true).1⟩

theorem tellMoved {bs : List BookmarkId} (ht : Mirrors k heard s [] t)
    (hbs : ∀ b ∈ bs, b ∈ t.stored) :
    Mirrors k heard s [] (bs.foldl (fun t b => notifyChanged h t b false) t) := by
  induction bs generalizing t with
  | nil => exact ht
  | cons b bs ih =>
    refine ih (ht.moved hrec (hbs b List.mem_cons_self)) ?_
    intro c hc
    rw [(hrec.changed t b false).1]
    exact hbs c (List.mem_cons_of_mem b hc)

/-- An edit tells of those that left, and then of those that moved. -/
theorem announce {removed : List BookmarkId} (ht : Mirrors k heard s removed t)
    (anchors : List Anchor) : Mirrors k heard s [] (announce h t removed anchors) := by
  obtain ⟨hm, hst⟩ := ht.tellRemoved hrec
  have hstay : ∀ b ∈ t.stored.filter (fun b => (t.bookmark b).anchor ∈ anchors),
      b ∈ (removed.foldl (fun t b => notifyChanged h t b true) t).stored := by
    intro b hb
    rw [hst]
    exact (List.mem_filter.mp hb).1
  have hmoved := hm.tellMoved hrec hstay
  unfold Margin.announce
  dsimp only
  split
  · exact hmoved
  · exact hmoved.redraw hrec

theorem linesInserted (hs : Mirrors k heard s [] s) (first count : Int) :
    Mirrors k heard s [] (linesInserted h s first count) :=
  (hs.hushed (.tracker s (s.tracker.insertLines first count).1)).announce hrec _

theorem linesDeleted (hs : Mirrors k heard s [] s) (first count : Int) :
    Mirrors k heard s [] (linesDeleted h s first count) := by
  have hedit := hs.hushed (.tracker s (s.tracker.deleteLines first count).1)
  have hleave := hedit.leave (hs.nodup.filter
    fun b => (s.bookmark b).anchor ∈ (s.tracker.deleteLines first count).2.removed.map .line) ?_
  · exact (hleave.hushed (hushed_discardAll hrec _ _)).announce hrec _
  · intro b hb
    exact ⟨(List.mem_filter.mp hb).1, (List.mem_filter.mp hb).1⟩

theorem charactersInserted (hs : Mirrors k heard s [] s) (start count : Int) :
    Mirrors k heard s [] (charactersInserted h s start count) :=
  (hs.hushed (.tracker s (s.tracker.insertCharacters start count).1)).announce hrec _

theorem charactersDeleted (hs : Mirrors k heard s [] s) (start count : Int) :
    Mirrors k heard s [] (charactersDeleted h s start count) :=
  (hs.hushed (.tracker s (s.tracker.deleteCharacters start count).1)).announce hrec _

theorem keepParseErrors (ht : Mirrors k heard s [] t) {bs : List BookmarkId} (hn : bs.Nodup)
    (hbs : ∀ b ∈ bs, b ∈ t.stored ∧ b ∈ s.stored) (wanted : List Finding) (flag : Bool) :
    Mirrors k heard s [] (keepParseErrors h bs wanted flag t).1 := by
  refine (keepParseErrors_induction (I := fun bs t => bs.Nodup ∧
    (∀ b ∈ bs, b ∈ t.stored ∧ b ∈ s.stored) ∧ Mirrors k heard s [] t) ?_ ?_ ?_
    wanted flag ⟨hn, hbs, ht⟩).2.2
  · rintro b bs t ⟨hn, hbs, ht⟩
    exact ⟨(List.nodup_cons.mp hn).2, fun c hc => hbs c (List.mem_cons_of_mem b hc), ht⟩
  · rintro b bs t _ ⟨hn, hbs, ht⟩
    have hu := hushed_markParseError hrec t b
    refine ⟨(List.nodup_cons.mp hn).2, ?_, ht.hushed hu⟩
    rw [hu.stored]
    exact fun c hc => hbs c (List.mem_cons_of_mem b hc)
  · rintro b bs t ⟨hn, hbs, ht⟩
    obtain ⟨hb, hn⟩ := List.nodup_cons.mp hn
    obtain ⟨hbt, hbs'⟩ := hbs b List.mem_cons_self
    refine ⟨hn, ?_, (ht.discarded hrec hbt hbs').told hrec⟩
    intro c hc
    obtain ⟨hct, hcs⟩ := hbs c (List.mem_cons_of_mem b hc)
    rw [(hrec.changed _ b true).1, (hushed_discard hrec t b).stored]
    refine ⟨List.mem_filter.mpr ⟨hct, ?_⟩, hcs⟩
    exact decide_eq_true fun hcb => hb (hcb ▸ hc)

theorem addParseErrors (ht : Mirrors k heard s [] t) {fs : List Finding}
    (hfs : ∀ f ∈ fs, f.span.Valid) : Mirrors k heard s [] (addParseErrors h fs t).1 := by
  induction fs generalizing t with
  | nil => exact ht
  | cons f fs ih =>
    have hreported : Hushed k heard { t with stored := t.stored ++ [t.bookmarks.size] }
        (t.reported f) := .of_eq rfl (by simp [reported, newBookmark_span]) rfl rfl
    have hmade : t.bookmarks.size < (t.reported f).bookmarks.size := by
      simp [reported, newBookmark_span]
    have hmark := hushed_markParseError hrec (t.reported f) t.bookmarks.size
    have hok := markParseError_reported h t (hfs f List.mem_cons_self)
    rw [addParseErrors_cons]
    split
    · rename_i u heq
      rw [heq] at hmark
      refine ih ?_ fun g hg => hfs g (List.mem_cons_of_mem f hg)
      refine ht.come hrec ?_ ?_ (hreported.trans hmark) (Nat.lt_of_lt_of_le hmade hmark.grows)
      · exact fun hmem => Nat.lt_irrefl _ (ht.known _ hmem)
      · exact fun hmem => Nat.lt_irrefl _ (ht.former _ hmem)
    · rename_i u e heq
      rw [heq] at hok
      cases hok

theorem replaceParseErrors (hs : Mirrors k heard s [] s) {ds : List Diagnostic}
    (hds : ∀ d ∈ ds, d.finding.span.Valid) :
    Mirrors k heard s [] (replaceParseErrors h s ds).1 := by
  have hbs : ∀ b ∈ s.bookmarksOf .parseError, b ∈ s.stored ∧ b ∈ s.stored :=
    fun b hb => ⟨(mem_bookmarksOf.mp hb).1, (mem_bookmarksOf.mp hb).1⟩
  refine replaceParseErrors_induction (I := fun t => Mirrors k heard s [] t) hs ?_ ?_ ?_
  · exact hs.keepParseErrors hrec (nodup_bookmarksOf hs.nodup _) hbs _ _
  · intro fs t _ _ hfs ht
    refine ht.addParseErrors hrec fun f hf => ?_
    obtain ⟨d, hd, rfl⟩ := mem_findings (hfs f hf)
    exact hds d hd
  · exact fun t ht => ht.redraw hrec

end Mirrors

/-- The command takes in no bookmark that was never made, and reports errors only where a text can
have them. -/
def Command.Fit (s : Margin κ ω) : Command → Prop
  | .add b => b < s.bookmarks.size
  | .replaceParseErrors ds => ∀ d ∈ ds, d.finding.span.Valid
  | _ => True

section Run
variable {h : Reaction κ ω} {s t : Margin κ ω}

theorem perform_mirrors (hrec : Records h k heard) {c : Command} (hc : c.Fit s)
    (hs : Mirrors k heard s [] s) : Mirrors k heard s [] (perform h s c).1 := by
  cases c with
  | new kind place message marker => exact hs.hushed (.newBookmark s kind place message marker)
  | add b => exact hs.add hrec hc id
  | remove b =>
    by_cases hb : b ∈ s.stored
    · exact hs.remove hrec hb
    · simpa [perform, remove, hb] using hs
  | removeAt kind line => exact hs.removeAt hrec kind line
  | toggleBreakpoint line => exact hs.toggleBreakpoint hrec line
  | setDebugPoint line => exact (hs.clearDebugPoint hrec).addOnLine hrec .debugPoint line
  | clearDebugPoint => exact hs.clearDebugPoint hrec
  | replaceParseErrors ds => exact hs.replaceParseErrors hrec hc
  | attachMarker b x => exact hs.hushed (hushed_attachMarker hrec s b x)
  | linesInserted first count => exact hs.linesInserted hrec first count
  | linesDeleted first count => exact hs.linesDeleted hrec first count
  | charactersInserted start count => exact hs.charactersInserted hrec start count
  | charactersDeleted start count => exact hs.charactersDeleted hrec start count
  | createMarker x =>
    unfold perform
    dsimp only
    split
    · rename_i u m hu
      exact hs.hushed (.createMarker hu)
    · exact hs
  | createMarkerFor b =>
    unfold perform
    dsimp only
    split
    · exact hs
    · split
      · rename_i u m hu
        exact hs.hushed (.createMarkerOver hu)
      · exact hs
  | setStyle m p v => exact hs.hushed (hushed_setStyle hrec s m p v)
  | setTag m l => exact hs.hushed (.modifyMarker s m _)
  | setTooltip m l => exact hs.hushed (.modifyMarker s m _)
  | moveMarker m start => exact hs.hushed (.tracker s _)
  | resizeMarker m length => exact hs.hushed (.tracker s _)
  | deleteMarker m => exact hs.hushed (hushed_removeMarker hrec s m)
  | removeMarker m => exact hs.hushed (hushed_removeMarker hrec s m)
  | removeMarkersWhere test =>
    refine List.foldlRecOn (motive := fun t => Mirrors k heard s [] t) _ _ hs ?_
    intro t ht m _
    exact ht.hushed (hushed_removeMarker hrec t m)
  | redrawMarker m => exact hs.hushed (hushed_notifyMarkerRedraw hrec s m)
  | setLineCount count => exact hs.hushed (.of_eq rfl (Nat.le_refl _) rfl rfl)
  | _ => exact hs

/-- When nothing is left to be told, the account can begin anew. -/
theorem Mirrors.again (ht : Mirrors k heard s [] t) : Mirrors k heard t [] t :=
  { ht with
    former := ht.known
    gone := by
      intro b hb
      cases hb
    departed := by
      intro b
      simp }

theorem mirrors_subscribed {lineCount : Option Int} {w : ω} (hw : heard w = []) :
    Mirrors k heard ((empty lineCount w).subscribe k .changed) []
      ((empty lineCount w).subscribe k .changed) where
  attends := by simp [subscribe, empty]
  nodup := List.nodup_nil
  known _ hb := by cases hb
  former _ hb := by cases hb
  outNodup := List.nodup_nil
  gone _ hb := by cases hb
  shows b := by
    change b ∈ mirror (heard w) ↔ b ∈ [] ∨ b ∈ []
    simp [hw, mirror]
  truthful := by
    change Truthful (heard w)
    exact hw ▸ truthful_nil
  departed b := by simp

theorem mirrors_of_run (hrec : Records h k heard) {lineCount : Option Int} {w : ω}
    (hw : heard w = [])
    (hr : Run Command.Fit (Undisturbed k heard) h ((empty lineCount w).subscribe k .changed) s) :
    Mirrors k heard s [] s := by
  refine run_induction (I := fun t => Mirrors k heard t [] t) ?_ ?_ hr (mirrors_subscribed hw)
  · intro t c hc ht
    exact (perform_mirrors hrec hc ht).again
  · intro t u ha ht
    exact (ht.hushed (.of_undisturbed ha)).again

/-- Whenever no command is under way, the listener's set is what is stored, and it was told
nothing but the truth. The next command will tell it once of each bookmark that goes. -/
theorem stored_mirrored (hrec : Records h k heard) {lineCount : Option Int} {w : ω}
    (hw : heard w = [])
    (hr : Run Command.Fit (Undisturbed k heard) h ((empty lineCount w).subscribe k .changed) s) :
    mirror (heard s.shared) = s.stored.toFinset ∧ Truthful (heard s.shared) ∧
    ∀ c : Command, c.Fit s → ∀ b,
      departures b (heard (perform h s c).1.shared) = departures b (heard s.shared) +
        if b ∈ s.stored ∧ b ∉ (perform h s c).1.stored then 1 else 0 := by
  have hs := mirrors_of_run hrec hw hr
  refine ⟨?_, hs.truthful, ?_⟩
  · ext b
    simpa using hs.shows b
  · intro c hc b
    simpa using (perform_mirrors hrec hc hs).departed b

end Run

/-- One listener writes down what it hears, and the other always fails. -/
def scribe (j : Bool) (n : Notice) (s : Margin Bool (List Sighting)) :
    Margin Bool (List Sighting) × Bool :=
  if j then ({ s with shared := s.shared ++ [⟨n, s.stored⟩] }, false) else (s, true)

theorem records_scribe : Records scribe true id where
  aloof j n s := by
    cases j with
    | false => exact .refl
    | true => exact .single (.share s _)
  hears _ _ := rfl
  others j n s hj := by
    cases j with
    | false => rfl
    | true => exact absurd rfl hj
  attends j n s := by
    cases j <;> rfl

/-- A line with a breakpoint is deleted, and a parse error goes and comes again. -/
def recorded : Margin Bool (List Sighting) :=
  performAll scribe (((empty none []).subscribe true .changed).subscribe false .changed)
    [.toggleBreakpoint 2, .toggleBreakpoint 3, .attachMarker 0 ⟨0, 3⟩,
      .new .parseError (.span ⟨4, 2⟩) "unexpected end" none, .add 2, .linesInserted 1 1, .remove 2,
      .add 2, .linesDeleted 3 1]

theorem stored_mirrored_recorded :
    recorded.stored = [1, 2] ∧ departures 0 recorded.shared = 1 ∧
    mirror (id recorded.shared) = recorded.stored.toFinset ∧ Truthful (id recorded.shared) ∧
    ∀ c : Command, c.Fit recorded → ∀ b,
      departures b (id (perform scribe recorded c).1.shared) = departures b (id recorded.shared) +
        if b ∈ recorded.stored ∧ b ∉ (perform scribe recorded c).1.stored then 1 else 0 := by
  have hrun : Run Command.Fit (Undisturbed true id) scribe
      ((empty none []).subscribe true .changed) recorded := by
    refine .head (.aside ⟨.subscribe _ false .changed trivial, rfl, rfl⟩) ?_
    refine .head (.command (.toggleBreakpoint 2) trivial) ?_
    refine .head (.command (.toggleBreakpoint 3) trivial) ?_
    refine .head (.command (.attachMarker 0 ⟨0, 3⟩) trivial) ?_
    refine .head (.command (.new .parseError (.span ⟨4, 2⟩) "unexpected end" none) trivial) ?_
    refine .head (.command (.add 2) (by change 2 < _; decide)) ?_
    refine .head (.command (.linesInserted 1 1) trivial) ?_
    refine .head (.command (.remove 2) trivial) ?_
    refine .head (.command (.add 2) (by change 2 < _; decide)) ?_
    exact .single (.command (.linesDeleted 3 1) trivial)
  exact ⟨by decide, by decide, stored_mirrored records_scribe rfl hrun⟩

end Margin

end Scriptorium
