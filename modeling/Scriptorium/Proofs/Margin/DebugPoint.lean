import Scriptorium.Proofs.Margin.Aggregate
import Scriptorium.Proofs.Margin.Breakpoints

/-!
There is one debug point at most, as long as nobody puts one where another is. Setting the debug
point takes the former one out first, so that it does not, unless a listener that hears of this puts
another one before the new one comes. To add a debug point like any bookmark is refused on account
of its line only, so that there it is for the caller to look (`Command.Cautious`).
-/

namespace Scriptorium
set_option autoImplicit false

namespace Ruling

/-- No two debug points are stored. At least `n` bookmarks were made. -/
structure Lone (n : Nat) (r : Ruling) : Prop where
  bound : n ≤ r.size
  nodup : r.stored.Nodup
  known : ∀ b ∈ r.stored, b < r.size
  alone : ∀ b ∈ r.stored, ∀ c ∈ r.stored, r.kind b = .debugPoint → r.kind c = .debugPoint → b = c

variable {r : Ruling} {n : Nat} {b : BookmarkId}

namespace Lone

theorem rebound (hr : Lone n r) {m : Nat} (hm : m ≤ r.size) : Lone m r := { hr with bound := hm }

theorem push (hr : Lone n r) (kind : Kind) (a : Anchor) (lines : Registry Int) :
    Lone n { r with
      lines := lines
      size := r.size + 1
      kind := Function.update r.kind r.size kind
      anchor := Function.update r.anchor r.size a } where
  bound := Nat.le_succ_of_le hr.bound
  nodup := hr.nodup
  known b hb := Nat.lt_succ_of_lt (hr.known b hb)
  alone b hb c hc hbk hck := by
    have hold : ∀ d ∈ r.stored, Function.update r.kind r.size kind d = r.kind d :=
      fun d hd => Function.update_of_ne (Nat.ne_of_lt (hr.known d hd)) _ _
    exact hr.alone b hb c hc ((hold b hb).symm.trans hbk) ((hold c hc).symm.trans hck)

theorem enter (hr : Lone n r) (hnew : b ∉ r.stored) (hb : b < r.size)
    (hfree : r.kind b = .debugPoint → ∀ c ∈ r.stored, r.kind c ≠ .debugPoint) :
    Lone n (r.enter b) where
  bound := by simpa [Ruling.enter] using hr.bound
  nodup := by simpa [Ruling.enter] using hr.nodup.concat hnew
  known c hc := by
    rcases List.mem_append.mp hc with hc | hc
    · simpa [Ruling.enter] using hr.known c hc
    · simpa [Ruling.enter, List.mem_singleton.mp hc] using hb
  alone c hc d hd hck hdk := by
    have hck' : r.kind c = .debugPoint := by simpa [Ruling.enter] using hck
    have hdk' : r.kind d = .debugPoint := by simpa [Ruling.enter] using hdk
    rcases List.mem_append.mp hc with hc' | hc' <;> rcases List.mem_append.mp hd with hd' | hd'
    · exact hr.alone c hc' d hd' hck' hdk'
    · obtain rfl := List.mem_singleton.mp hd'
      exact absurd hck' (hfree hdk' c hc')
    · obtain rfl := List.mem_singleton.mp hc'
      exact absurd hdk' (hfree hck' d hd')
    · rw [List.mem_singleton.mp hc', List.mem_singleton.mp hd']

theorem leave (hr : Lone n r) : Lone n (r.leave b) where
  bound := hr.bound
  nodup := hr.nodup.filter _
  known c hc := hr.known c (List.mem_filter.mp hc).1
  alone c hc d hd := hr.alone c (List.mem_filter.mp hc).1 d (List.mem_filter.mp hd).1

end Lone

/-- Of the bookmarks that are put on no line none is a debug point. -/
theorem closed_lone (n : Nat) : Closed (fun b => b < n) (fun _ => False) (Lone n) where
  known _ hr := hr.known
  kept _ _ hb hr := Nat.lt_of_lt_of_le hb hr.bound
  pushLine r kind line hr := hr.push kind _ _
  pushSpan r kind i hr := hr.push kind _ _
  follow r b _ _ hr := by
    rw [follow_eq]
    exact ⟨hr.bound, hr.nodup, hr.known, hr.alone⟩
  enter r b hnew hb hadm _ hline hr := by
    refine hr.enter hnew hb fun hk => ?_
    obtain ⟨i, hi, _⟩ := hadm (by rw [hk]; decide)
    exact (hline (r.lines.get i) (by simp [lineNumber?, hi, Anchor.line?])).elim
  leave _ _ _ hr := hr.leave

/-- The kinds of the bookmarks that were made by now. -/
structure Kinds (n : Nat) (f : BookmarkId → Kind) (r : Ruling) : Prop where
  bound : n ≤ r.size
  known : ∀ b ∈ r.stored, b < r.size
  kind : ∀ b < n, r.kind b = f b

theorem Kinds.push {f : BookmarkId → Kind} (hr : Kinds n f r) (kind : Kind) (a : Anchor)
    (lines : Registry Int) :
    Kinds n f { r with
      lines := lines
      size := r.size + 1
      kind := Function.update r.kind r.size kind
      anchor := Function.update r.anchor r.size a } where
  bound := Nat.le_succ_of_le hr.bound
  known b hb := Nat.lt_succ_of_lt (hr.known b hb)
  kind b hb := (Function.update_of_ne (Nat.ne_of_lt (Nat.lt_of_lt_of_le hb hr.bound)) _ _).trans
    (hr.kind b hb)

theorem closed_kinds (n : Nat) (f : BookmarkId → Kind) :
    Closed (fun b => b < n) (fun _ => True) (Kinds n f) where
  known _ hr := hr.known
  kept _ _ hb hr := Nat.lt_of_lt_of_le hb hr.bound
  pushLine r kind line hr := hr.push kind _ _
  pushSpan r kind i hr := hr.push kind _ _
  follow r b _ _ hr := by
    rw [follow_eq]
    exact ⟨hr.bound, hr.known, hr.kind⟩
  enter r b _ hb _ _ _ hr := by
    refine ⟨by simpa [Ruling.enter] using hr.bound, ?_, by simpa [Ruling.enter] using hr.kind⟩
    intro c hc
    rcases List.mem_append.mp hc with hc | hc
    · simpa [Ruling.enter] using hr.known c hc
    · simpa [Ruling.enter, List.mem_singleton.mp hc] using hb
  leave _ _ _ hr := ⟨hr.bound, fun c hc => hr.known c (List.mem_filter.mp hc).1, hr.kind⟩

end Ruling

namespace Margin
variable {κ ω : Type} {h : Reaction κ ω} {s : Margin κ ω} {n : Nat} {b : BookmarkId}

/-- The command puts a debug point only where none is, and no bookmark that was never made. -/
def Command.Cautious (s : Margin κ ω) : Command → Prop
  | .add b => b < s.bookmarks.size ∧ ((s.bookmark b).kind = .debugPoint → b ∉ s.stored →
      s.refusal? b = none → s.bookmarksOf .debugPoint = [])
  | .setDebugPoint _ => s.bookmarksOf .debugPoint = []
  | _ => True

/-- The debug point may be moved as well, if no listener has put another one when it is gone. -/
def Command.Orderly (h : Reaction κ ω) (s : Margin κ ω) : Command → Prop
  | .setDebugPoint _ => (Margin.clearDebugPoint h s).bookmarksOf .debugPoint = []
  | c => c.Cautious s

theorem Command.Cautious.orderly {c : Command} (hc : c.Cautious s) (h : Reaction κ ω) :
    c.Orderly h s := by
  cases c with
  | setDebugPoint line =>
    have hnone : s.bookmarksOf .debugPoint = [] := hc
    change (Margin.clearDebugPoint h s).bookmarksOf .debugPoint = []
    rw [Margin.clearDebugPoint, hnone]
    exact hnone
  | _ => exact hc

theorem free_of_bookmarksOf (hnone : s.bookmarksOf .debugPoint = []) :
    ∀ c ∈ s.ruling.stored, s.ruling.kind c ≠ .debugPoint := by
  intro c hc hk
  have hmem : c ∈ s.bookmarksOf .debugPoint := mem_bookmarksOf.mpr ⟨hc, hk⟩
  rw [hnone] at hmem
  cases hmem

section Lone
variable (hn : ∀ n, Heeds h fun s => s.ruling.Lone n)
include hn

theorem add_lone (hb : b < s.bookmarks.size)
    (hfree : s.ruling.kind b = .debugPoint → b ∉ s.stored → s.refusal? b = none →
      ∀ c ∈ s.ruling.stored, s.ruling.kind c ≠ .debugPoint) (hs : s.ruling.Lone n) :
    (add h s b).1.ruling.Lone n := by
  rcases add_cases h s b with he | ⟨e, he⟩ | ⟨t, hnew, hr, ht, he⟩
  · rwa [he]
  · rwa [he, ruling_log]
  · have htaken : (s.taken b t).ruling.Lone n := by
      rw [ruling_taken (ruling_track ht).2]
      exact hs.enter hnew hb fun hk => hfree hk hnew hr
    rw [he]
    exact notifyChanged_keeps (hn n) (fun _ _ => id) b false
      (notifyRedraw_keeps (hn n) (fun _ _ => id) htaken)

theorem addOnLine_lone {kind : Kind} {line : Int}
    (hfree : kind = .debugPoint → s.bookmarksOf .debugPoint = []) (hs : s.ruling.Lone n) :
    (addOnLine h s kind line).1.ruling.Lone n := by
  rw [addOnLine_fst]
  refine add_lone hn ?_ ?_ ?_
  · simp [newBookmark_line]
  · rw [ruling_newBookmark_line]
    intro hk _ _ c hc
    have hold : (s.ruling.pushLine kind line).kind c = s.ruling.kind c :=
      Function.update_of_ne (Nat.ne_of_lt (hs.known c hc)) _ _
    rw [hold]
    have hself : (s.ruling.pushLine kind line).kind s.bookmarks.size = kind :=
      Function.update_self _ _ _
    exact free_of_bookmarksOf (hfree (hself.symm.trans hk)) c hc
  · rw [ruling_newBookmark_line]
    exact hs.push kind _ _

/-- The bookmarks at hand when the command begins are those that it takes out. -/
theorem perform_lone {c : Command} (hc : c.Orderly h s) (hs : s.ruling.Lone n) :
    (perform h s c).1.ruling.Lone n := by
  suffices hdone : (perform h s c).1.ruling.Lone s.bookmarks.size from
    hdone.rebound (Nat.le_trans hs.bound hdone.bound)
  replace hs := hs.rebound (Nat.le_refl _)
  have hst := stable_of_closed (Ruling.closed_lone s.bookmarks.size) (hn _)
  have hplaced : c.Places (fun _ => False) s →
      (perform h s c).1.ruling.Lone s.bookmarks.size :=
    fun hplaces => perform_keeps (Ruling.closed_lone s.bookmarks.size) (hn _) hs.known hplaces hs
  have hedit : ∀ t : Tracker, ({ s with tracker := t } : Margin κ ω).ruling.Lone s.bookmarks.size :=
    fun t => ⟨hs.bound, hs.nodup, hs.known, hs.alone⟩
  cases c with
  | add b =>
    exact add_lone hn hc.1 (fun hk hnew hr => free_of_bookmarksOf (hc.2 hk hnew hr)) hs
  | toggleBreakpoint line =>
    have hremoved := hst.removeAt .breakpoint line hs.known hs
    unfold perform toggleBreakpoint
    dsimp only
    generalize Margin.removeAt h s .breakpoint line = r at hremoved ⊢
    obtain ⟨t, _ | n⟩ := r
    · exact addOnLine_lone hn nofun hremoved
    · exact hremoved
  | setDebugPoint line => exact addOnLine_lone hn (fun _ => hc) (hst.clearDebugPoint hs.known hs)
  | linesInserted first count => exact hst.announce _ _ (hedit _)
  | linesDeleted first count =>
    refine hst.announce _ _ (hst.discardAll ?_ (hedit _))
    exact fun b hb => hs.known b (List.mem_filter.mp hb).1
  | _ => exact hplaced trivial

end Lone

section Run
variable [DecidableEq κ]

theorem lone_of_lawful (hh : Lawful Command.Cautious h) (n : Nat) :
    Heeds h fun s => s.ruling.Lone n := by
  refine hh.heeds (J := fun n s => s.ruling.Lone n) ?_ ?_ n
  · exact fun g hg n s c hc hs => perform_lone hg (hc.orderly g) hs
  · intro n s t ha hs
    rwa [ruling_aside ha]

theorem stored_removals (ha : Aloof h) (bs : List BookmarkId) (s : Margin κ ω) :
    (bs.foldl (fun t b => (remove h t b).1) s).stored = s.stored.filter (· ∉ bs) := by
  induction bs generalizing s with
  | nil => simp
  | cons b bs ih =>
    rw [List.foldl_cons, ih, stored_remove ha, List.filter_filter]
    refine List.filter_congr fun c _ => ?_
    simp [Bool.and_comm]

theorem stored_clearDebugPoint (ha : Aloof h) (s : Margin κ ω) :
    (clearDebugPoint h s).stored = s.stored.filter fun b => (s.bookmark b).kind ≠ .debugPoint := by
  rw [clearDebugPoint, stored_removals ha]
  refine List.filter_congr fun c hc => ?_
  simp [mem_bookmarksOf, hc]

/-- Under listeners that do not call back nothing comes in the place of the debug point. -/
theorem bookmarksOf_clearDebugPoint (ha : Aloof h) (hknown : ∀ b ∈ s.stored, b < s.bookmarks.size) :
    (clearDebugPoint h s).bookmarksOf .debugPoint = [] := by
  have hkinds : (clearDebugPoint h s).ruling.Kinds s.bookmarks.size s.ruling.kind := by
    have hheeds : Heeds h fun t => t.ruling.Kinds s.bookmarks.size s.ruling.kind := by
      refine heeds_of_aloof ha fun t u hstep ht => ?_
      rwa [ruling_aside hstep]
    exact (stable_of_closed (Ruling.closed_kinds _ _) hheeds).clearDebugPoint hknown
      ⟨Nat.le_refl _, hknown, fun _ _ => rfl⟩
  refine List.eq_nil_iff_forall_not_mem.mpr fun c hc => ?_
  obtain ⟨hct, hk⟩ := mem_bookmarksOf.mp hc
  rw [stored_clearDebugPoint ha] at hct
  obtain ⟨hcs, hother⟩ := List.mem_filter.mp hct
  have hsame : (clearDebugPoint h s).ruling.kind c = s.ruling.kind c :=
    hkinds.kind c (hknown c hcs)
  exact of_decide_eq_true hother (hsame.symm.trans hk)

/-- Whenever no command is under way, one debug point is stored at most; and if no listener calls
back, it can always be moved. -/
theorem debugPoint_alone (hh : Lawful Command.Cautious h) {lineCount : Option Int} {w : ω}
    (hr : Run (fun t c => c.Orderly h t) Aside h (empty lineCount w) s) :
    (s.bookmarksOf .debugPoint).length ≤ 1 ∧
    (Aloof h → ∀ line, (Command.setDebugPoint line).Orderly h s) := by
  have hs : s.ruling.Lone 0 := by
    refine run_induction (I := fun t => t.ruling.Lone 0) ?_ ?_ hr
      ⟨Nat.le_refl 0, List.nodup_nil, nofun, nofun⟩
    · exact fun t c hc ht => perform_lone (lone_of_lawful hh) hc ht
    · intro t u ha ht
      rwa [ruling_aside ha]
  refine ⟨?_, fun ha _ => bookmarksOf_clearDebugPoint ha hs.known⟩
  have hnodup := nodup_bookmarksOf hs.nodup .debugPoint
  rcases hfound : s.bookmarksOf .debugPoint with _ | ⟨b, _ | ⟨c, bs⟩⟩
  · exact Nat.zero_le 1
  · exact Nat.le_refl 1
  · have hmem : ∀ d ∈ b :: c :: bs, d ∈ s.stored ∧ (s.bookmark d).kind = .debugPoint :=
      fun d hd => mem_bookmarksOf.mp (hfound ▸ hd)
    obtain ⟨hb, hbk⟩ := hmem b (by simp)
    obtain ⟨hc, hck⟩ := hmem c (by simp)
    rw [hfound, hs.alone b hb c hc hbk hck] at hnodup
    simp at hnodup

end Run

/-- A listener that puts a debug point on the seventh line when one has gone and none is left. It
always fails. -/
def keeper (_ : Unit) (n : Notice) (s : Margin Unit Unit) : List Command × Bool :=
  match n with
  | .changed _ true => (if s.bookmarksOf .debugPoint = [] then [.setDebugPoint 7] else [], true)
  | _ => ([], false)

theorem lawful_keeper (depth : Nat) : Lawful Command.Cautious (scripted keeper depth) := by
  induction depth with
  | zero => exact .aloof fun _ _ _ => .refl
  | succ depth ih =>
    refine .calls (fun _ _ _ => scripted keeper depth) (fun _ _ _ => ih) fun k n s => ?_
    have hgives : ∀ c ∈ (keeper k n s).1, (keeper k n s).1 = [c] ∧ c.Cautious s := by
      intro c hc
      unfold keeper at hc ⊢
      split at hc
      · split at hc
        · rename_i hnone
          obtain rfl := List.mem_singleton.mp hc
          exact ⟨by simp [hnone], hnone⟩
        · cases hc
      · cases hc
    change Run _ _ _ s (performAll (scripted keeper depth) s (keeper k n s).1)
    rcases hscript : (keeper k n s).1 with _ | ⟨c, cs⟩
    · exact .refl
    · obtain ⟨hone, hc⟩ := hgives c (hscript ▸ List.mem_cons_self)
      rw [← hscript, hone]
      exact run_performAll_cons hc .refl

/-- The debug point is set, taken away, put back by the listener, and lost with its line. -/
def kept : Margin Unit Unit :=
  performAll (scripted keeper 2) ((empty none ()).subscribe () .changed)
    [.toggleBreakpoint 2, .setDebugPoint 3, .removeAt .debugPoint 3, .linesDeleted 6 2]

theorem debugPoint_alone_kept :
    Lawful Command.Cautious (scripted keeper 2) ∧
    Run (fun t c => c.Orderly (scripted keeper 2) t) Aside (scripted keeper 2) (empty none ()) kept ∧
    kept.stored = [0, 3] ∧ (kept.bookmarksOf .debugPoint).length ≤ 1 ∧
    (Aloof (scripted keeper 2) → ∀ line,
      (Command.setDebugPoint line).Orderly (scripted keeper 2) kept) := by
  have hrun : Run (fun t c => c.Orderly (scripted keeper 2) t) Aside (scripted keeper 2)
      (empty none ()) kept := by
    refine .head (.aside (.subscribe _ () .changed trivial)) ?_
    refine run_performAll_cons trivial (run_performAll_cons ?_ (run_performAll_cons trivial
      (run_performAll_cons trivial .refl)))
    unfold Command.Orderly
    decide +kernel
  exact ⟨lawful_keeper 2, hrun, by decide +kernel, debugPoint_alone (lawful_keeper 2) hrun⟩

/-- Two debug points, on two lines. -/
def doubled : Margin Unit Unit :=
  performAll grumbler (empty none ())
    [.new .debugPoint (.line 3) "" none, .new .debugPoint (.line 5) "" none, .add 0, .add 1]

theorem two_debugPoints_doubled :
    Run Command.Made Aside grumbler (empty none ()) doubled ∧
    doubled.bookmarksOf .debugPoint = [0, 1] := by
  refine ⟨?_, by decide +kernel⟩
  refine run_performAll_cons trivial (run_performAll_cons trivial (run_performAll_cons ?_
    (run_performAll_cons ?_ .refl)))
  · change 0 < _
    decide +kernel
  · change 1 < _
    decide +kernel

end Margin

end Scriptorium
