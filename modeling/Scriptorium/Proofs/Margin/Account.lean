import Mathlib.Algebra.BigOperators.Group.List.Basic
import Mathlib.Tactic.Ring
import Scriptorium.Proofs.Margin.Course
import Scriptorium.Proofs.Margin.Recorder
import Scriptorium.Proofs.Margin.Tactful

/-!
Accounts of the margin. What holds of every command, whoever listens, is had from its course: an
invariant must survive the parts of which a course is made (`Kept`), and an account, which says how
far two numbers are apart, must move by what each event is worth (`Carries`).

The accounts are about what a listener is told. Other listeners may call back in the middle of a
command, and in the middle of what they call others may, and so on; `Overheard` says that all the
while one and the same listener only writes down what it hears. If the calls of the others leave the
account as it is, then telling everybody moves it by what the notice is worth to that one, once for
each of its subscriptions.
-/

namespace Scriptorium
set_option autoImplicit false

/-- What the events come to if each is worth `v`. -/
def worth (v : Event → ℤ) (l : List Event) : ℤ := (l.map v).sum

section Worth
variable (v : Event → ℤ)

@[simp] theorem worth_nil : worth v [] = 0 := rfl

@[simp] theorem worth_cons (e : Event) (l : List Event) : worth v (e :: l) = v e + worth v l := by
  simp [worth]

end Worth

/-- If each call of `k` moves the account by `d` and the other calls leave it, the delivery moves it
once for each time that `k` is called. -/
theorem deliver_shift {κ σ : Type} [DecidableEq κ] (call : κ → σ → σ × Bool) {report : σ → σ}
    {J : ℤ → σ → Prop} {k : κ} {d : ℤ} (hself : ∀ q s, J q s → J (q + d) (call k s).1)
    (hothers : ∀ j, j ≠ k → ∀ q s, J q s → J q (call j s).1)
    (hreport : ∀ q s, J q s → J q (report s)) (ks : List κ) {q : ℤ} {s : σ} (hs : J q s) :
    J (q + ks.count k * d) (deliver call report ks s) := by
  have hreported : ∀ (failed : Bool) q s, J q s → J q (if failed then report s else s) := by
    intro failed q s hs
    split
    · exact hreport q s hs
    · exact hs
  induction ks generalizing q s with
  | nil => simpa using hs
  | cons j ks ih =>
    rw [deliver_cons]
    by_cases hj : j = k
    · subst hj
      have hrest := ih (hreported (call j s).2 _ _ (hself q s hs))
      have hsum : q + ((j :: ks).count j : ℤ) * d = q + d + ks.count j * d := by
        rw [List.count_cons_self]
        push_cast
        ring
      rwa [hsum]
    · rw [List.count_cons_of_ne hj]
      exact ih (hreported (call j s).2 _ _ (hothers j hj q s hs))

namespace Margin
variable {κ ω : Type} [DecidableEq κ]

/-- A family of accounts that moves with every event of a course by what that is worth. -/
structure Carries (h : Reaction κ ω) (J : ℤ → Margin κ ω → Prop) (v : Event → ℤ) : Prop where
  silent : ∀ q s t, Silent s t → J q s → J q t
  make : ∀ q s t i, J q s → J q (s.marked t i)
  restyle : ∀ q s m, J q s → J q (notifyMarkerRedraw h s m)
  delete : ∀ q s m, J q s → J q (removeMarker h s m).1
  enter : ∀ q s b, b ∉ s.stored → b < s.bookmarks.size → J q s →
    J (q + v (.enter b)) { s with stored := s.stored ++ [b] }
  report : ∀ q s f, J q s → J (q + v (.enter s.bookmarks.size)) (s.reported f)
  leave : ∀ q s b, b ∈ s.stored → J q s →
    J (q + v (.leave b)) { s with stored := s.stored.filter (· ≠ b) }
  tell : ∀ q s b removed, J q s → J (q + v (.told b removed)) (notifyChanged h s b removed)
  redraw : ∀ q s, J q s → J (q + v .redraw) (notifyRedraw h s)

section Carries
variable {h : Reaction κ ω} {J : ℤ → Margin κ ω → Prop} {v : Event → ℤ} {s t : Margin κ ω} {q : ℤ}

theorem Carries.course {l : List Event} (hJ : Carries h J v) (hc : Course h l s t) (hs : J q s) :
    J (q + worth v l) t := by
  induction hc generalizing q with
  | done => simpa using hs
  | silent hst _ ih => exact ih (hJ.silent q _ _ hst hs)
  | make t i _ ih => exact ih (hJ.make q _ t i hs)
  | restyle m _ ih => exact ih (hJ.restyle q _ m hs)
  | delete m _ ih => exact ih (hJ.delete q _ m hs)
  | enter b hnew hb _ ih =>
    rw [worth_cons, ← add_assoc]
    exact ih (hJ.enter q _ b hnew hb hs)
  | report f _ ih =>
    rw [worth_cons, ← add_assoc]
    exact ih (hJ.report q _ f hs)
  | leave b hb _ ih =>
    rw [worth_cons, ← add_assoc]
    exact ih (hJ.leave q _ b hb hs)
  | tell b removed _ ih =>
    rw [worth_cons, ← add_assoc]
    exact ih (hJ.tell q _ b removed hs)
  | redraw _ ih =>
    rw [worth_cons, ← add_assoc]
    exact ih (hJ.redraw q _ hs)

theorem Carries.perform (hJ : Carries h J v) {c : Command} (hc : c.Made s) (hs : J q s) :
    J (q + worth v (c.events h s)) (perform h s c).1 := hJ.course (course_perform hc) hs

end Carries

/-- What an invariant must survive to be one of every command, besides the calls of listeners. -/
structure Kept (I : Margin κ ω → Prop) : Prop where
  silent : ∀ s t, Silent s t → I s → I t
  make : ∀ s t i, I s → I (s.marked t i)
  unlive : ∀ s m, m ∈ s.live → I s → I ((s.unlived m).log ((s.unlived m).removalEntry m))
  enter : ∀ s b, b ∉ s.stored → b < s.bookmarks.size → I s → I { s with stored := s.stored ++ [b] }
  report : ∀ s f, I s → I (s.reported f)
  leave : ∀ s b, b ∈ s.stored → I s → I { s with stored := s.stored.filter (· ≠ b) }

theorem Silent.failure {α : Type} (s : Margin κ ω) (g : Signal α) : Silent s (s.log g.failure) := by
  refine ⟨rfl, rfl, Nat.le_refl _, Nat.le_refl _, fun _ _ => rfl, rfl, rfl, rfl, ?_⟩
  simp [Margin.log, Scriptorium.removals, Entry.isRemoval, Signal.failure]

namespace Kept
variable {h : Reaction κ ω} {I : Margin κ ω → Prop} {s t : Margin κ ω} (hI : Kept I)
include hI

theorem deliver (hn : Heeds h I) (n : Notice) (g : Signal κ) (ks : List κ) (hs : I s) :
    I (deliver (fun k s => h k n s) (fun t => t.log g.failure) ks s) :=
  deliver_induction _ _ (fun k _ => hn k n) (fun t => hI.silent t _ (.failure t g)) hs

theorem markerRedraw (hn : Heeds h I) (m : MarkerId) (hs : I s) : I (notifyMarkerRedraw h s m) :=
  hI.deliver hn _ _ _ hs

theorem deleted (hn : Heeds h I) (m : MarkerId) (hs : I s) : I (notifyDeleted h s m) := by
  refine deliver_induction _ _ ?_ (fun t => hI.silent t _ (.failure t _)) hs
  intro x _ t ht
  cases x with
  | owner b => exact hI.silent t _ (.release t b m) ht
  | outside k => exact hn k _ t ht

theorem removeMarker (hn : Heeds h I) (m : MarkerId) (hs : I s) : I (removeMarker h s m).1 := by
  by_cases hm : m ∈ s.live
  · rw [removeMarker_of_mem h hm]
    exact hI.deleted hn m (hI.markerRedraw hn m (hI.unlive s m hm hs))
  · rwa [removeMarker_of_not_mem h hm]

theorem carries (hn : Heeds h I) : Carries h (fun _ => I) (fun _ => 0) where
  silent _ := hI.silent
  make _ := hI.make
  restyle _ _ := hI.markerRedraw hn
  delete _ _ m := hI.removeMarker hn m
  enter _ := hI.enter
  report _ := hI.report
  leave _ := hI.leave
  tell _ _ _ _ := hI.deliver hn _ _ _
  redraw _ _ := hI.deliver hn _ _ _

theorem perform (hn : Heeds h I) {c : Command} (hc : c.Made s) (hs : I s) :
    I (perform h s c).1 := (hI.carries hn).perform (q := 0) hc hs

variable (haside : ∀ s t, Aside s t → I s → I t)
include haside

theorem heeds (hh : Lawful Command.Made h) : Heeds h I :=
  hh.heeds (J := fun _ : Unit => I) (fun _ hg _ _ _ hc => hI.perform (hg ()) hc)
    (fun _ => haside) ()

/-- What commands and listeners have in common, no run can break. -/
theorem run (hh : Lawful Command.Made h) (hr : Run Command.Made Aside h s t) (hs : I s) : I t :=
  run_induction (fun _ _ hc => hI.perform (hI.heeds haside hh) hc) haside hr hs

end Kept

/-- The stored bookmarks were made, and each is stored once. -/
structure Listed (s : Margin κ ω) : Prop where
  nodup : s.stored.Nodup
  known : ∀ b ∈ s.stored, b < s.bookmarks.size

omit [DecidableEq κ] in
theorem Listed.concat {s : Margin κ ω} (hs : Listed s) {b : BookmarkId} (hnew : b ∉ s.stored)
    {t : Margin κ ω} (hstored : t.stored = s.stored ++ [b])
    (hgrows : s.bookmarks.size ≤ t.bookmarks.size) (hb : b < t.bookmarks.size) : Listed t := by
  refine ⟨hstored ▸ by simpa using hs.nodup.concat hnew, ?_⟩
  intro c hc
  rw [hstored] at hc
  rcases List.mem_append.mp hc with hc | hc
  · exact Nat.lt_of_lt_of_le (hs.known c hc) hgrows
  · exact List.mem_singleton.mp hc ▸ hb

omit [DecidableEq κ] in
theorem Listed.new {s : Margin κ ω} (hs : Listed s) : s.bookmarks.size ∉ s.stored :=
  fun hmem => Nat.lt_irrefl _ (hs.known _ hmem)

theorem kept_listed : Kept (Listed : Margin κ ω → Prop) where
  silent s t hst hs := by
    refine ⟨hst.stored.symm ▸ hs.nodup, ?_⟩
    rw [hst.stored]
    exact fun b hb => Nat.lt_of_lt_of_le (hs.known b hb) hst.bookmarks
  make _ _ _ hs := ⟨hs.nodup, hs.known⟩
  unlive _ _ _ hs := ⟨hs.nodup, hs.known⟩
  enter _ _ hnew hb hs := hs.concat hnew rfl (Nat.le_refl _) hb
  report s f hs := by
    have hsize : (s.reported f).bookmarks.size = s.bookmarks.size + 1 := by
      simp [reported, newBookmark_span]
    exact hs.concat hs.new rfl (Nat.le_of_lt (hsize ▸ Nat.lt_succ_self _))
      (hsize ▸ Nat.lt_succ_self _)
  leave _ _ _ hs := ⟨hs.nodup.filter _, fun b hb => hs.known b (List.mem_filter.mp hb).1⟩

omit [DecidableEq κ] in
theorem listed_empty (lineCount : Option Int) (w : ω) :
    Listed (empty lineCount w : Margin κ ω) := by
  refine ⟨List.nodup_nil, ?_⟩
  intro b hb
  cases hb

theorem Aside.listed {s t : Margin κ ω} (ha : Aside s t) (hs : Listed s) : Listed t := by
  obtain ⟨hstored, hbookmarks⟩ := ha.stored_bookmarks
  refine ⟨hstored.symm ▸ hs.nodup, ?_⟩
  rw [hstored, hbookmarks]
  exact hs.known

theorem listed_of_run {h : Reaction κ ω} {s : Margin κ ω} (hh : Lawful Command.Made h)
    {lineCount : Option Int} {w : ω} (hr : Run Command.Made Aside h (empty lineCount w) s) :
    Listed s :=
  kept_listed.run (fun _ _ => Aside.listed) hh hr (listed_empty lineCount w)

/-- Listener `k` does nothing but write down what it hears. -/
def Notes (h : Reaction κ ω) (k : κ) (heard : ω → List Sighting) : Prop :=
  ∀ n s, ∃ w, (h k n s).1 = { s with shared := w } ∧ heard w = heard s.shared ++ [⟨n, s.stored⟩]

/-- Listeners of which `k` only takes notes. The others may give the margin commands, each of which
is allowed under those who listen then and who include `k` again. -/
inductive Overheard (P : Reaction κ ω → Margin κ ω → Command → Prop)
    (B : Margin κ ω → Margin κ ω → Prop) (k : κ) (heard : ω → List Sighting) :
    Reaction κ ω → Prop where
  | aloof {h : Reaction κ ω} : Notes h k heard →
      (∀ j, j ≠ k → ∀ n s, Relation.ReflTransGen B s (h j n s).1) → Overheard P B k heard h
  | calls {h : Reaction κ ω} (inner : κ → Notice → Margin κ ω → Reaction κ ω) : Notes h k heard →
      (∀ j n s, Overheard P B k heard (inner j n s)) →
      (∀ j, j ≠ k → ∀ n s, Run (P (inner j n s)) B (inner j n s) s (h j n s).1) →
      Overheard P B k heard h

/-- The calls of all but `k` leave the accounts as they are. -/
def Minds (h : Reaction κ ω) (k : κ) (J : ℤ → Margin κ ω → Prop) : Prop :=
  ∀ j, j ≠ k → ∀ n q s, J q s → J q (h j n s).1

namespace Overheard
variable {P Q : Reaction κ ω → Margin κ ω → Command → Prop} {A B : Margin κ ω → Margin κ ω → Prop}
variable {k : κ} {heard : ω → List Sighting} {h : Reaction κ ω}

omit [DecidableEq κ] in
theorem notes (hh : Overheard P B k heard h) : Notes h k heard := by
  cases hh with
  | aloof hn _ => exact hn
  | calls _ hn _ _ => exact hn

omit [DecidableEq κ] in
theorem mono (hP : ∀ g s c, P g s c → Q g s c) (hh : Overheard P B k heard h) :
    Overheard Q B k heard h := by
  induction hh with
  | aloof hn hcall => exact .aloof hn hcall
  | calls inner hn _ hcall ih =>
    exact .calls inner hn ih fun j hj n s => run_mono (hP _) (fun _ _ => id) (hcall j hj n s)

theorem lawful {R : Margin κ ω → Command → Prop} (hP : ∀ g s c, P g s c → R s c)
    (hB : ∀ s t, B s t → Aside s t) (hh : Overheard P B k heard h) : Lawful R h := by
  have hself : ∀ {g : Reaction κ ω}, Notes g k heard → ∀ n s, Aside s (g k n s).1 := by
    intro g hn n s
    obtain ⟨w, hw, _⟩ := hn n s
    exact hw ▸ .share s w
  induction hh with
  | aloof hn hcall =>
    refine .aloof fun j n s => ?_
    by_cases hj : j = k
    · exact hj ▸ .single (hself hn n s)
    · exact Relation.ReflTransGen.mono hB _ _ (hcall j hj n s)
  | calls inner hn _ hcall ih =>
    refine .calls inner ih fun j n s => ?_
    by_cases hj : j = k
    · exact hj ▸ .single (.aside (hself hn n s))
    · exact run_mono (hP _) hB (hcall j hj n s)

omit [DecidableEq κ] in
/-- Accounts that each allowed command leaves as they are, as soon as those who listen to it do. -/
theorem minds {J : ℤ → Margin κ ω → Prop}
    (hcommand : ∀ g, Overheard P B k heard g → Minds g k J → ∀ q s c, P g s c → J q s →
      J q (perform g s c).1)
    (hbeside : ∀ q s t, B s t → J q s → J q t) (hh : Overheard P B k heard h) : Minds h k J := by
  induction hh with
  | @aloof g _ hcall =>
    intro j hj n q s hs
    have hr := hcall j hj n s
    generalize (g j n s).1 = t at hr ⊢
    induction hr with
    | refl => exact hs
    | tail _ hstep ih => exact hbeside q _ _ hstep ih
  | calls inner hn hh hcall ih =>
    intro j hj n q s hs
    exact run_induction (hcommand _ (hh j n s) (ih j n s) q) (hbeside q) (hcall j hj n s) hs

/-- What commands, other changes and the notes of `k` all keep, the listeners keep. -/
theorem heeds {I : Margin κ ω → Prop} (hI : Kept I) (hshare : ∀ s w, I s → I { s with shared := w })
    (hbeside : ∀ s t, B s t → I s → I t) (hP : ∀ g s c, P g s c → c.Made s)
    (hh : Overheard P B k heard h) : Heeds h I := by
  have hall : ∀ {g}, Notes g k heard → Minds g k (fun _ => I) → Heeds g I := by
    intro g hn hm j n s hs
    by_cases hj : j = k
    · obtain ⟨w, hw, _⟩ := hn n s
      rw [hj, hw]
      exact hshare s w hs
    · exact hm j hj n 0 s hs
  refine hall hh.notes (hh.minds ?_ fun _ => hbeside)
  exact fun g hg hm _ s c hc => hI.perform (hall hg.notes hm) (hP g s c hc)

end Overheard

/-- A notice moves the accounts by what it is worth to `k` whenever `k` hears it, and otherwise
telling of it leaves them as they are. -/
structure Accounts (h : Reaction κ ω) (k : κ) (J : ℤ → Margin κ ω → Prop) (x : Notice → ℤ) :
    Prop where
  self : ∀ n q s, J q s → J (q + x n) (h k n s).1
  others : Minds h k J
  silent : ∀ q s t, Silent s t → J q s → J q t

namespace Accounts
variable {h : Reaction κ ω} {k : κ} {J : ℤ → Margin κ ω → Prop} {x : Notice → ℤ}
variable (hJ : Accounts h k J x) {s : Margin κ ω} {q : ℤ}
include hJ

theorem deliver (n : Notice) (g : Signal κ) (ks : List κ) (hs : J q s) :
    J (q + ks.count k * x n) (deliver (fun j s => h j n s) (fun t => t.log g.failure) ks s) :=
  deliver_shift (fun j s => h j n s) (hJ.self n) (fun j hj => hJ.others j hj n)
    (fun q t => hJ.silent q t _ (.failure t g)) ks hs

theorem redraw (hs : J q s) :
    J (q + s.redraw.listeners.count k * x .redraw) (notifyRedraw h s) := hJ.deliver _ _ _ hs

theorem changed (b : BookmarkId) (removed : Bool) (hs : J q s) :
    J (q + s.changed.listeners.count k * x (.changed b removed)) (notifyChanged h s b removed) :=
  hJ.deliver _ _ _ hs

theorem markerRedraw (m : MarkerId) (hs : J q s) :
    J (q + s.markerRedraw.listeners.count k * x (.markerRedraw m)) (notifyMarkerRedraw h s m) :=
  hJ.deliver _ _ _ hs

theorem deleted (m : MarkerId) (hs : J q s) :
    J (q + (s.marker m).deleted.listeners.count (.outside k) * x (.markerDeleted m))
      (notifyDeleted h s m) := by
  refine deliver_shift (callWatcher h m) (hJ.self _) ?_
    (fun q t => hJ.silent q t _ (.failure t _)) _ hs
  intro y hy q t ht
  cases y with
  | owner b => exact hJ.silent q t _ (.release t b m) ht
  | outside j => exact hJ.others j (fun hj => hy (congrArg Watcher.outside hj)) _ q t ht

/-- Accounts to which notices about markers are worth nothing. -/
theorem removeMarker (hx : ∀ m, x (.markerRedraw m) = 0 ∧ x (.markerDeleted m) = 0)
    (hunlive : ∀ q s m, J q s → J q ((s.unlived m).log ((s.unlived m).removalEntry m)))
    (m : MarkerId) (hs : J q s) : J q (removeMarker h s m).1 := by
  by_cases hm : m ∈ s.live
  · rw [removeMarker_of_mem h hm]
    have hredrawn := hJ.markerRedraw m (hunlive q s m hs)
    rw [(hx m).1, mul_zero, add_zero] at hredrawn
    have hdone := hJ.deleted m hredrawn
    rwa [(hx m).2, mul_zero, add_zero] at hdone
  · rwa [removeMarker_of_not_mem h hm]

end Accounts

/-- Listener `k` takes notes and the others follow a script, up to `depth` calls within one
another. -/
def attended (k : κ) (script : κ → Notice → Margin κ (List Sighting) → List Command × Bool) :
    Nat → Reaction κ (List Sighting)
  | 0 => fun j n s =>
    if j = k then ({ s with shared := s.shared ++ [⟨n, s.stored⟩] }, false)
    else (s, (script j n s).2)
  | depth + 1 => fun j n s =>
    if j = k then ({ s with shared := s.shared ++ [⟨n, s.stored⟩] }, false)
    else (performAll (attended k script depth) s (script j n s).1, (script j n s).2)

theorem notes_attended (k : κ)
    (script : κ → Notice → Margin κ (List Sighting) → List Command × Bool) (depth : Nat) :
    Notes (attended k script depth) k id := by
  intro n s
  refine ⟨s.shared ++ [⟨n, s.stored⟩], ?_, rfl⟩
  cases depth <;> simp [attended]

theorem overheard_attended
    {P : Reaction κ (List Sighting) → Margin κ (List Sighting) → Command → Prop}
    {B : Margin κ (List Sighting) → Margin κ (List Sighting) → Prop} {k : κ}
    {script : κ → Notice → Margin κ (List Sighting) → List Command × Bool}
    (hP : ∀ j n s, ∀ c ∈ (script j n s).1, ∀ g t, P g t c) (depth : Nat) :
    Overheard P B k id (attended k script depth) := by
  induction depth with
  | zero =>
    refine .aloof (notes_attended k script 0) fun j hj n s => ?_
    simp only [attended, if_neg hj]
    exact .refl
  | succ depth ih =>
    refine .calls (fun _ _ _ => attended k script depth) (notes_attended k script (depth + 1))
      (fun _ _ _ => ih) fun j hj n s => ?_
    simp only [attended, if_neg hj]
    exact run_performAll _ s fun c hc t => hP j n s c hc _ t

end Margin

end Scriptorium
