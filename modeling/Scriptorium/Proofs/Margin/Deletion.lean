import Scriptorium.Proofs.Margin.Account

/-!
The end of a marker is told of once. Whichever commands are given, and whatever listeners do in the
middle of them, a listener of a marker that is gone has been told so once for each of its
subscriptions, one of a marker that is live not at all, and a marker that is gone stays so.

A marker leaves the live ones before anyone is told, so that to delete it again in the middle of its
deletion does nothing. Until all its listeners are told, the account of a listener is out by the
notices that are still to come, whatever happens meanwhile (`Tolled`).
-/

namespace Scriptorium
set_option autoImplicit false

namespace Margin
variable {κ ω : Type}

/-- How often it was heard that the marker is gone. -/
def tolls (m : MarkerId) (l : List Sighting) : Nat := l.countP fun x => x.notice = .markerDeleted m

theorem tolls_concat (m : MarkerId) (l : List Sighting) (x : Sighting) :
    tolls m (l ++ [x]) = tolls m l + if x.notice = .markerDeleted m then 1 else 0 := by
  simp [tolls, List.countP_singleton]

variable [DecidableEq κ]

/-- How often `k` is to be called when the marker is deleted. -/
def calls (s : Margin κ ω) (k : κ) (m : MarkerId) : Nat :=
  (s.marker m).deleted.listeners.count (.outside k)

/-- A change beside the commands that leaves the record of `k` alone, and its subscriptions to what
is not live. -/
structure Untolled (k : κ) (heard : ω → List Sighting) (s t : Margin κ ω) : Prop where
  aside : Aside s t
  heard : heard t.shared = heard s.shared
  calls : ∀ m, m ∉ s.live → t.calls k m = s.calls k m

/-- What `k` was told of the end of the marker, against what it should have been told: these differ
by `q`. -/
structure Tolled (k : κ) (heard : ω → List Sighting) (m : MarkerId) (q : ℤ) (s : Margin κ ω) :
    Prop where
  made : m ∈ s.live → m < s.markers.size
  balance : (tolls m (heard s.shared) : ℤ) = (if m ∈ s.live then 0 else s.calls k m : ℕ) + q

/-- The marker is gone, and `k` was to be called `n` times. -/
structure Gone (k : κ) (m : MarkerId) (n : Nat) (s : Margin κ ω) : Prop where
  made : m < s.markers.size
  dead : m ∉ s.live
  calls : s.calls k m = n

/-- So many deletions as the journal tells of have been carried out at most: one for each marker
that is not live any more. -/
def Counted (s : Margin κ ω) : Prop := removals s.journal + s.live.length ≤ s.markers.size

theorem Aside.live_markers {s t : Margin κ ω} (ha : Aside s t) :
    t.live = s.live ∧ s.markers.size ≤ t.markers.size ∧ t.journal = s.journal := by
  cases ha with
  | share => exact ⟨rfl, Nat.le_refl _, rfl⟩
  | subscribe k c =>
    cases c with
    | markerDeleted m => exact ⟨rfl, Registry.size_le_size_modify _ m _, rfl⟩
    | _ => exact ⟨rfl, Nat.le_refl _, rfl⟩
  | unsubscribe k c =>
    cases c with
    | markerDeleted m => exact ⟨rfl, Registry.size_le_size_modify _ m _, rfl⟩
    | _ => exact ⟨rfl, Nat.le_refl _, rfl⟩

variable {k : κ} {heard : ω → List Sighting} {h : Reaction κ ω} {s t : Margin κ ω} {m : MarkerId}
variable {q : ℤ} {n : Nat}

theorem calls_marked (s : Margin κ ω) (u : Tracker) (i : SpanId) (k : κ) (m : MarkerId) :
    (s.marked u i).calls k m = if m = s.markers.size then 0 else s.calls k m := by
  unfold calls
  rw [marker_marked]
  split <;> rfl

theorem calls_of_size_le (hm : s.markers.size ≤ m) : s.calls k m = 0 := by
  have hdefault : s.marker m = default := Registry.get_of_size_le _ hm
  rw [calls, hdefault]
  rfl

omit [DecidableEq κ] in
theorem size_marked (s : Margin κ ω) (u : Tracker) (i : SpanId) :
    (s.marked u i).markers.size = s.markers.size + 1 := Registry.size_push _ _

theorem kept_gone (k : κ) (m : MarkerId) (n : Nat) : Kept (Gone k m n : Margin κ ω → Prop) where
  silent s t hst hs :=
    ⟨Nat.lt_of_lt_of_le hs.made hst.markers, hst.live.symm ▸ hs.dead,
      (hst.callers m k).trans hs.calls⟩
  make s u i hs := by
    have hne : m ≠ s.markers.size := Nat.ne_of_lt hs.made
    refine ⟨?_, ?_, ?_⟩
    · exact size_marked s u i ▸ Nat.lt_succ_of_lt hs.made
    · simp [Margin.marked, hs.dead, hne]
    · rw [calls_marked, if_neg hne]
      exact hs.calls
  unlive s l _ hs := ⟨hs.made, fun hm => hs.dead (List.mem_filter.mp hm).1, hs.calls⟩
  enter _ _ _ _ hs := ⟨hs.made, hs.dead, hs.calls⟩
  report _ _ hs := ⟨hs.made, hs.dead, hs.calls⟩
  leave _ _ _ hs := ⟨hs.made, hs.dead, hs.calls⟩

theorem removals_concat (j : Journal) (e : Entry) :
    removals (j ++ [e]) = removals j + if e.isRemoval then 1 else 0 := by
  simp [removals, List.countP_singleton]

omit [DecidableEq κ] in
theorem isRemoval_removalEntry (s : Margin κ ω) (m : MarkerId) :
    (s.removalEntry m).isRemoval = true := by
  simp only [Entry.isRemoval, removalEntry, String.toList_append, List.append_assoc,
    List.isPrefixOf_iff_prefix]
  exact List.prefix_append _ _

theorem kept_counted : Kept (Counted : Margin κ ω → Prop) where
  silent s t hst hs := by
    unfold Counted
    rw [hst.removals, hst.live]
    exact Nat.le_trans hs hst.markers
  make s u i hs := by
    unfold Counted at hs ⊢
    rw [size_marked, show (s.marked u i).live = s.live ++ [s.markers.size] from rfl,
      show (s.marked u i).journal = s.journal from rfl, List.length_append, List.length_singleton]
    omega
  unlive s m hm hs := by
    have hshorter : (s.live.filter (· ≠ m)).length < s.live.length :=
      List.length_filter_lt_length_iff_exists.mpr ⟨m, hm, by simp⟩
    unfold Counted at hs ⊢
    rw [show ((s.unlived m).log ((s.unlived m).removalEntry m)).journal =
      s.journal ++ [(s.unlived m).removalEntry m] from rfl, removals_concat, isRemoval_removalEntry]
    simp only [Margin.log, Margin.unlived, if_true]
    omega
  enter _ _ _ _ hs := hs
  report _ _ hs := hs
  leave _ _ _ hs := hs

section Tolled

/-- Only the notice that the marker is gone counts. -/
def toll (m : MarkerId) (n : Notice) : ℤ := if n = .markerDeleted m then 1 else 0

theorem accounts_tolled (hn : Notes h k heard) (hm : Minds h k (Tolled k heard m)) :
    Accounts h k (Tolled k heard m) (toll m) where
  others := hm
  self n q s hs := by
    obtain ⟨w, hw, hheard⟩ := hn n s
    rw [hw]
    refine ⟨hs.made, ?_⟩
    have hbalance := hs.balance
    change (tolls m (heard w) : ℤ) = (if m ∈ s.live then 0 else s.calls k m : ℕ) + (q + toll m n)
    rw [hheard, tolls_concat, ← add_assoc, ← hbalance, toll]
    push_cast
    rfl
  silent q s t hst hs := by
    refine ⟨fun hlive => Nat.lt_of_lt_of_le (hs.made (hst.live ▸ hlive)) hst.markers, ?_⟩
    have hcalls : t.calls k m = s.calls k m := hst.callers m k
    rw [hst.shared, hst.live, hcalls]
    exact hs.balance

variable (hJ : Accounts h k (Tolled k heard m) (toll m)) (hg : ∀ n, Heeds h (Gone k m n))
include hJ

omit hJ in
theorem gone_unlived (hm : m < s.markers.size) (e : Entry) :
    Gone k m (s.calls k m) ((s.unlived m).log e) :=
  ⟨hm, by simp [Margin.unlived, Margin.log], rfl⟩

omit hJ in
/-- The marker leaves, and each subscription is one notice that is still to come. -/
theorem Tolled.unlived (hlive : m ∈ s.live) (hs : Tolled k heard m q s) (e : Entry) :
    Tolled k heard m (q - s.calls k m) ((s.unlived m).log e) := by
  have hdead : m ∉ ((s.unlived m).log e).live := by simp [Margin.unlived, Margin.log]
  refine ⟨fun hm => absurd hm hdead, ?_⟩
  have hbalance := hs.balance
  rw [if_pos hlive, Nat.cast_zero, zero_add] at hbalance
  rw [if_neg hdead]
  change (tolls m (heard s.shared) : ℤ) = s.calls k m + (q - s.calls k m)
  rw [hbalance]
  ring

omit hJ in
theorem Tolled.unlived_of_ne {n : MarkerId} (hne : n ≠ m) (hs : Tolled k heard m q s) (e : Entry) :
    Tolled k heard m q ((s.unlived n).log e) := by
  have hsame : m ∈ ((s.unlived n).log e).live ↔ m ∈ s.live := by
    simp [Margin.unlived, Margin.log, Ne.symm hne]
  refine ⟨fun hm => hs.made (hsame.mp hm), ?_⟩
  simp only [hsame]
  exact hs.balance

include hg in
theorem removeMarker_tolled (n : MarkerId) (hs : Tolled k heard m q s) :
    Tolled k heard m q (removeMarker h s n).1 := by
  by_cases hlive : n ∈ s.live
  · rw [removeMarker_of_mem h hlive]
    by_cases hnm : n = m
    · subst hnm
      have hgone := gone_unlived (k := k) (hs.made hlive) ((s.unlived n).removalEntry n)
      -- the listeners of the redraw can neither bring the marker back nor touch its subscriptions
      have hredrawn := (kept_gone k n _).markerRedraw (hg _) n hgone
      have howing := hJ.markerRedraw n (hs.unlived hlive ((s.unlived n).removalEntry n))
      have hdone := hJ.deleted n howing
      have hcalls : (notifyMarkerRedraw h ((s.unlived n).log ((s.unlived n).removalEntry n)) n).calls
          k n = s.calls k n := hredrawn.calls
      unfold calls at hcalls
      rw [hcalls] at hdone
      simpa [toll, calls] using hdone
    · have hredrawn := hJ.markerRedraw n (hs.unlived_of_ne hnm ((s.unlived n).removalEntry n))
      have hdone := hJ.deleted n hredrawn
      simpa [toll, hnm] using hdone
  · rwa [removeMarker_of_not_mem h hlive]

include hg in
theorem carries_tolled : Carries h (Tolled k heard m) fun _ => 0 where
  silent := hJ.silent
  make q s u i hs := by
    have hbalance := hs.balance
    by_cases hm : m = s.markers.size
    · have hnew : m ∉ s.live := fun hlive => Nat.lt_irrefl _ (hm ▸ hs.made hlive)
      have hlive : m ∈ (s.marked u i).live := by simp [Margin.marked, hm]
      refine ⟨fun _ => size_marked s u i ▸ Nat.lt_succ_of_le (Nat.le_of_eq hm), ?_⟩
      rw [if_neg hnew, calls_of_size_le (Nat.le_of_eq hm.symm)] at hbalance
      rw [if_pos hlive]
      exact hbalance
    · have hsame : m ∈ (s.marked u i).live ↔ m ∈ s.live := by simp [Margin.marked, hm]
      refine ⟨fun hlive => size_marked s u i ▸ Nat.lt_succ_of_lt (hs.made (hsame.mp hlive)), ?_⟩
      rw [calls_marked, if_neg hm]
      simp only [hsame]
      exact hbalance
  restyle q s n hs := by simpa [toll] using hJ.markerRedraw n hs
  delete _ _ n hs := removeMarker_tolled hJ hg n hs
  enter q _ _ _ _ hs := (add_zero q).symm ▸ ⟨hs.made, hs.balance⟩
  report q _ _ hs := (add_zero q).symm ▸ ⟨hs.made, hs.balance⟩
  leave q _ _ _ hs := (add_zero q).symm ▸ ⟨hs.made, hs.balance⟩
  tell q s b removed hs := by simpa [toll] using hJ.changed b removed hs
  redraw q s hs := by simpa [toll] using hJ.redraw hs

end Tolled

section Overheard

/-- Listeners of which `k` takes notes and the others give whatever commands they like. -/
abbrev Told (k : κ) (heard : ω → List Sighting) (h : Reaction κ ω) : Prop :=
  Overheard (fun _ s c => c.Made s) (Untolled k heard) k heard h

variable (hh : Told k heard h)

theorem Untolled.gone (hst : Untolled k heard s t) (hs : Gone k m n s) : Gone k m n t := by
  obtain ⟨hlive, hmarkers, _⟩ := hst.aside.live_markers
  exact ⟨Nat.lt_of_lt_of_le hs.made hmarkers, hlive.symm ▸ hs.dead,
    (hst.calls m hs.dead).trans hs.calls⟩

theorem Untolled.tolled (hst : Untolled k heard s t) (hs : Tolled k heard m q s) :
    Tolled k heard m q t := by
  obtain ⟨hlive, hmarkers, _⟩ := hst.aside.live_markers
  refine ⟨fun hm => Nat.lt_of_lt_of_le (hs.made (hlive ▸ hm)) hmarkers, ?_⟩
  have hbalance := hs.balance
  rw [hst.heard, hlive]
  by_cases hm : m ∈ s.live
  · simpa only [if_pos hm] using hbalance
  · rw [hst.calls m hm]
    exact hbalance

include hh

theorem Told.heeds_gone (n : Nat) : Heeds h (Gone k m n) :=
  hh.heeds (kept_gone k m n) (fun _ _ hs => ⟨hs.made, hs.dead, hs.calls⟩) (fun _ _ => Untolled.gone)
    fun _ _ _ => id

theorem Told.carries : Carries h (Tolled k heard m) fun _ => 0 := by
  have hcarries : ∀ g, Told k heard g → Minds g k (Tolled k heard m) →
      Carries g (Tolled k heard m) fun _ => 0 := by
    intro g hg hm
    exact carries_tolled (accounts_tolled hg.notes hm) fun n => hg.heeds_gone n
  refine hcarries h hh (hh.minds ?_ fun _ _ _ => Untolled.tolled)
  intro g hg hm q s c hc hs
  simpa [worth] using (hcarries g hg hm).perform hc hs

theorem Told.lawful : Lawful Command.Made h :=
  Overheard.lawful (fun _ _ _ => id) (fun _ _ => Untolled.aside) hh

end Overheard

section Run
variable {lineCount : Option Int} {w : ω}

/-- Whenever no command is under way, who listens to a marker was told of its end once for each of
its subscriptions, or not at all if the marker is live. No more deletions were carried out than
markers are gone; whatever happens next, a marker that is gone stays so and cannot be deleted
again, and one that is live can. -/
theorem deleted_once (hh : Told k heard h) (hw : heard w = [])
    (hr : Run Command.Made (Untolled k heard) h (empty lineCount w) s) :
    (∀ m, tolls m (heard s.shared) = if m ∈ s.live then 0 else s.calls k m) ∧
    removals s.journal + s.live.length ≤ s.markers.size ∧
    (∀ t, Run Command.Made (Untolled k heard) h s t → ∀ m < s.markers.size, m ∉ s.live →
      m ∉ t.live ∧ removeMarker h t m = (t, false)) ∧
    ∀ m ∈ s.live, (removeMarker h s m).2 = true ∧ m ∉ (removeMarker h s m).1.live := by
  have htolled : ∀ m, Tolled k heard m 0 s := by
    intro m
    refine run_induction (I := Tolled k heard m 0) ?_ (fun _ _ => Untolled.tolled) hr ⟨?_, ?_⟩
    · intro t c hc ht
      simpa [worth] using hh.carries.perform hc ht
    · intro hm
      cases hm
    · have hcalls : (empty lineCount w : Margin κ ω).calls k m = 0 :=
        calls_of_size_le (Nat.zero_le m)
      change (tolls m (heard w) : ℤ) = _
      rw [hw, if_neg (by simp [empty]), hcalls]
      rfl
  refine ⟨fun m => ?_, ?_, ?_, ?_⟩
  · have hbalance := (htolled m).balance
    rw [add_zero] at hbalance
    exact_mod_cast hbalance
  · refine kept_counted.run ?_ hh.lawful (run_mono (fun _ _ => id) (fun _ _ => Untolled.aside) hr) ?_
    · intro t u ha ht
      obtain ⟨hlive, hmarkers, hjournal⟩ := ha.live_markers
      unfold Counted
      rw [hlive, hjournal]
      exact Nat.le_trans ht hmarkers
    · simp [Counted, empty, removals]
  · intro t ht m hm hdead
    have hgone : Gone k m (s.calls k m) t := by
      refine run_induction (I := Gone k m (s.calls k m)) ?_ (fun _ _ => Untolled.gone) ht
        ⟨hm, hdead, rfl⟩
      exact fun u c hc hu => (kept_gone k m _).perform (hh.heeds_gone _) hc hu
    exact ⟨hgone.dead, by rw [removeMarker, if_neg hgone.dead]⟩
  · intro m hm
    refine ⟨by rw [removeMarker, if_pos hm], ?_⟩
    have hkept := kept_gone (ω := ω) k m (s.calls k m)
    have hgone := gone_unlived (k := k) ((htolled m).made hm) ((s.unlived m).removalEntry m)
    rw [removeMarker_of_mem h hm]
    exact (hkept.deleted (hh.heeds_gone _) m (hkept.markerRedraw (hh.heeds_gone _) m hgone)).dead

end Run

/-- Whoever subscribes to a live marker leaves the accounts of those that are gone alone. -/
theorem Untolled.subscribe (s : Margin κ ω) (j : κ) {c : Channel}
    (hlive : ∀ m, c = .markerDeleted m → m < s.markers.size ∧ m ∈ s.live) :
    Untolled k heard s (s.subscribe j c) := by
  refine ⟨.subscribe s j c ?_, by cases c <;> rfl, ?_⟩
  · cases c with
    | markerDeleted n => exact (hlive n rfl).1
    | _ => trivial
  · intro m hm
    cases c with
    | markerDeleted n =>
      have hne : n ≠ m := fun hnm => hm (hnm ▸ (hlive n rfl).2)
      unfold Margin.calls
      simp only [Margin.subscribe, marker_modifyMarker, if_neg hne]
    | _ => rfl

/-- A listener that deletes each marker again as soon as it is told of it, and the next one when it
is gone, and that always fails. -/
def reaper (_ : Bool) (n : Notice) (_ : Margin Bool (List Sighting)) : List Command × Bool :=
  match n with
  | .markerRedraw m => ([.deleteMarker m], true)
  | .markerDeleted m => ([.deleteMarker m, .deleteMarker (m + 1)], true)
  | _ => ([], false)

def unreaped : Margin Bool (List Sighting) :=
  performAll (attended true reaper 4) (empty none [])
    [.createMarker ⟨0, 3⟩, .createMarker ⟨5, 2⟩, .createMarker ⟨9, 1⟩]

/-- One listens to two of the three markers, to the first twice. That one is styled. -/
def reaped : Margin Bool (List Sighting) :=
  performAll (attended true reaper 4)
    (((((unreaped.subscribe true (.markerDeleted 0)).subscribe false .markerRedraw).subscribe false
      (.markerDeleted 0)).subscribe true (.markerDeleted 0)).subscribe true (.markerDeleted 1))
    [.setStyle 0 .fontWeight (some "bold")]

theorem deleted_once_reaped :
    Told true id (attended true reaper 4) ∧
    Run Command.Made (Untolled true id) (attended true reaper 4) (empty none []) reaped ∧
    reaped.live = [2] ∧ tolls 0 reaped.shared = 2 ∧
    (∀ m, tolls m (id reaped.shared) = if m ∈ reaped.live then 0 else reaped.calls true m) ∧
    removals reaped.journal + reaped.live.length ≤ reaped.markers.size ∧
    (∀ t, Run Command.Made (Untolled true id) (attended true reaper 4) reaped t →
      ∀ m < reaped.markers.size, m ∉ reaped.live →
        m ∉ t.live ∧ removeMarker (attended true reaper 4) t m = (t, false)) ∧
    ∀ m ∈ reaped.live, (removeMarker (attended true reaper 4) reaped m).2 = true ∧
      m ∉ (removeMarker (attended true reaper 4) reaped m).1.live := by
  have hmade : ∀ c : Command, (∀ b, c ≠ .add b) → ∀ t : Margin Bool (List Sighting), c.Made t := by
    intro c hc t
    cases c with
    | add b => exact absurd rfl (hc b)
    | _ => trivial
  have htold : Told true id (attended true reaper 4) := by
    refine overheard_attended (fun j n s c hc g t => hmade c ?_ t) 4
    rintro b rfl
    cases n <;> simp [reaper] at hc
  have hrun : Run Command.Made (Untolled true id) (attended true reaper 4) (empty none []) reaped := by
    have hmakes : Run Command.Made (Untolled true id) (attended true reaper 4) (empty none [])
        unreaped := by
      refine run_performAll _ _ fun c hc t => hmade c ?_ t
      rintro b rfl
      simp at hc
    refine hmakes.trans ?_
    refine .head (.aside (.subscribe _ true (c := .markerDeleted 0) ?_)) ?_
    · rintro _ ⟨⟩
      decide +kernel
    refine .head (.aside (.subscribe _ false (c := .markerRedraw) nofun)) ?_
    refine .head (.aside (.subscribe _ false (c := .markerDeleted 0) ?_)) ?_
    · rintro _ ⟨⟩
      decide +kernel
    refine .head (.aside (.subscribe _ true (c := .markerDeleted 0) ?_)) ?_
    · rintro _ ⟨⟩
      decide +kernel
    refine .head (.aside (.subscribe _ true (c := .markerDeleted 1) ?_)) ?_
    · rintro _ ⟨⟩
      decide +kernel
    exact run_performAll_cons trivial .refl
  exact ⟨htold, hrun, by decide +kernel, by decide +kernel, deleted_once htold rfl hrun⟩

end Margin

end Scriptorium
