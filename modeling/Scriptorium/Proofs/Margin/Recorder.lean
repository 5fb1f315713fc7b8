import Scriptorium.Proofs.Margin.Stable

/-!
A recorder is a listener that writes down each notice it hears, together with what was stored at
that moment. It stands for any listener that keeps an account of the margin: what such a listener
knows is a function of the record.

Between two notices that a bookmark came or went, the margin does a good deal that the account
must not depend on. `Hushed` is the relation between a margin and what becomes of it while no
bookmark comes, goes or moves: other notices may be sent, but none of those.
-/

namespace Scriptorium
set_option autoImplicit false

namespace Margin
variable {κ ω : Type}

/-- What a listener hears, and which bookmarks it finds stored when it hears it. -/
structure Sighting where
  notice : Notice
  stored : List BookmarkId
  deriving DecidableEq, Repr

/-- Listener `k` records what it hears where `heard` finds it. No listener calls the margin back,
falsifies the record or meddles with the subscription of `k`. -/
structure Records [DecidableEq κ] (h : Reaction κ ω) (k : κ) (heard : ω → List Sighting) :
    Prop where
  aloof : Aloof h
  hears : ∀ n s, heard (h k n s).1.shared = heard s.shared ++ [⟨n, s.stored⟩]
  others : ∀ j n s, j ≠ k → heard (h j n s).1.shared = heard s.shared
  attends : ∀ j n s, (h j n s).1.changed.listeners.count k = s.changed.listeners.count k

/-- A change beside the commands that leaves the record and the subscription of `k` alone. -/
structure Undisturbed [DecidableEq κ] (k : κ) (heard : ω → List Sighting) (s t : Margin κ ω) :
    Prop where
  aside : Aside s t
  attends : t.changed.listeners.count k = s.changed.listeners.count k
  heard : heard t.shared = heard s.shared

/-- Nothing is recorded but notices of other kinds. The bookmarks that are stored stay, and none
is forgotten. -/
structure Hushed [DecidableEq κ] (k : κ) (heard : ω → List Sighting) (s t : Margin κ ω) :
    Prop where
  stored : t.stored = s.stored
  grows : s.bookmarks.size ≤ t.bookmarks.size
  attends : t.changed.listeners.count k = s.changed.listeners.count k
  heard : ∃ l, heard t.shared = heard s.shared ++ l ∧
    ∀ x ∈ l, ∀ b removed, x.notice ≠ .changed b removed

variable [DecidableEq κ]

theorem Aside.stored_bookmarks {s t : Margin κ ω} (ha : Aside s t) :
    t.stored = s.stored ∧ t.bookmarks = s.bookmarks := by
  cases ha with
  | share => exact ⟨rfl, rfl⟩
  | subscribe k c => cases c <;> exact ⟨rfl, rfl⟩
  | unsubscribe k c => cases c <;> exact ⟨rfl, rfl⟩

theorem Aloof.stored_bookmarks {h : Reaction κ ω} (ha : Aloof h) (k : κ) (n : Notice)
    (s : Margin κ ω) : (h k n s).1.stored = s.stored ∧ (h k n s).1.bookmarks = s.bookmarks := by
  refine heeds_of_aloof (I := fun t => t.stored = s.stored ∧ t.bookmarks = s.bookmarks) ha ?_ k n s
    ⟨rfl, rfl⟩
  intro t u hstep ht
  obtain ⟨hst, hbk⟩ := hstep.stored_bookmarks
  exact ⟨hst.trans ht.1, hbk.trans ht.2⟩

namespace Hushed
variable {k : κ} {heard : ω → List Sighting} {s t u : Margin κ ω}

theorem of_eq (hstored : t.stored = s.stored) (hgrows : s.bookmarks.size ≤ t.bookmarks.size)
    (hchanged : t.changed = s.changed) (hshared : t.shared = s.shared) : Hushed k heard s t where
  stored := hstored
  grows := hgrows
  attends := by rw [hchanged]
  heard := by
    refine ⟨[], by rw [hshared, List.append_nil], ?_⟩
    intro x hx
    cases hx

theorem refl (s : Margin κ ω) : Hushed k heard s s := .of_eq rfl (Nat.le_refl _) rfl rfl

theorem trans (hst : Hushed k heard s t) (htu : Hushed k heard t u) : Hushed k heard s u where
  stored := htu.stored.trans hst.stored
  grows := Nat.le_trans hst.grows htu.grows
  attends := htu.attends.trans hst.attends
  heard := by
    obtain ⟨l, hl, hquiet⟩ := hst.heard
    obtain ⟨l', hl', hquiet'⟩ := htu.heard
    refine ⟨l ++ l', by rw [hl', hl, List.append_assoc], ?_⟩
    intro x hx
    rcases List.mem_append.mp hx with hx | hx
    · exact hquiet x hx
    · exact hquiet' x hx

theorem log (s : Margin κ ω) (e : Entry) : Hushed k heard s (s.log e) :=
  .of_eq rfl (Nat.le_refl _) rfl rfl

theorem of_undisturbed (hst : Undisturbed k heard s t) : Hushed k heard s t where
  stored := hst.aside.stored_bookmarks.1
  grows := Nat.le_of_eq (by rw [hst.aside.stored_bookmarks.2])
  attends := hst.attends
  heard := by
    refine ⟨[], by rw [hst.heard, List.append_nil], ?_⟩
    intro x hx
    cases hx

/-- Storing other bookmarks at either end makes no difference, if it is the same at both. -/
theorem restrict (hst : Hushed k heard s t) (f : List BookmarkId → List BookmarkId) :
    Hushed k heard { s with stored := f s.stored } { t with stored := f t.stored } :=
  { hst with stored := congrArg f hst.stored }

theorem tracker (s : Margin κ ω) (t : Tracker) : Hushed k heard s { s with tracker := t } :=
  .of_eq rfl (Nat.le_refl _) rfl rfl

theorem modifyMarker (s : Margin κ ω) (m : MarkerId) (f : Marker κ → Marker κ) :
    Hushed k heard s (s.modifyMarker m f) := .of_eq rfl (Nat.le_refl _) rfl rfl

theorem watch (s : Margin κ ω) (b : BookmarkId) (m : MarkerId) :
    Hushed k heard s (s.watch b m) := modifyMarker s m _

theorem modifyBookmark (s : Margin κ ω) (b : BookmarkId) (f : Bookmark → Bookmark) :
    Hushed k heard s (s.modifyBookmark b f) :=
  .of_eq rfl (Registry.size_le_size_modify _ b f) rfl rfl

theorem paired (s : Margin κ ω) (b : BookmarkId) (m : MarkerId) (tooltip : Label → Label) :
    Hushed k heard s (s.paired b m tooltip) := (modifyMarker s m _).trans (modifyBookmark _ b _)

theorem newBookmark (s : Margin κ ω) (kind : Kind) (place : Place) (message : String)
    (marker : Option MarkerId) : Hushed k heard s (s.newBookmark kind place message marker).1 := by
  cases place <;> exact .of_eq rfl (by simp [Margin.newBookmark]) rfl rfl

theorem createMarkerOver {i : SpanId} {m : MarkerId} (ht : s.createMarkerOver i = .ok (t, m)) :
    Hushed k heard s t := by
  unfold Margin.createMarkerOver at ht
  split at ht
  · cases ht
  · cases ht
    exact .of_eq rfl (Nat.le_refl _) rfl rfl

theorem createMarker {x : Span} {m : MarkerId} (ht : s.createMarker x = .ok (t, m)) :
    Hushed k heard s t := by
  unfold Margin.createMarker at ht
  split at ht
  · cases ht
  · rename_i u i _
    exact (tracker s u).trans (createMarkerOver ht)

end Hushed

section Records
variable {h : Reaction κ ω} {k : κ} {heard : ω → List Sighting}

/-- A listener that is called once for each of its subscriptions hears the notice as often. -/
theorem Records.deliver (hrec : Records h k heard) (n : Notice) (f : Margin κ ω → Entry)
    (ks : List κ) (s : Margin κ ω) :
    let t := deliver (fun j s => h j n s) (fun s => s.log (f s)) ks s
    t.stored = s.stored ∧ t.bookmarks = s.bookmarks ∧
      t.changed.listeners.count k = s.changed.listeners.count k ∧
      heard t.shared = heard s.shared ++ List.replicate (ks.count k) ⟨n, s.stored⟩ := by
  induction ks generalizing s with
  | nil => simp
  | cons j ks ih =>
    dsimp only at ih ⊢
    rw [deliver_cons]
    obtain ⟨hst, hbk⟩ := hrec.aloof.stored_bookmarks j n s
    have hatt := hrec.attends j n s
    have hlog : ∀ t : Margin κ ω, (if (h j n s).2 then t.log (f t) else t).stored = t.stored ∧
        (if (h j n s).2 then t.log (f t) else t).bookmarks = t.bookmarks ∧
        (if (h j n s).2 then t.log (f t) else t).changed = t.changed ∧
        (if (h j n s).2 then t.log (f t) else t).shared = t.shared := by
      intro t
      split <;> exact ⟨rfl, rfl, rfl, rfl⟩
    obtain ⟨hlst, hlbk, hlch, hlsh⟩ := hlog (h j n s).1
    obtain ⟨hst', hbk', hatt', hheard'⟩ := ih (if (h j n s).2 then
      ((h j n s).1).log (f (h j n s).1) else (h j n s).1)
    refine ⟨by rw [hst', hlst, hst], by rw [hbk', hlbk, hbk], by rw [hatt', hlch, hatt], ?_⟩
    rw [hheard', hlst, hlsh, hst]
    by_cases hj : j = k
    · subst hj
      rw [hrec.hears, List.count_cons_self, List.replicate_succ, List.append_assoc]
      rfl
    · rw [hrec.others j n s hj, List.count_cons_of_ne hj]

theorem Records.changed (hrec : Records h k heard) (s : Margin κ ω) (b : BookmarkId)
    (removed : Bool) :
    let t := notifyChanged h s b removed
    t.stored = s.stored ∧ t.bookmarks = s.bookmarks ∧
      t.changed.listeners.count k = s.changed.listeners.count k ∧
      heard t.shared = heard s.shared ++
        List.replicate (s.changed.listeners.count k) ⟨.changed b removed, s.stored⟩ :=
  hrec.deliver _ _ _ s

variable (hrec : Records h k heard)
include hrec

theorem hushed_call {n : Notice} (hn : ∀ b removed, n ≠ .changed b removed) (j : κ)
    (s : Margin κ ω) : Hushed k heard s (h j n s).1 := by
  obtain ⟨hst, hbk⟩ := hrec.aloof.stored_bookmarks j n s
  refine ⟨hst, Nat.le_of_eq (by rw [hbk]), hrec.attends j n s, ?_⟩
  by_cases hj : j = k
  · subst hj
    refine ⟨_, hrec.hears n s, ?_⟩
    intro x hx b removed
    obtain rfl := List.mem_singleton.mp hx
    exact hn b removed
  · refine ⟨[], by rw [hrec.others j n s hj, List.append_nil], ?_⟩
    intro x hx
    cases hx

theorem hushed_deliver {n : Notice} (hn : ∀ b removed, n ≠ .changed b removed)
    (f : Margin κ ω → Entry) (ks : List κ) (s : Margin κ ω) :
    Hushed k heard s (deliver (fun j s => h j n s) (fun s => s.log (f s)) ks s) := by
  refine deliver_induction (I := fun t => Hushed k heard s t) _ _ ?_ ?_ (.refl s)
  · intro j _ t ht
    exact ht.trans (hushed_call hrec hn j t)
  · intro t ht
    exact ht.trans (.log t _)

theorem hushed_notifyRedraw (s : Margin κ ω) : Hushed k heard s (notifyRedraw h s) :=
  hushed_deliver hrec (by simp) _ _ s

theorem hushed_notifyMarkerRedraw (s : Margin κ ω) (m : MarkerId) :
    Hushed k heard s (notifyMarkerRedraw h s m) := hushed_deliver hrec (by simp) _ _ s

omit hrec in
theorem hushed_release (s : Margin κ ω) (b : BookmarkId) (m : MarkerId) :
    Hushed k heard s (s.release b m).1 := by
  unfold release
  split
  · have hset : Hushed k heard s (s.modifyBookmark b fun x => { x with marker := none }) :=
      .modifyBookmark s b _
    dsimp only
    split
    · split
      · exact hset.trans (.tracker _ _)
      · exact hset
    · exact hset
  · exact .refl s

theorem hushed_notifyDeleted (s : Margin κ ω) (m : MarkerId) :
    Hushed k heard s (notifyDeleted h s m) := by
  refine deliver_induction (I := fun t => Hushed k heard s t) _ _ ?_ ?_ (.refl s)
  · intro x _ t ht
    cases x with
    | owner b => exact ht.trans (hushed_release t b m)
    | outside j => exact ht.trans (hushed_call hrec (n := .markerDeleted m) (by simp) j t)
  · intro t ht
    exact ht.trans (.log t _)

theorem hushed_removeMarker (s : Margin κ ω) (m : MarkerId) :
    Hushed k heard s (removeMarker h s m).1 := by
  unfold removeMarker
  split
  · refine Hushed.trans ?_ (hushed_notifyDeleted hrec _ m)
    refine Hushed.trans ?_ (hushed_notifyMarkerRedraw hrec _ m)
    exact .of_eq rfl (Nat.le_refl _) rfl rfl
  · exact .refl s

theorem hushed_setStyle (s : Margin κ ω) (m : MarkerId) (p : StyleProperty) (v : Option String) :
    Hushed k heard s (setStyle h s m p v) := by
  unfold setStyle
  split
  · exact .refl s
  · exact (Hushed.modifyMarker s m _).trans (hushed_notifyMarkerRedraw hrec _ m)

theorem hushed_discard (s : Margin κ ω) (b : BookmarkId) :
    Hushed k heard { s with stored := s.stored.filter (· ≠ b) } (discard h s b) := by
  have hwithout : Hushed k heard { s with stored := s.stored.filter (· ≠ b) } (s.without b) :=
    .of_eq rfl (Registry.size_le_size_modify _ b _) rfl rfl
  rw [discard_eq]
  split
  · exact hwithout.trans (hushed_removeMarker hrec _ _)
  · exact hwithout

theorem hushed_discardAll (s : Margin κ ω) (bs : List BookmarkId) :
    Hushed k heard { s with stored := s.stored.filter (· ∉ bs) } (bs.foldl (discard h) s) := by
  induction bs generalizing s with
  | nil =>
    rw [List.filter_eq_self.mpr (by simp)]
    exact .refl s
  | cons b bs ih =>
    have hfirst := (hushed_discard hrec s b).restrict fun l => l.filter (· ∉ bs)
    have hfilter : (s.stored.filter (· ≠ b)).filter (· ∉ bs) = s.stored.filter (· ∉ b :: bs) := by
      rw [List.filter_filter]
      refine List.filter_congr fun c _ => ?_
      simp [Bool.and_comm]
    dsimp only at hfirst
    rw [hfilter] at hfirst
    exact hfirst.trans (ih (discard h s b))

theorem hushed_attachMarker (s : Margin κ ω) (b : BookmarkId) (x : Span) :
    Hushed k heard s (attachMarker h s b x).1 := by
  have hunmarked : Hushed k heard s (unmarked h s b) := by
    unfold unmarked
    split
    · exact hushed_removeMarker hrec s _
    · exact .refl s
  rcases attachMarker_cases h s b x with he | ⟨_, he⟩ | ⟨_, u, m, kind, hu, he⟩
  · rw [he]
    exact .refl s
  · rwa [he]
  · rw [he]
    refine hunmarked.trans ((Hushed.createMarker hu).trans ?_)
    refine ((Hushed.paired u b m id).trans (.watch _ b m)).trans ?_
    exact hushed_setStyle hrec _ m _ _

theorem hushed_markParseError (s : Margin κ ω) (b : BookmarkId) :
    Hushed k heard s (markParseError h s b).1 := by
  cases ha : (s.bookmark b).anchor with
  | line i =>
    rw [markParseError_of_line ha]
    exact .refl s
  | span i =>
    rw [markParseError_of_span ha]
    split
    · exact .refl s
    · rename_i u m hu
      have hpaired : Hushed k heard u (u.paired b m fun _ => .text (u.bookmark b).message) :=
        .paired u b m _
      refine (Hushed.createMarkerOver hu).trans (hpaired.trans ?_)
      exact (hushed_setStyle hrec _ m _ _).trans (.watch _ b m)

end Records

end Margin

end Scriptorium
