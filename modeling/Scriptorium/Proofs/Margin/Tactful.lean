import Scriptorium.Proofs.Margin.Woven

/-!
Listeners that call back. While an operation is under way, the weave has a hole, and what a listener
does then must not make it larger. `Tactful` listeners keep the weave with just the hole that it has,
whichever that is, and bring nothing new into the margin (`Lessens`); that is all that operations
have to know of them.

Listeners that delete markers and take bookmarks out are tactful, even though each of these deletions
has listeners of its own (`tactful_of_lawful`). A marker that is deleted in the middle of another
deletion is one more that bookmarks have to hear of, and they have when its own deletion is over. Only
of a raw marker its bookmark does not hear; whether that was deleted is for the operation to ask that
made it.
-/

namespace Scriptorium
set_option autoImplicit false

namespace Margin
variable {κ ω : Type}

/-- No marker has come to be live or to be that of a bookmark. -/
structure Lessens (s t : Margin κ ω) : Prop where
  bookmarks : t.bookmarks.size = s.bookmarks.size
  markers : t.markers.size = s.markers.size
  live : ∀ m ∈ t.live, m ∈ s.live
  marker : ∀ b m, (t.bookmark b).marker = some m → (s.bookmark b).marker = some m

namespace Lessens
variable {s t u : Margin κ ω}

theorem refl (s : Margin κ ω) : Lessens s s :=
  ⟨rfl, rfl, fun _ => id, fun _ _ => id⟩

theorem trans (hst : Lessens s t) (htu : Lessens t u) : Lessens s u where
  bookmarks := htu.bookmarks.trans hst.bookmarks
  markers := htu.markers.trans hst.markers
  live m hm := hst.live m (htu.live m hm)
  marker b m hm := hst.marker b m (htu.marker b m hm)

theorem alike (hst : Alike s t) : Lessens s t where
  bookmarks := by rw [hst.bookmarks]
  markers := hst.made
  live m hm := hst.live ▸ hm
  marker b m hm := hst.bookmark b ▸ hm

theorem log (s : Margin κ ω) (e : Entry) : Lessens s (s.log e) := alike (.log s e)

theorem unlived (s : Margin κ ω) (m : MarkerId) : Lessens s (s.unlived m) :=
  ⟨rfl, rfl, fun _ hn => (List.mem_filter.mp hn).1, fun _ _ => id⟩

theorem without (s : Margin κ ω) {b : BookmarkId} (hb : b < s.bookmarks.size) :
    Lessens s (s.without b) where
  bookmarks := Registry.size_modify_of_lt _ hb _
  markers := rfl
  live _ := id
  marker _ _ hm := (marker_without.mp hm).1

theorem release (s : Margin κ ω) (b : BookmarkId) (m : MarkerId) :
    Lessens s (s.release b m).1 := by
  by_cases hm : (s.bookmark b).marker = some m
  · -- whatever became of the tracker
    have hforgets : ∀ u : Tracker, Lessens s
        ({ s with tracker := u }.modifyBookmark b fun x => { x with marker := none }) := by
      intro u
      refine ⟨?_, rfl, fun _ => id, ?_⟩
      · exact Registry.size_modify_of_lt _ (lt_size_of_marker hm) _
      · exact fun c n hn => (marker_forget.mp hn).1
    unfold Margin.release
    rw [if_pos hm]
    dsimp only
    split
    · split
      · exact hforgets _
      · exact hforgets s.tracker
    · exact hforgets s.tracker
  · rw [Margin.release, if_neg hm]
    exact refl s

end Lessens

/-- Listeners that make no hole in the weave larger and take things away at most. -/
def Tactful (τ : Prop) (h : Reaction κ ω) : Prop :=
  ∀ k n s gone raw, Woven τ gone raw s →
    Woven τ gone raw (h k n s).1 ∧ Lessens s (h k n s).1

theorem woven_log {τ : Prop} {gone : List MarkerId} {raw : Option MarkerId} (s : Margin κ ω)
    (e : Entry) (hs : Woven τ gone raw s) : Woven τ gone raw (s.log e) := hs.alike (.log s e)

theorem removeMarker_of_mem {s : Margin κ ω} {m : MarkerId} (h : Reaction κ ω) (hm : m ∈ s.live) :
    (removeMarker h s m).1 = notifyDeleted h
      (notifyMarkerRedraw h ((s.unlived m).log ((s.unlived m).removalEntry m)) m) m := by
  rw [removeMarker, if_pos hm]
  rfl

theorem removeMarker_of_not_mem {s : Margin κ ω} {m : MarkerId} (h : Reaction κ ω)
    (hm : m ∉ s.live) : (removeMarker h s m).1 = s := by
  rw [removeMarker, if_neg hm]

section Listeners
variable {τ : Prop} {h : Reaction κ ω} {s t : Margin κ ω} {gone : List MarkerId}
variable {raw : Option MarkerId} {b : BookmarkId} {m : MarkerId}

namespace Tactful
variable (hh : Tactful τ h)
include hh

theorem heeds (s : Margin κ ω) (gone : List MarkerId) (raw : Option MarkerId) :
    Heeds h fun t => Woven τ gone raw t ∧ Lessens s t := by
  rintro k n t ⟨ht, hst⟩
  obtain ⟨hu, htu⟩ := hh k n t gone raw ht
  exact ⟨hu, hst.trans htu⟩

theorem redraw (hs : Woven τ gone raw s) :
    Woven τ gone raw (notifyRedraw h s) ∧ Lessens s (notifyRedraw h s) :=
  notifyRedraw_keeps (hh.heeds s gone raw)
    (fun t e ht => ⟨woven_log t e ht.1, ht.2.trans (.log t e)⟩) ⟨hs, .refl s⟩

theorem changed (b : BookmarkId) (removed : Bool) (hs : Woven τ gone raw s) :
    Woven τ gone raw (notifyChanged h s b removed) ∧ Lessens s (notifyChanged h s b removed) :=
  notifyChanged_keeps (hh.heeds s gone raw)
    (fun t e ht => ⟨woven_log t e ht.1, ht.2.trans (.log t e)⟩) b removed ⟨hs, .refl s⟩

theorem markerRedraw (m : MarkerId) (hs : Woven τ gone raw s) :
    Woven τ gone raw (notifyMarkerRedraw h s m) ∧ Lessens s (notifyMarkerRedraw h s m) :=
  notifyMarkerRedraw_keeps (hh.heeds s gone raw)
    (fun t e ht => ⟨woven_log t e ht.1, ht.2.trans (.log t e)⟩) m ⟨hs, .refl s⟩

theorem announce (removed : List BookmarkId) (anchors : List Anchor) (hs : Woven τ gone raw s) :
    Woven τ gone raw (announce h s removed anchors) ∧ Lessens s (announce h s removed anchors) :=
  announce_keeps (hh.heeds s gone raw)
    (fun t e ht => ⟨woven_log t e ht.1, ht.2.trans (.log t e)⟩) removed anchors ⟨hs, .refl s⟩

/-- When all who listen to a marker were told that it is gone, no bookmark has it any more but that
of a raw one. -/
theorem deleted (hs : Woven τ (m :: gone) raw s) :
    Woven τ gone raw (notifyDeleted h s m) ∧ Lessens s (notifyDeleted h s m) := by
  have hgone : m ∈ m :: gone := List.mem_cons_self
  have hcall : ∀ x t, Woven τ (m :: gone) raw t →
      Woven τ (m :: gone) raw (callWatcher h m x t).1 ∧ Lessens t (callWatcher h m x t).1 := by
    intro x t ht
    cases x with
    | owner b => exact ⟨(ht.release b hgone).1, .release t b m⟩
    | outside k => exact hh k _ t _ _ ht
  have hcalls : ∀ x ∈ (s.marker m).deleted.listeners, ∀ t,
      Woven τ (m :: gone) raw t ∧ Lessens s t →
      Woven τ (m :: gone) raw (callWatcher h m x t).1 ∧ Lessens s (callWatcher h m x t).1 := by
    rintro x _ t ⟨ht, hst⟩
    obtain ⟨hu, htu⟩ := hcall x t ht
    exact ⟨hu, hst.trans htu⟩
  have hreport : ∀ (f : Margin κ ω → Entry) (t : Margin κ ω),
      Woven τ (m :: gone) raw t ∧ Lessens s t →
      Woven τ (m :: gone) raw (t.log (f t)) ∧ Lessens s (t.log (f t)) :=
    fun f t ht => ⟨woven_log t _ ht.1, ht.2.trans (.log t _)⟩
  obtain ⟨hwoven, hless⟩ := deliver_induction (callWatcher h m) _ hcalls (hreport _) ⟨hs, .refl s⟩
  -- each bookmark that was told has let go, and none takes the marker again
  have htold : ∀ x ∈ (s.marker m).deleted.listeners, ∀ b, x = .owner b →
      ((notifyDeleted h s m).bookmark b).marker ≠ some m := by
    refine deliver_each (P := fun x t => ∀ b, x = .owner b → (t.bookmark b).marker ≠ some m)
      (callWatcher h m) _ hcalls (hreport _) ?_ ?_ (fun _ _ => id) ⟨hs, .refl s⟩
    · rintro x _ t ⟨ht, -⟩ b rfl
      exact (ht.release b hgone).2
    · rintro x y _ t ⟨ht, -⟩ hx b rfl heq
      exact hx b rfl ((hcall y t ht).2.marker b m heq)
  refine ⟨hwoven.close ?_, hless⟩
  intro hraw b hb
  obtain ⟨_, _, hheard⟩ := hs.shown b m (hless.marker b m hb)
  exact htold _ (hheard hraw).1 b rfl hb

theorem removeMarker_unlived (m : MarkerId) (hs : Woven τ gone raw s) :
    Woven τ gone raw (removeMarker h s m).1 ∧ Lessens (s.unlived m) (removeMarker h s m).1 := by
  by_cases hm : m ∈ s.live
  · rw [removeMarker_of_mem h hm]
    obtain ⟨ht, hless⟩ := hh.markerRedraw m (woven_log _ ((s.unlived m).removalEntry m)
      (hs.unlived hm))
    have hst := (Lessens.log (s.unlived m) ((s.unlived m).removalEntry m)).trans hless
    obtain ⟨hu, htu⟩ := hh.deleted ht
    exact ⟨hu, hst.trans htu⟩
  · rw [removeMarker_of_not_mem h hm]
    refine ⟨hs, rfl, rfl, ?_, fun _ _ => id⟩
    intro n hn
    exact List.mem_filter.mpr ⟨hn, decide_eq_true fun hnm : n = m => hm (hnm ▸ hn)⟩

theorem removeMarker (m : MarkerId) (hs : Woven τ gone raw s) :
    Woven τ gone raw (removeMarker h s m).1 ∧ Lessens s (removeMarker h s m).1 := by
  obtain ⟨ht, hst⟩ := hh.removeMarker_unlived m hs
  exact ⟨ht, (Lessens.unlived s m).trans hst⟩

/-- A bookmark lets go of its marker before that is deleted. -/
theorem discard (hb : b < s.bookmarks.size) (hs : Woven τ gone raw s) :
    Woven τ gone raw (discard h s b) ∧ Lessens s (discard h s b) := by
  rw [discard_eq]
  split
  · rename_i m hm
    have hown : ∀ n, (s.bookmark b).marker = some n → n = m :=
      fun n hn => Option.some_inj.mp (hn.symm.trans hm)
    by_cases hlive : m ∈ s.live
    · have hlive' : m ∈ (s.without b).live := hlive
      -- the bookmark is taken out first, but the weave allows it only when the marker is gone
      rw [removeMarker_of_mem h hlive', without_unlived]
      have hwithout := (hs.unlived hlive).without hb fun n hn hbn =>
        absurd (hown n hbn) (of_decide_eq_true (List.mem_filter.mp hn).2)
      obtain ⟨ht, hless⟩ := hh.markerRedraw m
        (woven_log _ (((s.unlived m).without b).removalEntry m) hwithout)
      have hst := (((Lessens.unlived s m).trans (.without _ hb)).trans (.log _ _)).trans hless
      obtain ⟨hu, htu⟩ := hh.deleted ht
      exact ⟨hu, hst.trans htu⟩
    · have hlive' : m ∉ (s.without b).live := hlive
      rw [removeMarker_of_not_mem h hlive']
      exact ⟨hs.without hb fun n hn hbn => hlive (hown n hbn ▸ hn), .without s hb⟩
  · rename_i hm
    refine ⟨hs.without hb ?_, .without s hb⟩
    exact fun n _ hn => absurd (hm.symm.trans hn) (Option.some_ne_none n).symm

theorem remove (b : BookmarkId) (hs : Woven τ gone raw s) :
    Woven τ gone raw (remove h s b).1 ∧ Lessens s (remove h s b).1 := by
  unfold Margin.remove
  split
  · rename_i hb
    obtain ⟨ht, hst⟩ := hh.discard (hs.known b hb) hs
    obtain ⟨hu, htu⟩ := hh.redraw ht
    obtain ⟨hv, huv⟩ := hh.changed b true hu
    exact ⟨hv, (hst.trans htu).trans huv⟩
  · exact ⟨hs, .refl s⟩

theorem setStyle (hm : m < s.markers.size) (p : StyleProperty) (v : Option String)
    (hs : Woven τ gone raw s) :
    Woven τ gone raw (setStyle h s m p v) ∧ Lessens s (setStyle h s m p v) := by
  unfold Margin.setStyle
  split
  · exact ⟨hs, .refl s⟩
  · have hstyle : Alike s (s.modifyMarker m fun x => { x with style := x.style.set v p }) :=
      .modifyMarker s hm (fun _ => rfl) (fun _ => rfl) fun _ _ => Iff.rfl
    obtain ⟨ht, hst⟩ := hh.markerRedraw m (hs.alike hstyle)
    exact ⟨ht, (Lessens.alike hstyle).trans hst⟩

end Tactful

theorem Aloof.tactful [DecidableEq κ] (ha : Aloof h) : Tactful τ h := by
  intro k n s gone raw hs
  have hkept : Heeds h fun t => Woven τ gone raw t ∧ Lessens s t := by
    refine heeds_of_aloof ha ?_
    rintro t u hstep ⟨ht, hst⟩
    have hsame := Alike.aside hstep
    exact ⟨ht.alike hsame, hst.trans (.alike hsame)⟩
  exact hkept k n s ⟨hs, .refl s⟩

/-- The command takes a marker or a bookmark away. -/
def Command.Withdraws (_ : Margin κ ω) : Command → Prop
  | .remove _ | .deleteMarker _ | .removeMarker _ => True
  | _ => False

theorem Tactful.withdraw (hh : Tactful τ h) {c : Command} (hc : c.Withdraws s)
    (hs : Woven τ gone raw s) :
    Woven τ gone raw (perform h s c).1 ∧ Lessens s (perform h s c).1 := by
  cases c with
  | remove b => exact hh.remove b hs
  | deleteMarker m => exact hh.removeMarker m hs
  | removeMarker m => exact hh.removeMarker m hs
  | _ => exact hc.elim

/-- To any depth, listeners that only take things away are tactful. -/
theorem tactful_of_lawful [DecidableEq κ] (hl : Lawful Command.Withdraws h) : Tactful τ h := by
  -- whatever the margin was at first and whatever hole there is
  have hheeds := hl.heeds
    (J := fun (i : Margin κ ω × List MarkerId × Option MarkerId) t =>
      Woven τ i.2.1 i.2.2 t ∧ Lessens i.1 t) ?_ ?_
  · intro k n s gone raw hs
    exact hheeds ⟨s, gone, raw⟩ k n s ⟨hs, .refl s⟩
  · rintro g hg ⟨r, gone, raw⟩ s c hc ⟨hs, hr⟩
    have hh : Tactful τ g := fun k n u gone raw hu => hg ⟨u, gone, raw⟩ k n u ⟨hu, .refl u⟩
    obtain ⟨ht, hst⟩ := hh.withdraw hc hs
    exact ⟨ht, hr.trans hst⟩
  · rintro ⟨r, gone, raw⟩ s t hstep ⟨hs, hr⟩
    have hsame := Alike.aside hstep
    exact ⟨hs.alike hsame, hr.trans (.alike hsame)⟩

end Listeners

end Margin

end Scriptorium
