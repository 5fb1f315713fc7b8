import Scriptorium.Proofs.Cache.Provenance
import Scriptorium.Session

/-!
A text that was loaded counts as unchanged. A call of the cache may end in many ways, and each has a
text of its own to answer with; but whichever it is, the cache takes that text for what is known of
the document as soon as the call is over. So an editor may hand the text it was given back to the
session, which takes no notice.
-/

namespace Scriptorium
set_option autoImplicit false

namespace Cache
variable {σ : Type} {fetch : Fetch σ} {c d : Cache} {store : σ} {v : Variant} {text : String}
variable {began ended : Int} {force published : Bool} {xs : List Exchange}

theorem hasUnsavedChanges_eq_false_iff : c.hasUnsavedChanges text = false ↔ text = c.baseline := by
  simp [hasUnsavedChanges]

/-- What is received becomes the snapshot, and where all is lost the snapshot is what is answered. -/
theorem Download.baseline_eq (h : Download c v ended xs d (.ok text)) : d.baseline = text := by
  cases h with
  | received | receivedInstead => rfl
  | lost | lostInstead => rfl

theorem baseline_of_call
    (ha : (c.call fetch store began ended force published).2.answer = .ok text) :
    (c.call fetch store began ended force published).2.cache.baseline = text := by
  cases hs : c.served? began force published with
  | some s =>
    obtain ⟨_, hsnapshot, _⟩ := served?_eq_some_iff.mp hs
    rw [call_of_served hs] at ha ⊢
    cases ha
    simp [baseline, hsnapshot]
  | none =>
    have hdownload : Download c (wanted published) ended
        (c.exchanges fetch store began ended force published)
        (c.call fetch store began ended force published).2.cache
        (c.call fetch store began ended force published).2.answer := download_of_not_served hs
    rw [ha] at hdownload
    exact hdownload.baseline_eq

end Cache

namespace Session
variable {κ ω σ : Type} {x : Session κ ω} {text : String}

/-- A session takes no notice of what is known to be the text. -/
theorem textChanged_baseline (h : Reaction κ ω) (hx : x.cache.baseline = text) :
    x.textChanged h text = x := by
  rw [textChanged, Cache.hasUnsavedChanges_eq_false_iff.mpr hx.symm, if_neg Bool.false_ne_true]

/-- Once a call has answered, its answer is the one text that counts as unchanged. No session with
that cache takes notice of it, and in particular not one that has just loaded it. -/
theorem loaded_unchanged (fetch : Fetch σ) (c : Cache) (store : σ) (began ended : Int)
    (force published : Bool) (h : Reaction κ ω) :
    (∀ text, (c.call fetch store began ended force published).2.answer = .ok text →
      (∀ u, (c.call fetch store began ended force published).2.cache.hasUnsavedChanges u = false ↔
        u = text) ∧
      ∀ x : Session κ ω, x.cache = (c.call fetch store began ended force published).2.cache →
        x.textChanged h text = x) ∧
    ∀ (x : Session κ ω) (now : Int) (text : String),
      (x.loadContent fetch store now force).2.2 = .ok text →
      let y := (x.loadContent fetch store now force).2.1
      y.textChanged h text = y ∧ y.unsaved = x.unsaved := by
  refine ⟨fun text ha => ⟨fun u => ?_, fun x hx => ?_⟩, fun x now text ha => ⟨?_, rfl⟩⟩
  · rw [Cache.hasUnsavedChanges_eq_false_iff, Cache.baseline_of_call ha]
  · exact textChanged_baseline h (hx ▸ Cache.baseline_of_call ha)
  · have hbaseline : (x.loadContent fetch store now force).2.1.cache.baseline = text :=
      Cache.baseline_of_call ha
    exact textChanged_baseline h hbaseline

/-- The draft is refused and nothing is published, so that the old snapshot has to do. -/
theorem loaded_unchanged_barren :
    (Cache.outdated.call Shelf.fetch Cache.barren 5 7 false false).2.answer = .ok "old" ∧
    (∀ u, (Cache.outdated.call Shelf.fetch Cache.barren 5 7 false false).2.cache.hasUnsavedChanges u =
      false ↔ u = "old") ∧
    let x : Session Unit Unit := .new "42" "" Cache.outdated (.empty none ()) true
    let y := (x.loadContent Shelf.fetch Cache.barren 5 false).2.1
    (x.loadContent Shelf.fetch Cache.barren 5 false).2.2 = .ok "old" ∧
      y.textChanged (fun _ _ z => (z, true)) "old" = y ∧ y.unsaved = x.unsaved := by
  have hcall := loaded_unchanged Shelf.fetch Cache.outdated Cache.barren 5 7 false false
    (fun (_ : Unit) _ (z : Session Unit Unit) => (z, true))
  exact ⟨rfl, (hcall.1 "old" rfl).1, rfl,
    hcall.2 (.new "42" "" Cache.outdated (.empty none ()) true) 5 "old" rfl⟩

end Session

end Scriptorium
