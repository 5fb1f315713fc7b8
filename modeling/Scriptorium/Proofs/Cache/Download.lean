import Mathlib.Data.List.Basic
import Scriptorium.Cache
import Scriptorium.Remote.Shelf

/-!
What a single call of the cache can come to. A fresh snapshot answers it, and nothing is fetched
(`call_of_served`). Otherwise it is a download, and a download ends in one of six ways, which
`Download` lists with the fetches made, the cache left behind and the answer given; all that is
said of downloads is read off that list. The main statement is that failures of the store are
contained: none of them reaches the caller, and none of them costs the cache its snapshot.

The fetches are those that the store saw: a store is watched by keeping a record of what it
answers (`recorded`), which changes nothing else (`call_recorded`).
-/

namespace Scriptorium
set_option autoImplicit false

/-- A fetch with the answer it got. -/
structure Exchange where
  documentId : String
  variant : Variant
  answer : Answer

section Recorded
variable {σ : Type}

/-- The same store, with a record of its fetches. -/
def recorded (fetch : Fetch σ) : Fetch (σ × List Exchange) := fun s documentId v =>
  let r := fetch s.1 documentId v
  ⟨(r.store, s.2 ++ [⟨documentId, v, r.answer⟩]), r.answer, r.journal⟩

end Recorded

namespace Cache
variable {σ : Type} {fetch : Fetch σ} {c : Cache} {store : σ} {l : List Exchange} {v : Variant}
variable {began ended : Int} {force published : Bool}

/-- The fetches that a call makes. -/
def exchanges (fetch : Fetch σ) (c : Cache) (store : σ) (began ended : Int)
    (force published : Bool) : List Exchange :=
  (c.call (recorded fetch) (store, []) began ended force published).1.2

/-- How a download of version `v` may end: with these fetches, this cache and this answer. -/
inductive Download (c : Cache) (v : Variant) (ended : Int) :
    List Exchange → Cache → Answer → Prop where
  | received (body : String) :
      Download c v ended [⟨c.documentId, v, .ok body⟩]
        { c with snapshot := some ⟨body, ended, v⟩ } (.ok body)
  | raised {f : Failure} (hf : ¬f.IsRemote) :
      Download c v ended [⟨c.documentId, v, .error f⟩] c (.error f)
  | lost {f : Failure} (hf : f.IsRemote) (hfinal : c.policy.fallback? v f = none) :
      Download c v ended [⟨c.documentId, v, .error f⟩] c (.ok c.baseline)
  | receivedInstead {f : Failure} {w : Variant} (hf : f.IsRemote)
      (hw : c.policy.fallback? v f = some w) (body : String) :
      Download c v ended [⟨c.documentId, v, .error f⟩, ⟨c.documentId, w, .ok body⟩]
        { c with snapshot := some ⟨body, ended, w⟩ } (.ok body)
  | raisedInstead {f g : Failure} {w : Variant} (hf : f.IsRemote)
      (hw : c.policy.fallback? v f = some w) (hg : ¬g.IsRemote) :
      Download c v ended [⟨c.documentId, v, .error f⟩, ⟨c.documentId, w, .error g⟩] c (.error g)
  | lostInstead {f g : Failure} {w : Variant} (hf : f.IsRemote)
      (hw : c.policy.fallback? v f = some w) (hg : g.IsRemote) :
      Download c v ended [⟨c.documentId, v, .error f⟩, ⟨c.documentId, w, .error g⟩] c
        (.ok c.baseline)

@[simp] theorem fresh?_eq_some_iff {s : Snapshot} {now : Int} :
    c.fresh? v now = some s ↔
      c.snapshot = some s ∧ s.variant = v ∧ now - s.fetchedAt < c.window := by
  simp [fresh?, Option.filter_eq_some_iff]

/-- The snapshot that answers a call, if one does. -/
def served? (c : Cache) (now : Int) (force published : Bool) : Option Snapshot :=
  if force then none else c.fresh? (wanted published) now

theorem served?_eq_none_iff :
    c.served? began force published = none ↔
      (force = true ∨ c.fresh? (wanted published) began = none) := by
  cases force <;> simp [served?]

theorem not_served_of_stale (h : force = true ∨ c.isFresh (wanted published) began = false) :
    c.served? began force published = none := by
  rw [served?_eq_none_iff]
  rcases h with h | h
  · exact .inl h
  · exact .inr (Option.isNone_iff_eq_none.mp (Option.isSome_eq_false_iff.mp h))

theorem call_of_served {s : Snapshot} (hs : c.served? began force published = some s) :
    c.call fetch store began ended force published = (store, ⟨c, .ok s.body, []⟩) := by
  unfold served? at hs
  simp only [call, start, hs]

theorem call_of_not_served (hs : c.served? began force published = none) :
    c.call fetch store began ended force published =
      (let a := c.request fetch store (wanted published)
        let r := c.land fetch a.store ended ⟨wanted published, a.answer⟩
        (r.1, { r.2 with journal := a.journal ++ r.2.journal })) := by
  unfold served? at hs
  simp only [call, start, hs]

/-- What holds of a store and stays so with every fetch holds when a call is over. -/
theorem call_invariant (I : σ → Prop)
    (hI : ∀ store documentId v, I store → I (fetch store documentId v).store) (hstore : I store) :
    I (c.call fetch store began ended force published).1 := by
  cases hs : c.served? began force published with
  | some s =>
    rw [call_of_served hs]
    exact hstore
  | none =>
    rw [call_of_not_served hs]
    have hfirst := hI store c.documentId (wanted published) hstore
    simp only [land, request]
    split
    · exact hfirst
    · exact hI _ _ _ hfirst

section Map
variable {σ' : Type} {fetch' : Fetch σ'} (φ : σ → σ')

theorem land_map (hφ : ∀ s documentId v, fetch' (φ s) documentId v =
      let r := fetch s documentId v
      ⟨φ r.store, r.answer, r.journal⟩) (p : Pending) :
    c.land fetch' (φ store) ended p = Prod.map φ id (c.land fetch store ended p) := by
  unfold land
  split
  · rfl
  · dsimp only [request]
    rw [hφ]
    rfl

/-- A call sees of a store only what it answers. -/
theorem call_map (hφ : ∀ s documentId v, fetch' (φ s) documentId v =
      let r := fetch s documentId v
      ⟨φ r.store, r.answer, r.journal⟩) :
    c.call fetch' (φ store) began ended force published =
      Prod.map φ id (c.call fetch store began ended force published) := by
  cases hs : c.served? began force published with
  | some s =>
    rw [call_of_served hs, call_of_served hs]
    rfl
  | none =>
    rw [call_of_not_served hs, call_of_not_served hs]
    dsimp only [request]
    rw [hφ]
    dsimp only
    rw [land_map φ hφ]
    rfl

end Map

/-- To be watched makes no difference to a call. -/
theorem call_recorded (fetch : Fetch σ) (l : List Exchange) :
    Prod.map Prod.fst id (c.call (recorded fetch) (store, l) began ended force published) =
      c.call fetch store began ended force published :=
  (call_map Prod.fst fun _ _ _ => rfl).symm

theorem exchanges_of_served {s : Snapshot} (hs : c.served? began force published = some s) :
    c.exchanges fetch store began ended force published = [] := by
  rw [exchanges, call_of_served hs]

/-- A call that no snapshot answers is a download of the version that is asked for. -/
theorem download_of_not_served (hs : c.served? began force published = none) :
    Download c (wanted published) ended (c.exchanges fetch store began ended force published)
      (c.call fetch store began ended force published).2.cache
      (c.call fetch store began ended force published).2.answer := by
  rw [← call_recorded fetch [], exchanges, call_of_not_served hs]
  dsimp only [Prod.map_snd, id_eq]
  generalize wanted published = v
  cases ha : (fetch store c.documentId v).answer with
  | ok body =>
    simp only [land, request, recorded, ha, first]
    exact .received body
  | error f =>
    by_cases hf : f.IsRemote
    · cases hw : c.policy.fallback? v f with
      | none =>
        simp only [land, request, recorded, ha, first, if_pos hf, hw]
        exact .lost hf hw
      | some w =>
        -- the second fetch finds the store as the first one left it
        simp only [land, request, recorded, ha, first, if_pos hf, hw]
        cases hb : (fetch (fetch store c.documentId v).store c.documentId w).answer with
        | ok body => exact .receivedInstead hf hw body
        | error g =>
          simp only [second]
          by_cases hg : g.IsRemote
          · simp only [if_pos hg]
            exact .lostInstead hf hw hg
          · simp only [if_neg hg]
            exact .raisedInstead hf hw hg
    · simp only [land, request, recorded, ha, first, if_neg hf]
      exact .raised hf

/-- What the answer to the last fetch of a download comes to. -/
inductive Settled (c : Cache) (ended : Int) (x : Exchange) : Cache → Answer → Prop where
  | received {body : String} (hx : x.answer = .ok body) :
      Settled c ended x { c with snapshot := some ⟨body, ended, x.variant⟩ } (.ok body)
  | raised {f : Failure} (hx : x.answer = .error f) (hf : ¬f.IsRemote) :
      Settled c ended x c (.error f)
  | lost {f : Failure} (hx : x.answer = .error f) (hf : f.IsRemote) :
      Settled c ended x c (.ok c.baseline)

/-- The version that is tried after an answer to the fetch of `v`. -/
def instead? (c : Cache) (v : Variant) : Answer → Option Variant
  | .ok _ => none
  | .error f => if f.IsRemote then c.policy.fallback? v f else none

/-- What holds of every download of `v`, which made the fetches `xs`, left the cache `d` and
answered `a`. -/
structure Contained (c : Cache) (v : Variant) (ended : Int) (xs : List Exchange) (d : Cache)
    (a : Answer) : Prop where
  silent : ∀ f, a = .error f → ¬f.IsRemote
  fetches : ∃ x y, xs = ⟨c.documentId, v, x⟩ ::
    ((c.instead? v x).map fun w => ⟨c.documentId, w, y⟩).toList
  received : ∀ x ∈ xs, ∀ body, x.answer = .ok body →
    d = { c with snapshot := some ⟨body, ended, x.variant⟩ } ∧ a = .ok body
  raised : ∀ x ∈ xs, ∀ f, x.answer = .error f → ¬f.IsRemote → d = c ∧ a = .error f
  lost : (∀ x ∈ xs, ∃ f, x.answer = .error f ∧ f.IsRemote) →
    d = c ∧ a = .ok ((c.snapshot.map Snapshot.body).getD "")
  standard : c.policy = .standard → ∀ x y, xs = [x, y] → v = .draft ∧ y.variant = .published ∧
    ∃ f, x.answer = .error f ∧ f.kind ≠ .unreachable ∧ f.kind ≠ .closed

theorem fallback?_standard {f : Failure} {w : Variant}
    (hw : FallbackPolicy.standard.fallback? v f = some w) :
    v = .draft ∧ w = .published ∧ f.kind ≠ .unreachable ∧ f.kind ≠ .closed := by
  have hhard : ([.unreachable, .closed] : List FailureClass).any (fun k => k.Has f) = true ↔
      f.kind = .unreachable ∨ f.kind = .closed := by
    simp [FailureClass.Has]
  simp only [FallbackPolicy.standard, FallbackPolicy.fallback?, hhard] at hw
  split at hw
  · cases hw
  · rename_i hsoft
    cases v with
    | draft => exact ⟨rfl, (Option.some_inj.mp hw).symm, not_or.mp hsoft⟩
    | published => cases hw

namespace Download
variable {xs : List Exchange} {d : Cache} {a : Answer} (h : Download c v ended xs d a)
include h

/-- The last fetch decides, and those before it failed. -/
theorem settled : ∃ ys x, xs = ys ++ [x] ∧ (∀ y ∈ ys, ∃ f, y.answer = .error f ∧ f.IsRemote) ∧
    Settled c ended x d a := by
  cases h with
  | received => exact ⟨[], _, rfl, nofun, .received rfl⟩
  | raised hf => exact ⟨[], _, rfl, nofun, .raised rfl hf⟩
  | lost hf => exact ⟨[], _, rfl, nofun, .lost rfl hf⟩
  | receivedInstead hf =>
    exact ⟨[_], _, rfl, List.forall_mem_singleton.mpr ⟨_, rfl, hf⟩, .received rfl⟩
  | raisedInstead hf _ hg =>
    exact ⟨[_], _, rfl, List.forall_mem_singleton.mpr ⟨_, rfl, hf⟩, .raised rfl hg⟩
  | lostInstead hf _ hg =>
    exact ⟨[_], _, rfl, List.forall_mem_singleton.mpr ⟨_, rfl, hf⟩, .lost rfl hg⟩

theorem silent : ∀ f, a = .error f → ¬f.IsRemote := by
  obtain ⟨ys, x, -, -, hx⟩ := h.settled
  intro f hf
  cases hx with
  | received | lost => cases hf
  | raised _ hforeign =>
    cases hf
    exact hforeign

theorem fetches : ∃ x y, xs = ⟨c.documentId, v, x⟩ ::
    ((c.instead? v x).map fun w => ⟨c.documentId, w, y⟩).toList := by
  cases h with
  | received body => exact ⟨.ok body, .ok body, rfl⟩
  | @raised f hf => exact ⟨.error f, .error f, by rw [instead?, if_neg hf]; rfl⟩
  | @lost f hf hfinal => exact ⟨.error f, .error f, by rw [instead?, if_pos hf, hfinal]; rfl⟩
  | @receivedInstead f w hf hw body =>
    exact ⟨.error f, .ok body, by rw [instead?, if_pos hf, hw]; rfl⟩
  | @raisedInstead f g w hf hw hg =>
    exact ⟨.error f, .error g, by rw [instead?, if_pos hf, hw]; rfl⟩
  | @lostInstead f g w hf hw hg =>
    exact ⟨.error f, .error g, by rw [instead?, if_pos hf, hw]; rfl⟩

theorem of_received {x : Exchange} (hx : x ∈ xs) {body : String} (hbody : x.answer = .ok body) :
    d = { c with snapshot := some ⟨body, ended, x.variant⟩ } ∧ a = .ok body := by
  obtain ⟨ys, z, rfl, hys, hz⟩ := h.settled
  rcases List.mem_append.mp hx with hx | hx
  · obtain ⟨f, hf, -⟩ := hys x hx
    rw [hf] at hbody
    cases hbody
  · obtain rfl := List.mem_singleton.mp hx
    cases hz with
    | received hz =>
      rw [hbody] at hz
      cases hz
      exact ⟨rfl, rfl⟩
    | raised hz | lost hz =>
      rw [hbody] at hz
      cases hz

theorem of_raised {x : Exchange} (hx : x ∈ xs) {f : Failure} (hf : x.answer = .error f)
    (hforeign : ¬f.IsRemote) : d = c ∧ a = .error f := by
  obtain ⟨ys, z, rfl, hys, hz⟩ := h.settled
  rcases List.mem_append.mp hx with hx | hx
  · obtain ⟨g, hg, hremote⟩ := hys x hx
    rw [hf] at hg
    cases hg
    exact absurd hremote hforeign
  · obtain rfl := List.mem_singleton.mp hx
    cases hz with
    | received hz =>
      rw [hf] at hz
      cases hz
    | raised hz =>
      rw [hf] at hz
      cases hz
      exact ⟨rfl, rfl⟩
    | lost hz hremote =>
      rw [hf] at hz
      cases hz
      exact absurd hremote hforeign

theorem of_lost (hxs : ∀ x ∈ xs, ∃ f, x.answer = .error f ∧ f.IsRemote) :
    d = c ∧ a = .ok c.baseline := by
  obtain ⟨ys, z, rfl, -, hz⟩ := h.settled
  obtain ⟨f, hf, hremote⟩ := hxs z List.mem_concat_self
  cases hz with
  | received hz =>
    rw [hf] at hz
    cases hz
  | raised hz hforeign =>
    rw [hf] at hz
    cases hz
    exact absurd hremote hforeign
  | lost => exact ⟨rfl, rfl⟩

theorem of_standard (hc : c.policy = .standard) {x y : Exchange} (hxs : xs = [x, y]) :
    v = .draft ∧ y.variant = .published ∧
      ∃ f, x.answer = .error f ∧ f.kind ≠ .unreachable ∧ f.kind ≠ .closed := by
  cases h with
  | received | raised | lost => cases hxs
  | receivedInstead _ hw | raisedInstead _ hw | lostInstead _ hw =>
    cases hxs
    rw [hc] at hw
    obtain ⟨hv, hw, hsoft⟩ := fallback?_standard hw
    exact ⟨hv, hw, _, rfl, hsoft⟩

theorem contained : Contained c v ended xs d a where
  silent := h.silent
  fetches := h.fetches
  received _ hx _ hbody := h.of_received hx hbody
  raised _ hx _ hf hforeign := h.of_raised hx hf hforeign
  lost := h.of_lost
  standard hc _ _ hxs := h.of_standard hc hxs

end Download

theorem failures_contained (h : force = true ∨ c.isFresh (wanted published) began = false) :
    Contained c (wanted published) ended (c.exchanges fetch store began ended force published)
      (c.call fetch store began ended force published).2.cache
      (c.call fetch store began ended force published).2.answer := by
  apply Download.contained
  exact download_of_not_served (not_served_of_stale h)

def outdated : Cache := ⟨"42", .standard, 10, some ⟨"old", 0, .published⟩⟩

/-- A shelf that refuses the draft and has no published version. -/
def barren : Shelf := Shelf.empty.fail "42" .draft (.refused "denied" (some 403))

theorem failures_contained_barren :
    (false = true ∨ outdated.isFresh (wanted false) 5 = false) ∧
    outdated.exchanges Shelf.fetch barren 5 7 false false =
      [⟨"42", .draft, .error (.refused "denied" (some 403))⟩,
        ⟨"42", .published, .error (.refused "Runbook 42 has no published version" (some 404))⟩] ∧
    (outdated.call Shelf.fetch barren 5 7 false false).2.answer = .ok "old" ∧
    Contained outdated (wanted false) 7 (outdated.exchanges Shelf.fetch barren 5 7 false false)
      (outdated.call Shelf.fetch barren 5 7 false false).2.cache
      (outdated.call Shelf.fetch barren 5 7 false false).2.answer :=
  ⟨.inr rfl, rfl, rfl, failures_contained (.inr rfl)⟩

end Cache

end Scriptorium
