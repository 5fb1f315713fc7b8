import Scriptorium.Proofs.Cache.Download

/-!
Where the snapshot of a cache comes from. A diary of a run keeps the fetches that the store
answered and the invalidations, the latest first; it does not look at the cache. At any moment the
snapshot is what the diary says was last received (`latest`): nothing, if nothing was received since
the last invalidation, and else the body of the last fetch that succeeded, under the version that
was fetched, with the time at which the call that fetched it ended.
-/

namespace Scriptorium
set_option autoImplicit false

namespace Cache

/-- What may happen to a cache, one thing after another. Each call has its own times, so that the
clock may do as it likes. -/
inductive Turn (σ : Type) where
  | call (began ended : Int) (force published : Bool)
  | invalidate
  /-- The store changes by itself. -/
  | restock (store : σ)
  /-- The window is set anew, and a policy that remembers changes its mind. -/
  | adjust (policy : FallbackPolicy) (window : Int)

inductive Event where
  /-- a fetch, with the time at which the call that made it ended -/
  | fetched (x : Exchange) (ended : Int)
  | invalidated

namespace Event

def isInvalidation : Event → Bool
  | invalidated => true
  | fetched _ _ => false

def received? : Event → Option Snapshot
  | fetched ⟨_, v, .ok body⟩ ended => some ⟨body, ended, v⟩
  | fetched ⟨_, _, .error _⟩ _ | invalidated => none

end Event

/-- What was received last since the last invalidation. The latest event comes first. -/
def latest (events : List Event) : Option Snapshot :=
  (events.takeWhile fun e => !e.isInvalidation).findSome? Event.received?

/-- A cache with its store, and what has happened so far. -/
structure Diary (σ : Type) where
  cache : Cache
  store : σ
  events : List Event

namespace Diary
variable {σ : Type}

def begun (cache : Cache) (store : σ) : Diary σ := ⟨cache, store, []⟩

def take (fetch : Fetch σ) (d : Diary σ) : Turn σ → Diary σ
  | .call began ended force published =>
    let r := d.cache.call fetch d.store began ended force published
    let xs := d.cache.exchanges fetch d.store began ended force published
    ⟨r.2.cache, r.1, (xs.map fun x => .fetched x ended).reverse ++ d.events⟩
  | .invalidate => { d with cache := d.cache.invalidate, events := .invalidated :: d.events }
  | .restock store => { d with store := store }
  | .adjust policy window =>
    { d with cache := { d.cache with policy := policy, window := window } }

end Diary

section Run
variable {σ : Type} {fetch : Fetch σ} {c : Cache} {store : σ} {d : Diary σ}
variable {began ended : Int} {force published : Bool}

/-- A download leaves the snapshot that its fetches tell of. -/
theorem Download.snapshot_eq {v : Variant} {xs : List Exchange} {c' : Cache} {a : Answer}
    (h : Download c v ended xs c' a) {es : List Event} (hes : c.snapshot = latest es) :
    c'.snapshot = latest ((xs.map fun x => .fetched x ended).reverse ++ es) := by
  cases h with
  | received | receivedInstead => rfl
  | raised | lost | raisedInstead | lostInstead => exact hes

theorem served?_eq_some_iff {s : Snapshot} :
    c.served? began force published = some s ↔ force = false ∧
      c.snapshot = some s ∧ s.variant = wanted published ∧ began - s.fetchedAt < c.window := by
  cases force <;> simp [served?]

theorem exchanges_eq_nil_iff :
    c.exchanges fetch store began ended force published = [] ↔
      ∃ s, c.served? began force published = some s := by
  cases hs : c.served? began force published with
  | some s => exact iff_of_true (exchanges_of_served hs) ⟨s, rfl⟩
  | none =>
    have hdownload : Download c _ ended (c.exchanges fetch store began ended force published) _ _ :=
      download_of_not_served hs
    obtain ⟨x, y, hxs⟩ := hdownload.fetches
    refine iff_of_false ?_ nofun
    rw [hxs]
    exact List.cons_ne_nil _ _

theorem Diary.snapshot_take (t : Turn σ) (hd : d.cache.snapshot = latest d.events) :
    (d.take fetch t).cache.snapshot = latest (d.take fetch t).events := by
  cases t with
  | call began ended force published =>
    dsimp only [take]
    cases hs : d.cache.served? began force published with
    | some s =>
      rw [exchanges_of_served hs, call_of_served hs]
      exact hd
    | none => exact (download_of_not_served hs).snapshot_eq hd
  | invalidate => rfl
  | restock _ => exact hd
  | adjust _ _ => exact hd

theorem Diary.snapshot_run (turns : List (Turn σ)) (hd : d.cache.snapshot = latest d.events) :
    (turns.foldl (Diary.take fetch) d).cache.snapshot =
      latest (turns.foldl (Diary.take fetch) d).events := by
  induction turns generalizing d with
  | nil => exact hd
  | cons t turns ih => exact ih (d.snapshot_take t hd)

end Run

/-- The snapshot is what was received last; and nothing is fetched just if the call is not forced
and the snapshot is fresh, whose body is then the answer. -/
theorem snapshot_provenance {σ : Type} (fetch : Fetch σ) (documentId : String)
    (policy : FallbackPolicy) (window : Int) (store : σ) (turns : List (Turn σ)) :
    let d := turns.foldl (Diary.take fetch) (.begun (.new documentId policy window) store)
    d.cache.snapshot = latest d.events ∧
    ∀ began ended force published,
      (d.cache.exchanges fetch d.store began ended force published = [] ↔
        force = false ∧ ∃ s, d.cache.snapshot = some s ∧ s.variant = wanted published ∧
          began - s.fetchedAt < d.cache.window) ∧
      (d.cache.exchanges fetch d.store began ended force published = [] →
        ∃ s, d.cache.snapshot = some s ∧
          (d.cache.call fetch d.store began ended force published).2.answer = .ok s.body) := by
  intro d
  refine ⟨Diary.snapshot_run turns rfl, ?_⟩
  intro began ended force published
  rw [exchanges_eq_nil_iff]
  constructor
  · simp only [served?_eq_some_iff, exists_and_left]
  · rintro ⟨s, hs⟩
    refine ⟨s, (served?_eq_some_iff.mp hs).2.1, ?_⟩
    rw [call_of_served hs]

/-- A snapshot has the version that was fetched, here in place of the one that was asked for. -/
example :
    let shelf := (Shelf.empty.fail "42" .draft (.timedOut "slow")).put "42" "text" .published
    let d := [Turn.invalidate, .call 3 5 false false].foldl (Diary.take Shelf.fetch)
      (.begun (.new "42" .standard 10) shelf)
    latest d.events = some ⟨"text", 5, .published⟩ ∧ d.cache.snapshot = latest d.events :=
  ⟨rfl, rfl⟩

end Cache

end Scriptorium
