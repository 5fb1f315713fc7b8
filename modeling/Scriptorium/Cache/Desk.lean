import Scriptorium.Cache

/-!
Several downloads at once. A desk has the cache of one document, the store it fetches from, the
clock, and the downloads that are under way, each known by a name. A download that is called off
still runs to its end, and may replace the snapshot, but it answers nobody.
-/

namespace Scriptorium
set_option autoImplicit false

structure Flight where
  name : String
  pending : Cache.Pending
  calledOff : Bool

structure Desk (σ : Type) where
  cache : Cache
  store : σ
  now : Int
  flights : List Flight
  journal : Journal

namespace Desk
variable {σ : Type}

def new (cache : Cache) (store : σ) : Desk σ := ⟨cache, store, 0, [], []⟩

private def conclude (d : Desk σ) (r : σ × Cache.Result) : Desk σ × Answer :=
  ({ d with store := r.1, cache := r.2.cache, journal := d.journal ++ r.2.journal }, r.2.answer)

/-- A call that nothing interrupts. -/
def get (fetch : Fetch σ) (d : Desk σ) (force published : Bool) : Desk σ × Answer :=
  d.conclude (d.cache.get fetch d.store d.now force published)

/-- Begins a call. The body is given if it can be answered at once. -/
def start (fetch : Fetch σ) (d : Desk σ) (name : String) (force published : Bool) :
    Desk σ × Option String :=
  let (store, begun, journal) := d.cache.start fetch d.store d.now force published
  let d := { d with store := store, journal := d.journal ++ journal }
  match begun with
  | .answered body => (d, some body)
  | .pending p => ({ d with flights := ⟨name, p, false⟩ :: d.flights }, none)

inductive Landing where
  | unknown
  | calledOff
  | answered (a : Answer)

/-- Delivers the first answer to a download, which then runs to its end. -/
def land (fetch : Fetch σ) (d : Desk σ) (name : String) : Desk σ × Landing :=
  match d.flights.find? fun f => f.name = name with
  | none => (d, .unknown)
  | some f =>
    let (d, a) := conclude { d with flights := d.flights.filter fun g => g.name ≠ name }
      (d.cache.land fetch d.store d.now f.pending)
    (d, if f.calledOff then .calledOff else .answered a)

def callOff (d : Desk σ) (name : String) : Desk σ :=
  { d with
    flights := d.flights.map fun f => if f.name = name then { f with calledOff := true } else f }

end Desk

end Scriptorium
