import Mathlib.Logic.Function.Basic
import Scriptorium.Cache

/-!
Calls of one cache that run side by side. A call goes through its stages in steps of its own: it
looks for a fresh snapshot, its fetches come back, it reads the clock, and it installs what it got
or reads what is last known. The lock of the cache makes each look at the snapshot a single step.
Between two steps of a call any number of others may fall, and the snapshot may be dropped at any
time.

What a call does with an answer is what `first` and `second` say. The store itself does not appear:
a fetch may come back with any answer.
-/

namespace Scriptorium
set_option autoImplicit false

namespace Cache

/-- What a call asks for. -/
structure Call where
  force : Bool
  published : Bool

/-- How far a call has come. -/
inductive Stage where
  | begun
  | fetching (v : Variant)
  | fetchingInstead (v : Variant)
  | received (body : String) (v : Variant)
  | stamped (s : Snapshot)
  | lost
  | ended (a : Answer)

def Stage.ofOutcome : Outcome → Stage
  | .received body v => .received body v
  | .lost => .lost
  | .raised f => .ended (.error f)

inductive Step where
  | check (now : Int)
  | fetched (v : Variant) (a : Answer)
  | stamp (now : Int)
  | install (s : Snapshot)
  | read

/-- One step of a call, if it is its turn to take it. -/
def step (c : Cache) (call : Call) : Stage → Step → Option (Cache × Stage)
  | .begun, .check now =>
    match if call.force then none else c.fresh? (wanted call.published) now with
    | some s => some (c, .ended (.ok s.body))
    | none => some (c, .fetching (wanted call.published))
  | .fetching u, .fetched v a =>
    if v = u then
      match (c.first v a).2 with
      | .inl w => some (c, .fetchingInstead w)
      | .inr outcome => some (c, .ofOutcome outcome)
    else none
  | .fetchingInstead u, .fetched v a =>
    if v = u then some (c, .ofOutcome (c.second v a).2) else none
  | .received body v, .stamp now => some (c, .stamped ⟨body, now, v⟩)
  | .stamped t, .install s =>
    if s = t then some ({ c with snapshot := some s }, .ended (.ok s.body)) else none
  | .lost, .read => some (c, .ended (.ok c.baseline))
  | _, _ => none

inductive Move (ι : Type) where
  | step (i : ι) (s : Step)
  | invalidate

/-- A cache with its calls. -/
structure World (ι : Type) where
  cache : Cache
  stage : ι → Stage

namespace World
variable {ι : Type}

def begun (c : Cache) : World ι := ⟨c, fun _ => .begun⟩

def move [DecidableEq ι] (calls : ι → Call) (w : World ι) : Move ι → Option (World ι)
  | .step i s =>
    (w.cache.step (calls i) (w.stage i) s).map fun r => ⟨r.1, Function.update w.stage i r.2⟩
  | .invalidate => some { w with cache := w.cache.invalidate }

end World

end Cache

end Scriptorium
