import Scriptorium.Journal
import Scriptorium.Remote.Variant

/-!
Fetching a version from a store, and the ways in which it can fail. Most of them are failures that a
remote store reports and that can be dealt with; the others are mistakes that have nothing to do
with the store, of whatever kind, and are passed on (`FailureClass.isMistake`).
-/

namespace Scriptorium
set_option autoImplicit false

inductive Failure where
  /-- a failure that the store does not classify -/
  | remote (message : String)
  /-- the store could not be reached at all -/
  | unreachable (message : String)
  /-- the connection was lost before the answer was complete -/
  | closed (message : String)
  /-- the store did not answer in time -/
  | timedOut (message : String)
  /-- the store answered, but with an error, perhaps with a status -/
  | refused (message : String) (status : Option Int)
  | foreign (kind message : String)
  deriving DecidableEq, Repr

/-- The classes of failures. The class `remote` has all others below it but the mistakes. -/
inductive FailureClass where
  | remote
  | unreachable
  | closed
  | timedOut
  | refused
  | foreign (kind : String)
  deriving DecidableEq, Repr

/-- Whether such failures have nothing to do with the store. -/
def FailureClass.isMistake : FailureClass → Bool
  | .foreign _ => true
  | .remote | .unreachable | .closed | .timedOut | .refused => false

namespace Failure

def message : Failure → String
  | remote m | unreachable m | closed m | timedOut m | refused m _ | foreign _ m => m

def status? : Failure → Option Int
  | refused _ status => status
  | _ => none

def kind : Failure → FailureClass
  | remote _ => .remote
  | unreachable _ => .unreachable
  | closed _ => .closed
  | timedOut _ => .timedOut
  | refused _ _ => .refused
  | foreign kind _ => .foreign kind

/-- The failure of a class. Only a refusal can have a status. -/
def ofClass (message : String) (status : Option Int) : FailureClass → Failure
  | .remote => remote message
  | .unreachable => unreachable message
  | .closed => closed message
  | .timedOut => timedOut message
  | .refused => refused message status
  | .foreign kind => foreign kind message

/-- Whether the failure is the store's, and not a mistake elsewhere. -/
def IsRemote (f : Failure) : Prop := f.kind.isMistake = false

instance (f : Failure) : Decidable f.IsRemote := by unfold IsRemote; infer_instance

end Failure

def FailureClass.Has (c : FailureClass) (f : Failure) : Prop :=
  f.kind = c ∨ (c = .remote ∧ f.IsRemote)

instance (c : FailureClass) (f : Failure) : Decidable (c.Has f) := by
  unfold FailureClass.Has; infer_instance

/-- The body of a version, or why there is none. -/
abbrev Answer := Except Failure String

/-- What one fetch comes to: the store as it is now, the answer, and the store's own journal. -/
structure Fetched (σ : Type) where
  store : σ
  answer : Answer
  journal : Journal

/-- A store: how it answers when a version of a document is fetched. -/
abbrev Fetch (σ : Type) := σ → String → Variant → Fetched σ

end Scriptorium
