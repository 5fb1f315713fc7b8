import Scriptorium.Remote.Failure

/-!
A shelf: a store in memory, whose fetches can be made to fail. A version that was made to fail
does so until it is recovered, whatever is put on the shelf meanwhile; every fetch is remembered.
-/

namespace Scriptorium
set_option autoImplicit false

structure VersionKey where
  documentId : String
  variant : Variant
  deriving DecidableEq, Repr

/-- The first entry for a version is the one that counts. -/
structure Shelf where
  documents : List (VersionKey × String)
  failures : List (VersionKey × Failure)
  fetches : List VersionKey
  deriving Repr

namespace Shelf

def empty : Shelf := ⟨[], [], []⟩

def put (s : Shelf) (documentId body : String) (v : Variant) : Shelf :=
  { s with documents := (⟨documentId, v⟩, body) :: s.documents }

/-- From now on every fetch of the version fails. -/
def fail (s : Shelf) (documentId : String) (v : Variant) (f : Failure) : Shelf :=
  { s with failures := (⟨documentId, v⟩, f) :: s.failures }

/-- Ends the failures of one version of a document, or of all of them. -/
def recover (s : Shelf) (documentId : String) (v : Option Variant) : Shelf :=
  { s with
    failures := s.failures.filter fun e =>
      !(e.1.documentId = documentId && v.all fun v => e.1.variant = v) }

/-- How many fetches there were, of one document or of all, and of one version or of both. -/
def fetchCount (s : Shelf) (documentId : Option String) (v : Option Variant) : Nat :=
  s.fetches.countP fun k =>
    (documentId.all fun d => k.documentId = d) && v.all fun v => k.variant = v

def answer (s : Shelf) (k : VersionKey) : Answer :=
  match s.failures.lookup k with
  | some f => .error f
  | none =>
    match s.documents.lookup k with
    | some body => .ok body
    | none =>
      .error (.refused
        ("Runbook " ++ k.documentId ++ " has no " ++ k.variant.word ++ " version") (some 404))

/-- Fetches a version; this is remembered whether or not it succeeds. -/
def fetch : Fetch Shelf := fun s documentId v =>
  ⟨{ s with fetches := s.fetches ++ [⟨documentId, v⟩] }, s.answer ⟨documentId, v⟩, []⟩

end Shelf

end Scriptorium
