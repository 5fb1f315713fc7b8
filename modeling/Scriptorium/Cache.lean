import Scriptorium.Remote.Fallback

/-!
The cache: the body of one document as it was last fetched. A fresh snapshot answers at once;
otherwise the version is fetched, perhaps another in its place, and when nothing can be had the
snapshot answers however old it is. Times are in microseconds.

A download is cut where the store is waited for. `first` and `second` say what follows from the
answer to the first and to the second fetch, `conclude` what follows from the outcome; `request`
is the sending of a fetch. A whole call runs through them in one go (`call`, or `get` if the clock
stands still), or stops after its first request (`start`) and goes on when the answer is delivered
(`land`).
-/

namespace Scriptorium
set_option autoImplicit false

structure Snapshot where
  body : String
  fetchedAt : Int
  variant : Variant
  deriving DecidableEq, Repr

structure Cache where
  documentId : String
  policy : FallbackPolicy
  window : Int
  snapshot : Option Snapshot

namespace Cache

/-- Half an hour. -/
def standardWindow : Int := 1800000000

def new (documentId : String) (policy : FallbackPolicy) (window : Int) : Cache :=
  ⟨documentId, policy, window, none⟩

/-- The snapshot, if it is of this version and not yet too old. -/
def fresh? (c : Cache) (v : Variant) (now : Int) : Option Snapshot :=
  c.snapshot.filter fun s => s.variant = v && now - s.fetchedAt < c.window

def isFresh (c : Cache) (v : Variant) (now : Int) : Bool := (c.fresh? v now).isSome

def invalidate (c : Cache) : Cache := { c with snapshot := none }

/-- What is known of the document: the snapshot's body, or nothing. -/
def baseline (c : Cache) : String := (c.snapshot.map Snapshot.body).getD ""

def hasUnsavedChanges (c : Cache) (text : String) : Bool := text ≠ c.baseline

/-- What a download has come to when no more is to be fetched. -/
inductive Outcome where
  | received (body : String) (v : Variant)
  | lost
  | raised (f : Failure)
  deriving DecidableEq, Repr

private def mentioning (c : Cache) (before after : String) : String :=
  before ++ " document '" ++ c.documentId ++ "'" ++ after

/-- What follows from the answer to the first fetch: another one, or the outcome. -/
def first (c : Cache) (v : Variant) : Answer → Journal × (Variant ⊕ Outcome)
  | .ok body => ([], .inr (.received body v))
  | .error f =>
    if f.IsRemote then
      let failed : Entry :=
        ⟨.error, c.mentioning ("Downloading " ++ v.word ++ " of") (" failed: " ++ f.message)⟩
      match c.policy.fallback? v f with
      | none => ([failed], .inr .lost)
      | some w =>
        ([failed, ⟨.warning, c.mentioning ("Falling back to the " ++ w.word ++ " version of") ""⟩],
          .inl w)
    else ([], .inr (.raised f))

def second (c : Cache) (v : Variant) : Answer → Journal × Outcome
  | .ok body => ([], .received body v)
  | .error f =>
    if f.IsRemote then
      ([⟨.error, c.mentioning "Unable to retrieve any content for" ""⟩], .lost)
    else ([], .raised f)

/-- What a call has answered, with the cache after it. -/
structure Result where
  cache : Cache
  answer : Answer
  journal : Journal

def conclude (c : Cache) (now : Int) : Outcome → Result
  | .received body v => ⟨{ c with snapshot := some ⟨body, now, v⟩ }, .ok body, []⟩
  | .raised f => ⟨c, .error f, []⟩
  | .lost =>
    ⟨c, .ok c.baseline,
      if c.snapshot.isNone then
        [⟨.error, c.mentioning "No cached content for" "; returning an empty document"⟩]
      else []⟩

section Run
variable {σ : Type} (fetch : Fetch σ)

def request (c : Cache) (store : σ) (v : Variant) : Fetched σ :=
  let r := fetch store c.documentId v
  { r with
    journal := ⟨.debug, c.mentioning "Downloading content for" (", version: " ++ v.word)⟩ ::
      r.journal }

/-- A download whose first answer is on its way. -/
structure Pending where
  variant : Variant
  answer : Answer

/-- What remains to be done when the first answer is delivered. -/
def land (c : Cache) (store : σ) (now : Int) (p : Pending) : σ × Result :=
  match c.first p.variant p.answer with
  | (journal, .inr outcome) =>
    let r := c.conclude now outcome
    (store, { r with journal := journal ++ r.journal })
  | (journal, .inl w) =>
    let a := c.request fetch store w
    let (journal', outcome) := c.second w a.answer
    let r := c.conclude now outcome
    (a.store, { r with journal := journal ++ a.journal ++ journal' ++ r.journal })

def wanted (published : Bool) : Variant := if published then .published else .draft

/-- What the beginning of a call comes to. -/
inductive Begun where
  | answered (body : String)
  | pending (p : Pending)

/-- Begins a call: it is answered at once, or a fetch is sent. -/
def start (c : Cache) (store : σ) (now : Int) (force published : Bool) : σ × Begun × Journal :=
  let v := wanted published
  match if force then none else c.fresh? v now with
  | some s => (store, .answered s.body, [])
  | none =>
    let r := c.request fetch store v
    (r.store, .pending ⟨v, r.answer⟩, r.journal)

/-- A whole call that no other one interrupts, with the times at its beginning and at its end. -/
def call (c : Cache) (store : σ) (began ended : Int) (force published : Bool) : σ × Result :=
  match c.start fetch store began force published with
  | (store, .answered body, journal) => (store, ⟨c, .ok body, journal⟩)
  | (store, .pending p, journal) =>
    let (store, r) := c.land fetch store ended p
    (store, { r with journal := journal ++ r.journal })

/-- A whole call that takes no time. -/
def get (c : Cache) (store : σ) (now : Int) (force published : Bool) : σ × Result :=
  c.call fetch store now now force published

end Run

end Cache

end Scriptorium
