import Scriptorium.Cache
import Scriptorium.Margin.Reconcile
import Scriptorium.Observable
import Scriptorium.Parameter.Extraction

/-!
A session: one document opened for editing. It joins the cache, the parser, the extraction of
parameters and the margin, and has a title that says whether the document is checked out and
whether it was changed. A checked-out document is edited as a draft, any other read as published.

The two flags are observables; the session listens to both and relays each change as a change of
the title. What the session reports goes into the journal of its margin.
-/

namespace Scriptorium
set_option autoImplicit false

/-- The listener that relays the change of a flag. -/
inductive Relay where
  | title
  deriving DecidableEq, Repr

structure Session (κ ω : Type) where
  documentId : String
  name : String
  cache : Cache
  checkedOut : Observable Relay Bool
  unsaved : Observable Relay Bool
  titleChanged : Signal κ
  margin : Margin κ ω

namespace Session
variable {κ ω : Type}

private def relayed (value : Bool) : Observable Relay Bool :=
  let flag := Observable.holding value
  { flag with changed := (flag.changed.subscribe .title).1 }

def new (documentId name : String) (cache : Cache) (margin : Margin κ ω) (checkedOut : Bool) :
    Session κ ω where
  documentId := documentId
  name := name
  cache := cache
  checkedOut := relayed checkedOut
  unsaved := relayed false
  titleChanged := .named "title-changed"
  margin := margin

def title (s : Session κ ω) : String :=
  (if s.name = "" then "untitled" else s.name) ++
    (if s.unsaved.value then "*" else "") ++
    (if s.checkedOut.value then " (draft)" else "")

def log (s : Session κ ω) (journal : Journal) : Session κ ω :=
  { s with margin := { s.margin with journal := s.margin.journal ++ journal } }

/-- What each listener does with a new title, and whether it fails. -/
abbrev Reaction (κ ω : Type) := κ → String → Session κ ω → Session κ ω × Bool

/-- Tells the listeners the title as it is now. -/
def notifyTitle (h : Reaction κ ω) (s : Session κ ω) : Session κ ω :=
  deliver (fun k x => h k s.title x) (fun x => x.log [s.titleChanged.failure])
    s.titleChanged.listeners s

private def relay (h : Reaction κ ω) (flag : Observable Relay Bool) (s : Session κ ω) :
    Session κ ω :=
  deliver (fun k x => match k with | .title => (notifyTitle h x, false))
    (fun x => x.log [flag.changed.failure]) flag.changed.listeners s

/-- Checks the document out or in; the answer says whether that was a change. -/
def setCheckedOut (h : Reaction κ ω) (s : Session κ ω) (value : Bool) : Session κ ω × Bool :=
  match s.checkedOut.assign value with
  | (_, none) => (s, false)
  | (flag, some _) => (relay h flag { s with checkedOut := flag }, true)

def setUnsaved (h : Reaction κ ω) (s : Session κ ω) (value : Bool) : Session κ ω × Bool :=
  match s.unsaved.assign value with
  | (_, none) => (s, false)
  | (flag, some _) => (relay h flag { s with unsaved := flag }, true)

theorem setCheckedOut_self (h : Reaction κ ω) (s : Session κ ω) :
    setCheckedOut h s s.checkedOut.value = (s, false) := by
  simp [setCheckedOut, Observable.assign]

theorem setUnsaved_self (h : Reaction κ ω) (s : Session κ ω) :
    setUnsaved h s s.unsaved.value = (s, false) := by
  simp [setUnsaved, Observable.assign]

/-- A flag that only the session listens to, once, is told of in one title. -/
theorem setCheckedOut_of_ne (h : Reaction κ ω) {s : Session κ ω} {value : Bool}
    (hrelay : s.checkedOut.changed.listeners = [.title]) (hne : value ≠ s.checkedOut.value) :
    setCheckedOut h s value =
      (notifyTitle h { s with checkedOut := { s.checkedOut with value := value } }, true) := by
  simp only [setCheckedOut, Observable.assign, beq_iff_eq, if_neg hne, relay, hrelay]
  rfl

theorem setUnsaved_of_ne (h : Reaction κ ω) {s : Session κ ω} {value : Bool}
    (hrelay : s.unsaved.changed.listeners = [.title]) (hne : value ≠ s.unsaved.value) :
    setUnsaved h s value =
      (notifyTitle h { s with unsaved := { s.unsaved with value := value } }, true) := by
  simp only [setUnsaved, Observable.assign, beq_iff_eq, if_neg hne, relay, hrelay]
  rfl

/-- The text was edited. It counts as changed unless it is what was last fetched. -/
def textChanged (h : Reaction κ ω) (s : Session κ ω) (text : String) : Session κ ω :=
  if s.cache.hasUnsavedChanges text then (setUnsaved h s true).1 else s

def markSaved (h : Reaction κ ω) (s : Session κ ω) : Session κ ω := (setUnsaved h s false).1

inductive Fault where
  | fetch (f : Failure)
  | parse (f : Parse.Fault)
  | misplaced (m : Misplaced)
  deriving DecidableEq, Repr

/-- Gets the text of the document, of the version that fits the session. -/
def loadContent {σ : Type} (fetch : Fetch σ) (store : σ) (now : Int) (s : Session κ ω)
    (force : Bool) : σ × Session κ ω × Answer :=
  let (store, r) := s.cache.get fetch store now force (!s.checkedOut.value)
  (store, { s with cache := r.cache }.log r.journal, r.answer)

def loadParameters {σ : Type} (parser : Parser) (fetch : Fetch σ) (store : σ) (now : Int)
    (s : Session κ ω) : σ × Session κ ω × Except Fault (Option (List Parameter)) :=
  match s.loadContent fetch store now false with
  | (store, s, .error f) => (store, s, .error (.fetch f))
  | (store, s, .ok text) =>
    match Parse.ofText parser text with
    | .error f => (store, s, .error (.parse f))
    | .ok p =>
      let (ps, journal) := Parameter.extract p.tree
      (store, s.log journal, .ok ps)

/-- Parses the text and brings the parse errors in the margin in line with the diagnostics. -/
def reparse (parser : Parser) (h : Margin.Reaction κ ω) (s : Session κ ω) (text : String) :
    Session κ ω × Except Fault (List Diagnostic) :=
  match Parse.ofText parser text with
  | .error f => (s, .error (.parse f))
  | .ok p =>
    let s := if p.hasErrors then
        s.log [⟨.debug, "Runbook '" ++ s.documentId ++ "' has " ++
          toString p.diagnostics.length ++ " parse error(s)"⟩]
      else s
    match Margin.replaceParseErrors h s.margin p.diagnostics with
    | (margin, .ok _) => ({ s with margin := margin }, .ok p.diagnostics)
    | (margin, .error m) => ({ s with margin := margin }, .error (.misplaced m))

end Session

end Scriptorium
