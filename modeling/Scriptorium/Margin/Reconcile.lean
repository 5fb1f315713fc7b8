import Scriptorium.Margin.Bookmarks
import Scriptorium.Tree.Node

/-!
Bringing the parse errors of the margin in line with the diagnostics of a fresh parse. Two
diagnostics are the same when they agree in place and message. A bookmark whose diagnostic is
still reported stays as it is, one that is not goes, and a diagnostic that no bookmark accounts
for gets a bookmark of its own, shown by a marker over the same anchor.
-/

namespace Scriptorium
set_option autoImplicit false

/-- What two diagnostics must agree in to be the same finding. -/
structure Finding where
  span : Span
  message : String
  deriving DecidableEq, Repr

def Diagnostic.finding (d : Diagnostic) : Finding := ⟨⟨d.startOffset, d.length⟩, d.message⟩

/-- The findings of a list of diagnostics, each once, in the order of their first mention. -/
def findings (ds : List Diagnostic) : List Finding :=
  ds.foldl (fun fs d => if d.finding ∈ fs then fs else fs ++ [d.finding]) []

theorem mem_findings {ds : List Diagnostic} {f : Finding} (hf : f ∈ findings ds) :
    ∃ d ∈ ds, d.finding = f := by
  refine List.foldlRecOn (motive := fun fs => ∀ f ∈ fs, ∃ d ∈ ds, d.finding = f) ds _ ?_ ?_ f hf
  · intro f hf
    cases hf
  · intro fs hfs d hd f hf
    split at hf
    · exact hfs f hf
    · rcases List.mem_append.mp hf with hf | hf
      · exact hfs f hf
      · exact ⟨d, hd, (List.mem_singleton.mp hf).symm⟩

namespace Margin
variable {κ ω : Type}

/-- The finding that a parse error stands for, where its anchor is now. -/
def findingOf (s : Margin κ ω) (b : BookmarkId) : Finding :=
  ⟨(s.span? b).getD default, (s.bookmark b).message⟩

/-- Shows a parse error by a marker over its own anchor. -/
def markParseError (h : Reaction κ ω) (s : Margin κ ω) (b : BookmarkId) :
    Margin κ ω × Except Misplaced Unit :=
  match (s.bookmark b).anchor with
  | .line _ => (s, .error .onLine)
  | .span i =>
    match s.createMarkerOver i with
    | .error e => (s, .error e)
    | .ok (s, m) =>
      let s := s.modifyMarker m fun y =>
        { y with tooltip := .text (s.bookmark b).message, tag := .bookmark b }
      let s := s.modifyBookmark b fun y => { y with marker := some m }
      ((applyLook h s m .parseError).watch b m, .ok ())

/-- Goes through the parse errors that were there before. What is left of the findings has no
bookmark yet; the flag says whether anything changed so far. -/
def keepParseErrors (h : Reaction κ ω) :
    List BookmarkId → List Finding → Bool → Margin κ ω →
      Margin κ ω × Except Misplaced (List Finding × Bool)
  | [], wanted, changed, s => (s, .ok (wanted, changed))
  | b :: bs, wanted, changed, s =>
    if s.findingOf b ∈ wanted then
      let wanted := wanted.erase (s.findingOf b)
      if (s.bookmark b).marker = none then
        match markParseError h s b with
        | (s, .ok ()) => keepParseErrors h bs wanted true s
        | (s, .error e) => (s, .error e)
      else keepParseErrors h bs wanted changed s
    else keepParseErrors h bs wanted true (notifyChanged h (discard h s b) b true)

def addParseErrors (h : Reaction κ ω) :
    List Finding → Margin κ ω → Margin κ ω × Except Misplaced Unit
  | [], s => (s, .ok ())
  | f :: fs, s =>
    let (s, b) := s.newBookmark .parseError (.span f.span) f.message none
    match markParseError h { s with stored := s.stored ++ [b] } b with
    | (s, .ok ()) => addParseErrors h fs (notifyChanged h s b false)
    | (s, .error e) => (s, .error e)

/-- Reconciles the parse errors, which are given in order, with the diagnostics. -/
def reconcile (h : Reaction κ ω) (bs : List BookmarkId) (ds : List Diagnostic) (s : Margin κ ω) :
    Margin κ ω × Except Misplaced (List BookmarkId) :=
  match keepParseErrors h bs (findings ds) false s with
  | (s, .error e) => (s, .error e)
  | (s, .ok (wanted, changed)) =>
    match addParseErrors h wanted s with
    | (s, .error e) => (s, .error e)
    | (s, .ok ()) =>
      let s := if changed || !wanted.isEmpty then notifyRedraw h s else s
      (s, s.arranged .parseError)

/-- Reconciles the parse errors with the diagnostics; the answer lists those now in the margin. -/
def replaceParseErrors (h : Reaction κ ω) (s : Margin κ ω) (ds : List Diagnostic) :
    Margin κ ω × Except Misplaced (List BookmarkId) :=
  match s.arranged .parseError with
  | .error e => (s, .error e)
  | .ok bs => reconcile h bs ds s

end Margin

end Scriptorium
