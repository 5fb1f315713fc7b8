import Scriptorium.Remote.Failure

/-!
What to do when a version cannot be fetched: which other version to try instead, if any.
-/

namespace Scriptorium
set_option autoImplicit false

/-- Either every failure is final, or a draft may be replaced by the published version unless the
failure belongs to a hard class. Any other policy is known by its answers alone. -/
inductive FallbackPolicy where
  | never
  | publishedForDraft (hard : List FailureClass)
  | answering (choose : Variant → Failure → Option Variant)

namespace FallbackPolicy

/-- A dead connection is not worth a second request. -/
def standard : FallbackPolicy := .publishedForDraft [.unreachable, .closed]

/-- Whether the policy counts a failure as hard, if it tells failures apart in this way. -/
def isHard? : FallbackPolicy → Failure → Option Bool
  | publishedForDraft hard, f => some (hard.any fun c => c.Has f)
  | never, _ | answering _, _ => none

/-- The version to try after the failure of another. -/
def fallback? : FallbackPolicy → Variant → Failure → Option Variant
  | never, _, _ => none
  | publishedForDraft hard, requested, f =>
    if hard.any fun c => c.Has f then none
    else match requested with
      | .draft => some .published
      | .published => none
  | answering choose, requested, f => choose requested f

end FallbackPolicy

end Scriptorium
