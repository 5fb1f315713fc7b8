import Scriptorium.Margin.Basic
import Scriptorium.Text.Quoted

/-!
Bookmarks and markers described in one line, for messages.
-/

namespace Scriptorium
set_option autoImplicit false

def Kind.word : Kind → String
  | .breakpoint => "breakpoint"
  | .parseError => "parse_error"
  | .debugPoint => "current_debug_point"

def Kind.ofWord? (s : String) : Option Kind :=
  [Kind.breakpoint, .parseError, .debugPoint].find? fun k => k.word = s

namespace Margin
variable {κ ω : Type}

private def describeKind (k : Kind) : String :=
  "<BookmarkKind." ++ String.ofList (k.word.toList.map Char.toUpper) ++ ": '" ++ k.word ++ "'>"

private def describeAnchor (s : Margin κ ω) : Anchor → String
  | .line i => "LineAnchor(line=" ++ toString (s.tracker.line i) ++ ")"
  | .span i =>
    "OffsetAnchor(offset=" ++ toString (s.tracker.span i).offset ++
      ", length=" ++ toString (s.tracker.span i).length ++ ")"

def describeBookmark (s : Margin κ ω) (b : BookmarkId) : String :=
  "Bookmark(kind=" ++ describeKind (s.bookmark b).kind ++
    ", anchor=" ++ describeAnchor s (s.bookmark b).anchor ++
    ", message=" ++ Text.quoted (s.bookmark b).message ++ ")"

private def describeLabel (s : Margin κ ω) : Label → String
  | .blank => "None"
  | .flag b => if b then "True" else "False"
  | .number n => toString n
  | .text t => Text.quoted t
  | .bookmark b => s.describeBookmark b

def describeMarker (s : Margin κ ω) (m : MarkerId) : String :=
  "TextMarker(start_offset=" ++ toString (s.markerSpan m).offset ++
    ", length=" ++ toString (s.markerSpan m).length ++
    ", tag=" ++ describeLabel s (s.marker m).tag ++ ")"

end Margin

end Scriptorium
