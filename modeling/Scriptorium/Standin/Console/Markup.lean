import Scriptorium.Standin.Console.Emoji
import Scriptorium.Standin.Console.TagStyle

/-!
Console markup. A text in brackets that begins with a small letter, `#`, `/` or `@` is a tag and
is not shown; one that begins with a slash closes the style it names, or the last one that is
open. A backslash in front makes a tag ordinary text, and two stand for one. The styles of the
tags are not shown either, but they must not have colours without numbers. Each text between tags is
shown as the console shows texts, with its pictures and without controls.
-/

namespace Scriptorium
set_option autoImplicit false

namespace Markup
open Text

def beginsTag (c : Char) : Bool := c.isLower || c == '#' || c == '/' || c == '@'

private def isInside (c : Char) : Bool := c != '[' && c != ']'

/-- The content of the tag that a text begins with, and what follows it. -/
def tag? : List Char → Option (List Char × List Char)
  | '[' :: c :: cs =>
    if beginsTag c then
      match cs.dropWhile isInside with
      | ']' :: rest => some (c :: cs.takeWhile isInside, rest)
      | _ => none
    else none
  | _ => none

theorem length_lt_of_tag? {cs content rest : List Char} (h : tag? cs = some (content, rest)) :
    rest.length < cs.length := by
  unfold tag? at h
  split at h
  · rename_i c ds
    split at h
    · split at h
      · rename_i r hd
        have hl := (List.dropWhile_suffix isInside (l := ds)).length_le
        rw [hd] at hl
        simp only [Option.some.injEq, Prod.mk.injEq] at h
        rw [← h.2]
        simp only [List.length_cons] at hl ⊢
        omega
      · cases h
    · cases h
  · cases h

/-- A markup text is a sequence of shown texts and tags. -/
inductive Piece where
  | text (cs : List Char)
  | tag (content : List Char)
  deriving DecidableEq, Repr

def slashes (cs : List Char) : Nat := (cs.takeWhile (· == '\\')).length

/-- The tag behind the backslashes in front of a text, and what follows it. -/
def tagBehind? (cs : List Char) : Option (List Char × List Char) := tag? (cs.drop (slashes cs))

theorem length_lt_of_tagBehind? {cs content rest : List Char}
    (h : tagBehind? cs = some (content, rest)) : rest.length < cs.length := by
  have h1 := length_lt_of_tag? h
  have h2 := List.length_drop (i := slashes cs) (l := cs)
  omega

/-- The text in front of the first tag, and all that follows it. -/
def beforeTag : List Char → List Char × List Char
  | [] => ([], [])
  | c :: cs =>
    if (tagBehind? (c :: cs)).isSome then ([], c :: cs)
    else ((c :: (beforeTag cs).1), (beforeTag cs).2)

theorem append_beforeTag (cs : List Char) : (beforeTag cs).1 ++ (beforeTag cs).2 = cs := by
  induction cs with
  | nil => rfl
  | cons c cs ih =>
    rw [beforeTag]
    split
    · rfl
    · simp [ih]

/-- In front of a bracket that begins no tag one backslash is dropped; others stand for
themselves. -/
def unescaped : List Char → List Char
  | '\\' :: '[' :: cs => '[' :: unescaped cs
  | c :: cs => c :: unescaped cs
  | [] => []

/-- The pieces that a tag with backslashes in front amounts to. -/
def tagPieces (slashes : Nat) (content : List Char) : List Piece :=
  [.text (List.replicate (slashes / 2) '\\'),
    if slashes % 2 = 0 then .tag content else .text ('[' :: content ++ [']'])]

def pieces (cs : List Char) : List Piece :=
  .text (unescaped (beforeTag cs).1) ::
    match _h : tagBehind? (beforeTag cs).2 with
    | some (content, rest) => tagPieces (slashes (beforeTag cs).2) content ++ pieces rest
    | none => []
  termination_by cs.length
  decreasing_by
    have lt := length_lt_of_tagBehind? _h
    have whole := congrArg List.length (append_beforeTag cs)
    rw [List.length_append] at whole
    omega

inductive Fault where
  /-- a tag closes nothing -/
  | unmatched (content : List Char)
  /-- the parts of a colour are no numbers -/
  | notANumber
  deriving DecidableEq, Repr

/-- The normal name of the style that a tag names. -/
def styleName (name : List Char) : Except Fault (List Char) :=
  (TagStyle.normalName name).mapError fun _ => .notANumber

/-- A tag that is open: the name and the parameters of its style, and how much was shown before
it. -/
structure OpenTag where
  name : List Char
  parameters : Option (List Char)
  start : Nat
  deriving DecidableEq, Repr

/-- A tag that is read, after as much as is given. -/
def OpenTag.ofContent (content : List Char) (start : Nat) : Except Fault OpenTag := do
  let name ← styleName (content.takeWhile (· != '='))
  return ⟨name, match content.dropWhile (· != '=') with | _ :: cs => some cs | [] => none, start⟩

structure Styled where
  start : Nat
  stop : Nat
  description : List Char
  deriving DecidableEq, Repr

/-- The style of a tag that is closed after as much as is given. -/
def OpenTag.closed (t : OpenTag) (stop : Nat) : Styled :=
  ⟨t.start, stop, t.name ++ (t.parameters.elim [] (' ' :: ·))⟩

/-- What is known of a markup text as far as it is read: what is shown, backwards, and how much
that is, the tags that are open, the last one first, and the styles of the others. -/
structure Shown where
  reversed : List Char := []
  length : Nat := 0
  tags : List OpenTag := []
  styles : List Styled := []
  deriving DecidableEq, Repr

namespace Shown

def chars (s : Shown) : List Char := s.reversed.reverse

def text (s : Shown) (cs : List Char) : Shown :=
  let cs := Display.visible cs
  { s with reversed := cs.reverse ++ s.reversed, length := s.length + cs.length }

def close (s : Shown) (t : OpenTag) : Shown :=
  { s with tags := s.tags.erase t, styles := t.closed s.length :: s.styles }

/-- The tag that a closing tag of a name closes. -/
def closedBy? (s : Shown) (name : List Char) : Except Fault (Option OpenTag) :=
  if Text.trim name = [] then .ok s.tags.head?
  else (styleName (Text.trim name)).map fun name => s.tags.find? fun t => t.name = name

def tag (s : Shown) (content : List Char) : Except Fault Shown :=
  match content with
  | '/' :: cs => do
    match ← s.closedBy? (cs.takeWhile (· != '=')) with
    | some t => return s.close t
    | none => throw (.unmatched content)
  | _ => (OpenTag.ofContent content s.length).map fun t => { s with tags := t :: s.tags }

def piece (s : Shown) : Piece → Except Fault Shown
  | .text cs => .ok (s.text cs)
  | .tag content => s.tag content

/-- Whether the text is shown as it stands, so that even a style which holds nowhere is read. -/
def isOneLine (s : Shown) : Bool := '\n' ∉ s.reversed && '\t' ∉ s.reversed

/-- Whether a style is read: it must hold somewhere between line breaks. -/
def reads (s : Shown) (t : Styled) : Bool :=
  s.isOneLine || ((s.chars.drop t.start).take (t.stop - t.start)).any (· != '\n')

/-- The text, if the styles in it can be read. Every tag is closed at its end. -/
def finish (s : Shown) : Except Fault (List Char) :=
  let styles := s.styles ++ s.tags.map fun t => t.closed s.length
  if styles.all fun t => !s.reads t || TagStyle.isSound t.description then .ok s.chars
  else .error .notANumber

end Shown

def shown (cs : List Char) : Except Fault (List Char) :=
  (pieces cs).foldlM Shown.piece {} >>= Shown.finish

end Markup

end Scriptorium
