import Mathlib.Data.List.Basic
import Scriptorium.Console

/-!
A slate: a small console of eighty columns. It knows the tags of small letters and no others, shows
no pictures, and breaks no lines. It reads a text from the front, one character after the other, and
is one of the consoles of which something is known (`readsMarkup_slate`).
-/

namespace Scriptorium
set_option autoImplicit false

namespace Slate

/-! ## Reading -/

/-- What is known of a text that is read so far: what is seen of it and what follows the last bracket
that may begin a tag, both backwards, the styles that are open, and whether every tag that closed a
style had one to close. -/
structure Reading where
  seen : List Char
  tag : Option (List Char)
  styles : List (List Char)
  isSound : Bool
  deriving DecidableEq

namespace Reading

/-- The text in brackets was no tag. -/
def quoted (r : Reading) (content : List Char) : Reading :=
  { r with seen := ']' :: content.reverse ++ '[' :: r.seen, tag := none }

/-- The bracket is closed. A tag with a slash in front closes the style that it names, or the last
one that is open; any other opens its style. -/
def closed (r : Reading) (content : List Char) : Reading :=
  match content with
  | ['/'] => { r with tag := none, styles := r.styles.tail, isSound := r.isSound && r.styles ≠ [] }
  | '/' :: name =>
    if name.all Char.isLower then
      { r with
        tag := none, styles := r.styles.erase name, isSound := r.isSound && name ∈ r.styles }
    else r.quoted content
  | [] => r.quoted content
  | name =>
    if name.all Char.isLower then { r with tag := none, styles := name :: r.styles }
    else r.quoted content

def step : Reading → Char → Reading
  | ⟨seen, none, styles, isSound⟩, c =>
    if c = '[' then ⟨seen, some [], styles, isSound⟩ else ⟨c :: seen, none, styles, isSound⟩
  | ⟨seen, some tag, styles, isSound⟩, c =>
    if c = ']' then closed ⟨seen, some tag, styles, isSound⟩ tag.reverse
    else if c = '[' then ⟨tag ++ '[' :: seen, some [], styles, isSound⟩
    else ⟨seen, some (c :: tag), styles, isSound⟩

def read (cs : List Char) : Reading := cs.foldl step ⟨[], none, [], true⟩

/-- All that is seen when the text is over. A bracket that nothing closed has begun no tag. -/
def chars (r : Reading) : List Char := ((r.tag.elim [] (· ++ ['['])) ++ r.seen).reverse

section Runs
variable {seen tag cs : List Char} {styles : List (List Char)} {isSound : Bool}

theorem step_open : step ⟨seen, none, styles, isSound⟩ '[' = ⟨seen, some [], styles, isSound⟩ := rfl

theorem step_close : step ⟨seen, some tag, styles, isSound⟩ ']' =
    closed ⟨seen, some tag, styles, isSound⟩ tag.reverse := rfl

theorem foldl_step_outside (h : '[' ∉ cs) :
    cs.foldl step ⟨seen, none, styles, isSound⟩ = ⟨cs.reverse ++ seen, none, styles, isSound⟩ := by
  induction cs generalizing seen with
  | nil => rfl
  | cons c cs ih =>
    rw [List.mem_cons, not_or] at h
    rw [List.foldl_cons, step, if_neg (Ne.symm h.1), ih h.2, List.reverse_cons,
      List.append_assoc, List.singleton_append]

theorem foldl_step_inside (hopen : '[' ∉ cs) (hclose : ']' ∉ cs) :
    cs.foldl step ⟨seen, some tag, styles, isSound⟩ =
      ⟨seen, some (cs.reverse ++ tag), styles, isSound⟩ := by
  induction cs generalizing tag with
  | nil => rfl
  | cons c cs ih =>
    rw [List.mem_cons, not_or] at hopen hclose
    rw [List.foldl_cons, step, if_neg (Ne.symm hclose.1), if_neg (Ne.symm hopen.1),
      ih hopen.2 hclose.2, List.reverse_cons, List.append_assoc, List.singleton_append]

theorem closed_name {r : Reading} {name : List Char} (h : name.all Char.isLower) (hne : name ≠ []) :
    r.closed name = { r with tag := none, styles := name :: r.styles } := by
  unfold closed
  split
  · exact absurd h (by decide)
  · exact absurd (List.all_eq_true.mp h '/' List.mem_cons_self) (by decide)
  · exact absurd rfl hne
  · rw [if_pos h]

/-- No style is open. -/
theorem isSound_closed_slash {seen tag name : List Char} (h : name.all Char.isLower) :
    (closed ⟨seen, tag, [], true⟩ ('/' :: name)).isSound = false := by
  cases name with
  | nil => rfl
  | cons c name =>
    change (if (c :: name).all Char.isLower then _ else _ : Reading).isSound = false
    rw [if_pos h]
    rfl

/-- After a text with something in brackets behind it. -/
theorem read_brackets {before content : List Char} (rest : List Char) (hbefore : '[' ∉ before)
    (hopen : '[' ∉ content) (hclose : ']' ∉ content) :
    read (before ++ '[' :: (content ++ ']' :: rest)) =
      rest.foldl step (closed ⟨before.reverse, some content.reverse, [], true⟩ content) := by
  rw [read, List.foldl_append, foldl_step_outside hbefore, List.append_nil, List.foldl_cons,
    step_open, List.foldl_append, foldl_step_inside hopen hclose, List.append_nil,
    List.foldl_cons, step_close, List.reverse_reverse]

theorem isSound_step {r : Reading} (h : r.isSound = false) (c : Char) :
    (r.step c).isSound = false := by
  have hclosed (content : List Char) : (r.closed content).isSound = false := by
    unfold closed
    repeat' split
    all_goals simp [quoted, h]
  unfold step
  repeat' split
  all_goals first | exact h | exact hclosed _

/-- What was unsound stays so, whatever follows. -/
theorem isSound_foldl {r : Reading} (h : r.isSound = false) (cs : List Char) :
    (cs.foldl step r).isSound = false := by
  induction cs generalizing r with
  | nil => exact h
  | cons c cs ih => exact ih (isSound_step h c)

end Runs

end Reading

def shown (s : String) : Except Console.Fault String :=
  let r := Reading.read s.toList
  if r.isSound then .ok (String.ofList r.chars) else .error (.markup "a tag closes nothing")

section Shown
variable {s before name after : String}

theorem not_mem_of_isBare {c : Char} (h : Console.IsBare s) (hc : c ∈ ['[', ':', '\\']) :
    c ∉ s.toList := by
  intro hmem
  have hbare := List.all_eq_true.mp h c hmem
  simp only [List.mem_cons, List.not_mem_nil, or_false] at hc
  rcases hc with rfl | rfl | rfl <;> simp at hbare

theorem not_mem_of_isTagName {c : Char} (h : Console.IsTagName name) (hc : c.isLower = false) :
    c ∉ name.toList := fun hmem =>
  absurd (List.all_eq_true.mp h c hmem) (by simp [hc])

theorem shown_of_isBare (h : Console.IsBare s) : shown s = .ok s := by
  have hread : Reading.read s.toList = ⟨s.toList.reverse, none, [], true⟩ := by
    rw [Reading.read, Reading.foldl_step_outside (not_mem_of_isBare h (by simp)), List.append_nil]
  simp [shown, hread, Reading.chars]

theorem shown_tag (hbefore : Console.IsBare before) (hname : Console.IsTagName name)
    (hne : name ≠ "") (hafter : Console.IsBare after) :
    shown (before ++ "[" ++ name ++ "]" ++ after) = .ok (before ++ after) := by
  have htext : (before ++ "[" ++ name ++ "]" ++ after).toList =
      before.toList ++ '[' :: (name.toList ++ ']' :: after.toList) := by
    simp
  have hread : Reading.read (before ++ "[" ++ name ++ "]" ++ after).toList =
      ⟨after.toList.reverse ++ before.toList.reverse, none, [name.toList], true⟩ := by
    rw [htext, Reading.read_brackets _ (not_mem_of_isBare hbefore (by simp))
      (not_mem_of_isTagName hname rfl) (not_mem_of_isTagName hname rfl),
      Reading.closed_name hname (by simpa using hne),
      Reading.foldl_step_outside (not_mem_of_isBare hafter (by simp))]
  simp only [shown, hread, Reading.chars]
  simp

theorem shown_closing (hbefore : Console.IsBare before) (hname : Console.IsTagName name) :
    ∃ message, shown (before ++ "[/" ++ name ++ "]" ++ after) = .error (.markup message) := by
  have htext : (before ++ "[/" ++ name ++ "]" ++ after).toList =
      before.toList ++ '[' :: ('/' :: name.toList ++ ']' :: after.toList) := by
    simp
  have hread : (Reading.read (before ++ "[/" ++ name ++ "]" ++ after).toList).isSound = false := by
    rw [htext, Reading.read_brackets _ (not_mem_of_isBare hbefore (by simp))]
    · exact Reading.isSound_foldl (Reading.isSound_closed_slash hname) _
    · simpa using not_mem_of_isTagName hname rfl
    · simpa using not_mem_of_isTagName hname rfl
  refine ⟨"a tag closes nothing", ?_⟩
  rw [shown, hread]
  rfl

end Shown

/-! ## Drawing -/

def cell (width : Nat) (s : String) : List Char :=
  ' ' :: s.toList ++ List.replicate (width - s.length) ' ' ++ [' ']

def rowLine (bar : Char) (widths : List Nat) (row : List String) : List Char :=
  bar :: (widths.zipWith (fun w s => cell w s ++ [bar]) row).flatten ++ ['\n']

def ruleLine (left fill cross right : Char) (widths : List Nat) : List Char :=
  left :: [cross].intercalate (widths.map fun w => List.replicate (w + 2) fill) ++ [right, '\n']

def drawn (t : Table) : String :=
  String.ofList (ruleLine '┏' '━' '┳' '┓' t.widths) ++
    String.ofList (rowLine '┃' t.widths t.heading) ++
    String.ofList (ruleLine '┡' '━' '╇' '┩' t.widths) ++
    String.ofList (t.rows.flatMap (rowLine '│' t.widths)) ++
    String.ofList (ruleLine '└' '─' '┴' '┘' t.widths)

theorem infix_rowLine {bar : Char} {widths : List Nat} {row : List String}
    (hlength : row.length = widths.length) {s : String} (hs : s ∈ row) :
    s.toList <:+: rowLine bar widths row := by
  obtain ⟨i, hi, rfl⟩ := List.mem_iff_getElem.mp hs
  have hw : i < widths.length := hlength ▸ hi
  have hmem : cell widths[i] row[i] ++ [bar] ∈
      widths.zipWith (fun w s => cell w s ++ [bar]) row :=
    List.mem_iff_getElem.mpr ⟨i, by simp only [List.length_zipWith]; omega, by simp⟩
  have hcell : row[i].toList <:+: cell widths[i] row[i] ++ [bar] :=
    ⟨[' '], List.replicate (widths[i] - row[i].length) ' ' ++ [' '] ++ [bar], by simp [cell]⟩
  have hcells := hcell.trans (List.infix_of_mem_flatten hmem)
  exact hcells.trans ⟨[bar], ['\n'], rfl⟩

theorem length_widths {t : Table} (h : ∀ row ∈ t.rows, row.length = t.heading.length) :
    t.widths.length = t.heading.length := by
  suffices hrows : ∀ (rows : List (List String)) (ws : List Nat),
      (∀ row ∈ rows, row.length = ws.length) →
      (rows.foldl (fun ws row => ws.zipWith max (row.map String.length)) ws).length = ws.length by
    rw [Table.widths, hrows _ _ (by simpa using h), List.length_map]
  intro rows
  induction rows with
  | nil => exact fun _ _ => rfl
  | cons row rows ih =>
    intro ws hrows
    obtain ⟨hrow, hrest⟩ := List.forall_mem_cons.mp hrows
    have hwidths : (ws.zipWith max (row.map String.length)).length = ws.length := by
      simp [hrow]
    rw [List.foldl_cons, ih _ (by simpa [hwidths] using hrest), hwidths]

theorem infix_drawn {t : Table} (h : ∀ row ∈ t.rows, row.length = t.heading.length)
    {row : List String} (hrow : row ∈ t.heading :: t.rows) {s : String} (hs : s ∈ row) :
    s.toList <:+: (drawn t).toList := by
  have hlength : ∀ row ∈ t.heading :: t.rows, row.length = t.widths.length := by
    rw [length_widths h]
    exact List.forall_mem_cons.mpr ⟨rfl, h⟩
  have hin {bar : Char} : s.toList <:+: rowLine bar t.widths row := infix_rowLine (hlength row hrow) hs
  simp only [drawn, String.toList_append, String.toList_ofList]
  rcases List.mem_cons.mp hrow with rfl | hrow
  · exact hin.trans ⟨_, _, by rw [← List.append_assoc, ← List.append_assoc]⟩
  · have hrows : rowLine '│' t.widths row <:+: t.rows.flatMap (rowLine '│' t.widths) :=
      List.infix_of_mem_flatten (List.mem_map_of_mem hrow)
    exact hin.trans (hrows.trans ⟨_, _, rfl⟩)

end Slate

def slate : Console where
  width := 80
  shown := Slate.shown
  plain s := s
  printed s := s ++ "\n"
  laidOut := Slate.drawn

open Slate in
/-- A table is drawn piece by piece. -/
theorem laidOut_slate {t : Table} {widths : List Nat} {top heading middle rows bottom : String}
    (hwidths : t.widths = widths)
    (htop : String.ofList (ruleLine '┏' '━' '┳' '┓' widths) = top)
    (hheading : String.ofList (rowLine '┃' widths t.heading) = heading)
    (hmiddle : String.ofList (ruleLine '┡' '━' '╇' '┩' widths) = middle)
    (hrows : String.ofList (t.rows.flatMap (rowLine '│' widths)) = rows)
    (hbottom : String.ofList (ruleLine '└' '─' '┴' '┘' widths) = bottom) :
    slate.laidOut t = top ++ heading ++ middle ++ rows ++ bottom := by
  rw [← htop, ← hheading, ← hmiddle, ← hrows, ← hbottom, ← hwidths]
  rfl

theorem readsMarkup_slate : slate.ReadsMarkup where
  bare := Slate.shown_of_isBare
  tag := Slate.shown_tag
  closing := Slate.shown_closing
  plain _ := rfl
  printed _ := rfl
  laidOut ht _ hrow _ hs := Slate.infix_drawn ht.rectangular hrow hs

end Scriptorium
