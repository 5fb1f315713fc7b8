import Scriptorium.Proofs.Margin.Carried
import Scriptorium.Proofs.Margin.Mirror

/-!
A sheet is a text with its margin. The text is a list of lines, no two of which are the same, so
that a line keeps its identity wherever edits carry it. Edits are made to the text and told to the
margin; the margin knows of lines by their number only. `home` remembers for each bookmark on
which line it was set: neither the text nor the margin looks at it.

The margin follows the text: each bookmark of a line has the number that its home now has, and an
edit takes it out just if it takes its home out.
-/

namespace Scriptorium
set_option autoImplicit false

/-- The list without the `gone` entries behind the first `above`, and with the new ones there. -/
def spliced {α : Type} (l : List α) (above gone : Nat) (new : List α) : List α :=
  l.take above ++ new ++ l.drop (above + gone)

section Spliced
variable {α : Type} {l new : List α} {above gone i : Nat} {a : α}

theorem getElem?_spliced_of_lt (hl : i < l.length) (hi : i < above) :
    (spliced l above gone new)[i]? = l[i]? := by
  have htake : i < (l.take above).length := by
    rw [List.length_take]
    omega
  rw [spliced, List.append_assoc, List.getElem?_append_left htake, List.getElem?_take, if_pos hi]

theorem getElem?_spliced_of_le (hl : i < l.length) (hi : above + gone ≤ i) :
    (spliced l above gone new)[i - gone + new.length]? = l[i]? := by
  have hfront : (l.take above ++ new).length = above + new.length := by
    rw [List.length_append, List.length_take]
    omega
  rw [spliced, List.getElem?_append_right (by omega), List.getElem?_drop, hfront]
  congr 1
  omega

theorem not_mem_spliced (hn : l.Nodup) (hi : above ≤ i) (hgone : i < above + gone)
    (ha : l[i]? = some a) : a ∉ spliced l above gone [] := by
  obtain ⟨hlen, rfl⟩ := List.getElem?_eq_some_iff.mp ha
  intro hmem
  rw [spliced, List.append_nil] at hmem
  rcases List.mem_append.mp hmem with hmem | hmem
  · obtain ⟨j, hj, heq⟩ := List.mem_iff_getElem.mp hmem
    rw [List.getElem_take] at heq
    have hij : j = i := (hn.getElem_inj_iff).mp heq
    rw [List.length_take] at hj
    omega
  · obtain ⟨j, hj, heq⟩ := List.mem_iff_getElem.mp hmem
    rw [List.getElem_drop] at heq
    have hij : above + gone + j = i := (hn.getElem_inj_iff).mp heq
    omega

theorem spliced_sublist (l : List α) (above gone : Nat) :
    (spliced l above gone []).Sublist l := by
  have hdrop := List.drop_sublist_drop_left l (Nat.le_add_right above gone)
  have hjoin := hdrop.append_left (l.take above)
  rwa [List.take_append_drop, ← List.append_nil (l.take above)] at hjoin

end Spliced

structure Sheet (α κ ω : Type) where
  lines : List α
  margin : Margin κ ω
  home : BookmarkId → Option α

namespace Sheet
variable {α κ ω : Type}

def Has (x : Sheet α κ ω) (line : Int) : Prop := 1 ≤ line ∧ line ≤ x.lines.length

/-- The lines on which the bookmarks were set, once `t` is the margin. A bookmark that was stored
before keeps its home, and the home of any other is the line where it is. -/
def settled (x : Sheet α κ ω) (t : Margin κ ω) (b : BookmarkId) : Option α :=
  if b ∈ x.margin.stored then x.home b
  else (t.lineNumber? b).bind fun line => x.lines[(line - 1).toNat]?

/-- The number of the bookmark is the number that its home has, counted from one. -/
def AtHome (x : Sheet α κ ω) (b : BookmarkId) : Prop :=
  ∃ (i : Nat) (a : α), x.home b = some a ∧ x.lines[i]? = some a ∧
    x.margin.lineNumber? b = some ((i : Int) + 1)

/-- New lines are put in before line `first`, and the margin is told of `count`. -/
def insertLines (h : Margin.Reaction κ ω) (x : Sheet α κ ω) (first count : Int) (new : List α) :
    Sheet α κ ω :=
  { x with
    lines := spliced x.lines (first - 1).toNat 0 new
    margin := Margin.linesInserted h x.margin first count }

/-- The text loses `count` lines from line `first` on, and the margin is told. -/
def deleteLines (h : Margin.Reaction κ ω) (x : Sheet α κ ω) (first count : Int) : Sheet α κ ω :=
  { x with
    lines := spliced x.lines (first - 1).toNat count.toNat []
    margin := Margin.linesDeleted h x.margin first count }

/-- The margin is given a command, and what it takes in finds a home. -/
def perform (h : Margin.Reaction κ ω) (x : Sheet α κ ω) (c : Margin.Command) : Sheet α κ ω :=
  { x with
    margin := (Margin.perform h x.margin c).1
    home := x.settled (Margin.perform h x.margin c).1 }

/-- An edit of the text. -/
inductive Edit (h : Margin.Reaction κ ω) : Sheet α κ ω → Sheet α κ ω → Prop where
  | linesInserted {x : Sheet α κ ω} (first count : Int) (new : List α) :
    1 ≤ first → first ≤ x.lines.length + 1 → new.length = count.toNat →
    (x.insertLines h first count new).lines.Nodup → Edit h x (x.insertLines h first count new)
  | linesDeleted {x : Sheet α κ ω} (first count : Int) :
    1 ≤ first → first + count - 1 ≤ x.lines.length → Edit h x (x.deleteLines h first count)
  | charactersInserted {x : Sheet α κ ω} (start count : Int) :
    Edit h x { x with margin := Margin.charactersInserted h x.margin start count }
  | charactersDeleted {x : Sheet α κ ω} (start count : Int) :
    Edit h x { x with margin := Margin.charactersDeleted h x.margin start count }

/-- An edit, or a command that sets bookmarks on existing lines only, or a change beside these. -/
inductive Turn [DecidableEq κ] (h : Margin.Reaction κ ω) (k : κ)
    (heard : ω → List Margin.Sighting) : Sheet α κ ω → Sheet α κ ω → Prop where
  | edit {x y : Sheet α κ ω} : Edit h x y → Turn h k heard x y
  | command {x : Sheet α κ ω} (c : Margin.Command) :
    c.Places x.Has x.margin → c.Fit x.margin → Turn h k heard x (x.perform h c)
  | aside {x : Sheet α κ ω} {t : Margin κ ω} :
    Margin.Undisturbed k heard x.margin t → Turn h k heard x { x with margin := t }

/-- What holds of a sheet whenever no command is under way. -/
structure Tidy [DecidableEq κ] (k : κ) (heard : ω → List Margin.Sighting) (x : Sheet α κ ω) :
    Prop where
  distinct : x.lines.Nodup
  ordered : x.margin.ruling.Ordered [] 0
  mirrors : Margin.Mirrors k heard x.margin [] x.margin
  atHome : ∀ b ∈ x.margin.stored, (x.margin.bookmark b).kind.OnLine → x.AtHome b

variable {h : Margin.Reaction κ ω} {k : κ} {heard : ω → List Margin.Sighting}
variable {x y : Sheet α κ ω} {b : BookmarkId}

theorem AtHome.inserted (hb : x.AtHome b) {first count : Int} {new : List α} (hf : 1 ≤ first)
    (hnew : new.length = count.toNat)
    (hy : y.lines = spliced x.lines (first - 1).toNat 0 new) (hhome : y.home = x.home)
    (hmoved : ∀ line, x.margin.lineNumber? b = some line →
      y.margin.lineNumber? b = some (lineInserted first count.toNat line)) : y.AtHome b := by
  obtain ⟨i, a, ha, hi, hline⟩ := hb
  have hlen : i < x.lines.length := (List.getElem?_eq_some_iff.mp hi).1
  have hline' := hmoved _ hline
  rw [lineInserted, ← hnew] at hline'
  by_cases hle : first ≤ (i : Int) + 1
  · refine ⟨i + new.length, a, hhome ▸ ha, ?_, ?_⟩
    · rw [hy, ← hi]
      exact getElem?_spliced_of_le hlen (by omega)
    · rw [hline', if_pos hle]
      congr 1
      omega
  · refine ⟨i, a, hhome ▸ ha, ?_, ?_⟩
    · rw [hy, ← hi]
      exact getElem?_spliced_of_lt hlen (by omega)
    · rw [hline', if_neg hle]

theorem AtHome.deleted (hb : x.AtHome b) {first count : Int} (hf : 1 ≤ first)
    (hy : y.lines = spliced x.lines (first - 1).toNat count.toNat []) (hhome : y.home = x.home)
    (hstay : ∀ line, x.margin.lineNumber? b = some line → ¬ LineGone first count.toNat line)
    (hmoved : ∀ line, x.margin.lineNumber? b = some line →
      y.margin.lineNumber? b = some (lineDeleted first count.toNat line)) : y.AtHome b := by
  obtain ⟨i, a, ha, hi, hline⟩ := hb
  have hlen : i < x.lines.length := (List.getElem?_eq_some_iff.mp hi).1
  have hline' := hmoved _ hline
  have hstay' := hstay _ hline
  rw [LineGone] at hstay'
  rw [lineDeleted] at hline'
  by_cases hle : first + count.toNat ≤ (i : Int) + 1
  · refine ⟨i - count.toNat, a, hhome ▸ ha, ?_, ?_⟩
    · rw [hy, ← hi]
      exact getElem?_spliced_of_le hlen (by omega)
    · rw [hline', if_pos hle]
      congr 1
      omega
  · refine ⟨i, a, hhome ▸ ha, ?_, ?_⟩
    · rw [hy, ← hi]
      exact getElem?_spliced_of_lt hlen (by omega)
    · rw [hline', if_neg hle]

theorem AtHome.of_ruling (hb : x.AtHome b) (hlines : y.lines = x.lines) (hhome : y.home = x.home)
    (hruling : y.margin.ruling = x.margin.ruling) : y.AtHome b := by
  obtain ⟨i, a, ha, hi, hline⟩ := hb
  refine ⟨i, a, hhome ▸ ha, hlines ▸ hi, ?_⟩
  exact (congrArg (fun r => r.lineNumber? b) hruling).trans hline

theorem AtHome.mem_lines (hb : x.AtHome b) {a : α} (ha : x.home b = some a) : a ∈ x.lines := by
  obtain ⟨i, a', ha', hi, _⟩ := hb
  have : a = a' := Option.some_inj.mp (ha.symm.trans ha')
  exact this ▸ List.mem_of_getElem? hi

theorem Edit.home_eq (he : Edit h x y) : y.home = x.home := by
  cases he <;> rfl

variable [DecidableEq κ]

/-- What an edit does to the margin is honest, and leaves it in order. -/
theorem Edit.keeps (hrec : Margin.Records h k heard) (hx : Tidy k heard x) (he : Edit h x y) :
    y.lines.Nodup ∧ y.margin.ruling.Ordered [] 0 ∧
      Margin.Mirrors k heard x.margin [] y.margin := by
  have hn := Margin.ordered_of_lawful (.aloof hrec.aloof)
  cases he with
  | linesInserted first count new hf hlast hnew hnodup =>
    exact ⟨hnodup, Margin.linesInserted_ordered (hn [] 0) first count hx.ordered,
      hx.mirrors.linesInserted hrec first count⟩
  | linesDeleted first count hf hlast =>
    refine ⟨?_, Margin.linesDeleted_ordered hn hf count hx.ordered,
      hx.mirrors.linesDeleted hrec first count⟩
    exact hx.distinct.sublist (spliced_sublist x.lines _ _)
  | charactersInserted start count =>
    refine ⟨hx.distinct, ?_, hx.mirrors.charactersInserted hrec start count⟩
    exact (Margin.ruling_charactersInserted hrec.aloof start count).symm ▸ hx.ordered
  | charactersDeleted start count =>
    refine ⟨hx.distinct, ?_, hx.mirrors.charactersDeleted hrec start count⟩
    exact (Margin.ruling_charactersDeleted hrec.aloof start count).symm ▸ hx.ordered

/-- A bookmark at home stays in the margin just if its home stays in the text, and then goes
along with it. -/
theorem Edit.follows (hrec : Margin.Records h k heard) (hx : Tidy k heard x) (he : Edit h x y)
    (hb : b ∈ x.margin.stored) (hhome : x.AtHome b) :
    (b ∈ y.margin.stored → y.AtHome b) ∧
      ∀ a, x.home b = some a → (b ∈ y.margin.stored ↔ a ∈ y.lines) := by
  -- whoever stays and is at home has its home in the text
  have hstays : b ∈ y.margin.stored → y.AtHome b →
      (b ∈ y.margin.stored → y.AtHome b) ∧
        ∀ a, x.home b = some a → (b ∈ y.margin.stored ↔ a ∈ y.lines) := by
    intro hby hat
    refine ⟨fun _ => hat, ?_⟩
    intro a ha
    exact ⟨fun _ => hat.mem_lines (he.home_eq ▸ ha), fun _ => hby⟩
  have hunmoved : y.lines = x.lines → y.margin.ruling = x.margin.ruling →
      (b ∈ y.margin.stored → y.AtHome b) ∧
        ∀ a, x.home b = some a → (b ∈ y.margin.stored ↔ a ∈ y.lines) := by
    intro hlines hruling
    have hstored : y.margin.stored = x.margin.stored := congrArg Ruling.stored hruling
    apply hstays
    · rwa [hstored]
    · exact hhome.of_ruling hlines he.home_eq hruling
  cases he with
  | linesInserted first count new hf hlast hnew hnodup =>
    have hstored : (Margin.linesInserted h x.margin first count).stored = x.margin.stored :=
      congrArg Ruling.stored (Margin.ruling_linesInserted hrec.aloof first count)
    apply hstays
    · rwa [← hstored] at hb
    · exact hhome.inserted hf hnew rfl rfl fun line =>
        Margin.lineNumber?_linesInserted hrec.aloof hx.ordered first count hb
  | linesDeleted first count hf hlast =>
    obtain ⟨i, a, ha, hi, hline⟩ := id hhome
    have hmem := Margin.mem_stored_linesDeleted hrec hx.ordered first count hb hline
    by_cases hgone : LineGone first count.toNat ((i : Int) + 1)
    · have hout : b ∉ (Margin.linesDeleted h x.margin first count).stored :=
        fun hby => hmem.mp hby hgone
      refine ⟨fun hby => absurd hby hout, ?_⟩
      intro a' ha'
      obtain rfl := Option.some_inj.mp (ha.symm.trans ha')
      refine ⟨fun hby => absurd hby hout, ?_⟩
      intro hin
      rw [LineGone] at hgone
      exact absurd hin (not_mem_spliced hx.distinct (by omega) (by omega) hi)
    · have hstay : ∀ line, x.margin.lineNumber? b = some line →
          ¬ LineGone first count.toNat line := by
        intro line hl
        obtain rfl := Option.some_inj.mp (hline.symm.trans hl)
        exact hgone
      apply hstays
      · exact hmem.mpr hgone
      · exact hhome.deleted hf rfl rfl hstay fun line hl =>
          Margin.lineNumber?_linesDeleted hrec hx.ordered first count hb hl (hstay line hl)
  | charactersInserted start count =>
    exact hunmoved rfl (Margin.ruling_charactersInserted hrec.aloof start count)
  | charactersDeleted start count =>
    exact hunmoved rfl (Margin.ruling_charactersDeleted hrec.aloof start count)

theorem Edit.stored_kind (hrec : Margin.Records h k heard) (hx : Tidy k heard x)
    (he : Edit h x y) (hb : b ∈ y.margin.stored) :
    b ∈ x.margin.stored ∧ (y.margin.bookmark b).kind = (x.margin.bookmark b).kind := by
  have hsame : y.margin.ruling.stored = x.margin.stored → y.margin.ruling.kind = x.margin.ruling.kind →
      b ∈ x.margin.stored ∧ (y.margin.bookmark b).kind = (x.margin.bookmark b).kind := by
    intro hstored hkind
    exact ⟨hstored ▸ hb, congrFun hkind b⟩
  cases he with
  | linesInserted first count new hf hlast hnew hnodup =>
    have hruling := Margin.ruling_linesInserted hrec.aloof (s := x.margin) first count
    have hstored := congrArg Ruling.stored hruling
    have hkind := congrArg Ruling.kind hruling
    exact hsame hstored hkind
  | linesDeleted first count hf hlast =>
    have hbx : b ∈ x.margin.stored := by
      have hby : b ∈ (Margin.linesDeleted h x.margin first count).stored := hb
      rw [Margin.stored_linesDeleted hrec] at hby
      exact (List.mem_filter.mp hby).1
    exact ⟨hbx, (Margin.linesDeleted_carries hrec.aloof first count hx.ordered.known).kind b
      (hx.ordered.known b hbx)⟩
  | charactersInserted start count =>
    have hruling := Margin.ruling_charactersInserted hrec.aloof (s := x.margin) start count
    exact hsame (congrArg Ruling.stored hruling) (congrArg Ruling.kind hruling)
  | charactersDeleted start count =>
    have hruling := Margin.ruling_charactersDeleted hrec.aloof (s := x.margin) start count
    exact hsame (congrArg Ruling.stored hruling) (congrArg Ruling.kind hruling)

theorem Tidy.edit (hrec : Margin.Records h k heard) (hx : Tidy k heard x) (he : Edit h x y) :
    Tidy k heard y := by
  obtain ⟨hdistinct, hordered, hmirrors⟩ := he.keeps hrec hx
  refine ⟨hdistinct, hordered, hmirrors.again, ?_⟩
  intro b hb hk
  obtain ⟨hbx, hkind⟩ := he.stored_kind hrec hx hb
  exact (he.follows hrec hx hbx (hx.atHome b hbx (hkind ▸ hk))).1 hb

/-- A command sets no bookmark but on a line that the text has, which becomes its home. -/
theorem Tidy.command (hrec : Margin.Records h k heard) (hx : Tidy k heard x)
    {c : Margin.Command} (hc : c.Places x.Has x.margin) (hfit : c.Fit x.margin) :
    Tidy k heard (x.perform h c) := by
  obtain ⟨hcarries, hsettles⟩ := Margin.perform_settles hrec.aloof hc hx.ordered
  have hordered := hsettles.ordered.rebound (Nat.zero_le _)
  refine ⟨hx.distinct, hordered, (Margin.perform_mirrors hrec hfit hx.mirrors).again, ?_⟩
  intro b hb hk
  by_cases hbx : b ∈ x.margin.stored
  · have hknown := hx.ordered.known b hbx
    have hkind : (x.margin.bookmark b).kind = ((Margin.perform h x.margin c).1.bookmark b).kind :=
      (hcarries.kind b hknown).symm
    obtain ⟨i, a, ha, hi, hline⟩ := hx.atHome b hbx (hkind ▸ hk)
    refine ⟨i, a, ?_, hi, ?_⟩
    · simpa [perform, settled, hbx] using ha
    · exact (hcarries.lineNumber? hknown fun i => hx.ordered.made b i hknown).trans hline
  · obtain ⟨i, hi⟩ := hordered.onLine b hb hk
    obtain ⟨_, hone⟩ := hordered.stays b hb List.not_mem_nil i hi
    have hline : (Margin.perform h x.margin c).1.ruling.lineNumber? b =
        some ((Margin.perform h x.margin c).1.ruling.lines.get i) := by
      simp [Ruling.lineNumber?, hi, Anchor.line?]
    obtain ⟨hfirst, hlast⟩ := hsettles.newly b hb hbx _ hline
    have hlt : ((Margin.perform h x.margin c).1.ruling.lines.get i - 1).toNat < x.lines.length := by
      omega
    refine ⟨_, x.lines[((Margin.perform h x.margin c).1.ruling.lines.get i - 1).toNat], ?_,
      List.getElem?_eq_getElem hlt, ?_⟩
    · have hline' : (Margin.perform h x.margin c).1.lineNumber? b = _ := hline
      simp [perform, settled, hbx, hline']
    · refine hline.trans (congrArg some ?_)
      omega

theorem Tidy.aside {t : Margin κ ω} (hx : Tidy k heard x)
    (ht : Margin.Undisturbed k heard x.margin t) : Tidy k heard { x with margin := t } := by
  have hruling := Margin.ruling_aside ht.aside
  have hstored : t.stored = x.margin.stored := congrArg Ruling.stored hruling
  refine ⟨hx.distinct, hruling.symm ▸ hx.ordered, (hx.mirrors.hushed (.of_undisturbed ht)).again, ?_⟩
  intro b hb hk
  have hkind : (t.bookmark b).kind = (x.margin.bookmark b).kind :=
    congrFun (congrArg Ruling.kind hruling) b
  exact (hx.atHome b (hstored ▸ hb) (hkind ▸ hk)).of_ruling rfl rfl hruling

def fresh (lines : List α) (lineCount : Option Int) (w : ω) (k : κ) : Sheet α κ ω :=
  ⟨lines, (Margin.empty lineCount w).subscribe k .changed, fun _ => none⟩

theorem tidy_of_turns (hrec : Margin.Records h k heard) {lines : List α} (hn : lines.Nodup)
    {lineCount : Option Int} {w : ω} (hw : heard w = [])
    (hr : Relation.ReflTransGen (Turn h k heard) (fresh lines lineCount w k) x) :
    Tidy k heard x := by
  induction hr with
  | refl =>
    have hempty : (Margin.empty lineCount w : Margin κ ω).ruling.Ordered [] 0 :=
      Margin.ordered_empty lineCount w
    refine ⟨hn, hempty, Margin.mirrors_subscribed hw, ?_⟩
    intro b hb
    cases hb
  | tail _ hturn ih =>
    cases hturn with
    | edit he => exact ih.edit hrec he
    | command c hc hfit => exact ih.command hrec hc hfit
    | aside ht => exact ih.aside ht

/-- Every bookmark of a line has the number of the line that it was set on. An edit takes it out
just if it takes out this line, and then tells of it once. -/
theorem lines_followed (hrec : Margin.Records h k heard) {lines : List α} (hn : lines.Nodup)
    {lineCount : Option Int} {w : ω} (hw : heard w = [])
    (hr : Relation.ReflTransGen (Turn h k heard) (fresh lines lineCount w k) x) :
    x.lines.Nodup ∧ ∀ b ∈ x.margin.stored, (x.margin.bookmark b).kind.OnLine →
      x.AtHome b ∧ ∀ y, Edit h x y →
        (∀ a, x.home b = some a → (b ∈ y.margin.stored ↔ a ∈ y.lines)) ∧
        Margin.departures b (heard y.margin.shared) =
          Margin.departures b (heard x.margin.shared) + if b ∈ y.margin.stored then 0 else 1 := by
  have hx := tidy_of_turns hrec hn hw hr
  refine ⟨hx.distinct, ?_⟩
  intro b hb hk
  have hat := hx.atHome b hb hk
  refine ⟨hat, ?_⟩
  intro y he
  refine ⟨(he.follows hrec hx hb hat).2, ?_⟩
  rw [(he.keeps hrec hx).2.2.departed b]
  by_cases hby : b ∈ y.margin.stored
  · simp [hby]
  · simp [hb, hby]

/-- Four lines, with a breakpoint on the second and the debug point on the last; then one more
line is put in before the second. -/
def page : Sheet Nat Bool (List Margin.Sighting) :=
  ((((fresh [10, 20, 30, 40] none [] true).perform Margin.scribe (.toggleBreakpoint 2)).perform
    Margin.scribe (.setDebugPoint 4)).insertLines Margin.scribe 2 1 [15])

/-- The line of the breakpoint goes, and the debug point moves up with its own. -/
theorem lines_followed_page :
    page.lines = [10, 15, 20, 30, 40] ∧ page.margin.stored = [0, 1] ∧
    page.home 0 = some 20 ∧ (page.deleteLines Margin.scribe 3 2).lines = [10, 15, 40] ∧
    (page.deleteLines Margin.scribe 3 2).margin.lineNumber? 1 = some 3 ∧
    page.AtHome 0 ∧
    (0 ∈ (page.deleteLines Margin.scribe 3 2).margin.stored ↔
      20 ∈ (page.deleteLines Margin.scribe 3 2).lines) ∧
    Margin.departures 0 (page.deleteLines Margin.scribe 3 2).margin.shared =
      Margin.departures 0 page.margin.shared +
        if 0 ∈ (page.deleteLines Margin.scribe 3 2).margin.stored then 0 else 1 := by
  have hturns : Relation.ReflTransGen (Turn Margin.scribe true id)
      (fresh [10, 20, 30, 40] none [] true) page := by
    refine .head (.command (.toggleBreakpoint 2) ⟨by decide, by decide⟩ trivial) ?_
    refine .head (.command (.setDebugPoint 4) ⟨by decide, by decide⟩ trivial) ?_
    exact .single (.edit (.linesInserted 2 1 [15] (by decide) (by decide) (by decide) (by decide)))
  have hdelete : Edit Margin.scribe page (page.deleteLines Margin.scribe 3 2) :=
    .linesDeleted 3 2 (by decide) (by decide)
  obtain ⟨_, hpage⟩ := lines_followed Margin.records_scribe (by decide) rfl hturns
  obtain ⟨hat, hedit⟩ := hpage 0 (by decide) (by decide)
  obtain ⟨hiff, hcount⟩ := hedit _ hdelete
  exact ⟨by decide, by decide, by decide, by decide, by decide, hat, hiff 20 (by decide), hcount⟩

end Sheet

end Scriptorium
