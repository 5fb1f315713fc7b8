import Mathlib.Data.List.Induction
import Scriptorium.Proofs.Margin.Account
import Scriptorium.Remote.Shelf
import Scriptorium.Session

/-!
The title of a session and those who listen to it. Two flags make up the title, and the session tells
of a new title whenever one of them changes. Since different flags give different titles, whoever
listens hears of every change of the title once and of nothing else (`title_followed`).

Whether the text counts as unsaved depends on the whole run: on the last time that it was saved, and
on what each text since then was compared with, which is the snapshot of that moment. The second half
of the main statement says so without looking at the flag.
-/

namespace Scriptorium
set_option autoImplicit false

namespace Session
variable {κ ω σ : Type}

/-- What is given to a session from outside. -/
structure Surroundings (κ ω σ : Type) where
  parser : Parser
  fetch : Fetch σ
  onTitle : Reaction κ ω
  onNotice : Margin.Reaction κ ω

/-- What may be done with a session. The store is as it is at that moment. -/
inductive Operation (κ σ : Type) where
  | setCheckedOut (value : Bool)
  | setUnsaved (value : Bool)
  | textChanged (text : String)
  | markSaved
  | loadContent (store : σ) (now : Int) (force : Bool)
  | loadParameters (store : σ) (now : Int)
  | reparse (text : String)
  | subscribe (k : κ)
  | unsubscribe (k : κ)
  /-- The cache is used by others. -/
  | recache (cache : Cache)

/-- The text is said to be unsaved, or differs from the snapshot that there is. -/
def Operation.Marks (x : Session κ ω) : Operation κ σ → Prop
  | .setUnsaved value => value = true
  | .textChanged text => text ≠ (x.cache.snapshot.map Snapshot.body).getD ""
  | _ => False

/-- The text is said to be saved. -/
def Operation.Clears : Operation κ σ → Prop
  | .setUnsaved value => value = false
  | .markSaved => True
  | _ => False

section Perform
variable [DecidableEq κ]

def perform (e : Surroundings κ ω σ) (x : Session κ ω) : Operation κ σ → Session κ ω
  | .setCheckedOut value => (x.setCheckedOut e.onTitle value).1
  | .setUnsaved value => (x.setUnsaved e.onTitle value).1
  | .textChanged text => x.textChanged e.onTitle text
  | .markSaved => x.markSaved e.onTitle
  | .loadContent store now force => (x.loadContent e.fetch store now force).2.1
  | .loadParameters store now => (x.loadParameters e.parser e.fetch store now).2.1
  | .reparse text => (x.reparse e.parser e.onNotice text).1
  | .subscribe k => { x with titleChanged := (x.titleChanged.subscribe k).1 }
  | .unsubscribe k => { x with titleChanged := x.titleChanged.unsubscribe k }
  | .recache cache => { x with cache := cache }

def performAll (e : Surroundings κ ω σ) (x : Session κ ω) (ops : List (Operation κ σ)) :
    Session κ ω :=
  ops.foldl (perform e) x

end Perform

/-- Different flags make different titles. -/
theorem title_eq_iff {x y : Session κ ω} (hname : x.name = y.name) :
    x.title = y.title ↔
      x.unsaved.value = y.unsaved.value ∧ x.checkedOut.value = y.checkedOut.value := by
  unfold title
  rw [hname, String.append_assoc, String.append_assoc, String.append_right_inj]
  generalize x.unsaved.value = u, x.checkedOut.value = c, y.unsaved.value = v,
    y.checkedOut.value = d
  revert u c v d
  decide

/-- The flags and the name are the same, and so are those who listen to the flags. -/
structure Settled (x y : Session κ ω) : Prop where
  name : y.name = x.name
  checkedOut : y.checkedOut = x.checkedOut
  unsaved : y.unsaved = x.unsaved

namespace Settled
variable {x y z : Session κ ω}

theorem refl (x : Session κ ω) : Settled x x := ⟨rfl, rfl, rfl⟩

theorem trans (hxy : Settled x y) (hyz : Settled y z) : Settled x z :=
  ⟨hyz.name.trans hxy.name, hyz.checkedOut.trans hxy.checkedOut, hyz.unsaved.trans hxy.unsaved⟩

theorem log (x : Session κ ω) (journal : Journal) : Settled x (x.log journal) := ⟨rfl, rfl, rfl⟩

theorem title_eq (hxy : Settled x y) : y.title = x.title := by
  rw [title_eq_iff hxy.name, hxy.unsaved, hxy.checkedOut]
  exact ⟨rfl, rfl⟩

end Settled

/-- Listener `k` writes down the titles it hears where `heard` finds them. No listener changes the
flags or the name, falsifies the record or meddles with the subscription of `k`. -/
structure Records [DecidableEq κ] (e : Surroundings κ ω σ) (k : κ) (heard : ω → List String) :
    Prop where
  settled : ∀ j title x, Settled x (e.onTitle j title x).1
  hears : ∀ title x,
    heard (e.onTitle k title x).1.margin.shared = heard x.margin.shared ++ [title]
  others : ∀ j title x, j ≠ k →
    heard (e.onTitle j title x).1.margin.shared = heard x.margin.shared
  notices : ∀ j n s, heard (e.onNotice j n s).1.shared = heard s.shared

/-- The session listens to both flags, and nobody else does. -/
structure Relayed (x : Session κ ω) : Prop where
  checkedOut : x.checkedOut.changed.listeners = [.title]
  unsaved : x.unsaved.changed.listeners = [.title]

theorem relayed_new (documentId name : String) (cache : Cache) (margin : Margin κ ω)
    (checkedOut : Bool) : Relayed (.new documentId name cache margin checkedOut) := ⟨rfl, rfl⟩

section Step
variable [DecidableEq κ] {e : Surroundings κ ω σ} {k : κ} {heard : ω → List String}
variable {x y : Session κ ω}

/-- Each listener is called once for each of its subscriptions. -/
theorem Records.notifyTitle (hrec : Records e k heard) (x : Session κ ω) :
    Settled x (notifyTitle e.onTitle x) ∧
      heard (x.notifyTitle e.onTitle).margin.shared = heard x.margin.shared ++
        List.replicate (x.titleChanged.listeners.count k) x.title := by
  unfold Session.notifyTitle
  generalize x.title = title, x.titleChanged.failure = entry
  generalize x.titleChanged.listeners = ks
  induction ks generalizing x with
  | nil => exact ⟨.refl x, by simp⟩
  | cons j ks ih =>
    rw [deliver_cons]
    generalize hz : (if (e.onTitle j title x).2 then (e.onTitle j title x).1.log [entry]
      else (e.onTitle j title x).1) = z
    have hcall : Settled x z ∧
        heard z.margin.shared = heard (e.onTitle j title x).1.margin.shared := by
      rw [← hz]
      split
      · exact ⟨(hrec.settled j title x).trans (.log _ _), rfl⟩
      · exact ⟨hrec.settled j title x, rfl⟩
    obtain ⟨hsettled, hheard⟩ := ih z
    refine ⟨hcall.1.trans hsettled, ?_⟩
    rw [hheard, hcall.2]
    by_cases hj : j = k
    · rw [hj, hrec.hears, List.count_cons_self, List.replicate_succ, List.append_assoc]
      rfl
    · rw [hrec.others j title x hj, List.count_cons_of_ne hj]

/-- Nothing of what the title tells has changed and nobody was told of it. -/
structure Unheard (heard : ω → List String) (x y : Session κ ω) : Prop extends Settled x y where
  heard : heard y.margin.shared = heard x.margin.shared

omit [DecidableEq κ] in
theorem Unheard.loadContent (fetch : Fetch σ) (store : σ) (now : Int) (x : Session κ ω)
    (force : Bool) : Unheard heard x (x.loadContent fetch store now force).2.1 :=
  ⟨⟨rfl, rfl, rfl⟩, rfl⟩

omit [DecidableEq κ] in
theorem Unheard.loadParameters (parser : Parser) (fetch : Fetch σ) (store : σ) (now : Int)
    (x : Session κ ω) :
    Unheard heard x (x.loadParameters parser fetch store now).2.1 := by
  have hload : Unheard heard x (x.loadContent fetch store now false).2.1 :=
    .loadContent fetch store now x false
  unfold Session.loadParameters
  generalize x.loadContent fetch store now false = r at hload ⊢
  obtain ⟨store', y, f | text⟩ := r
  · exact hload
  · dsimp only
    split
    · exact hload
    · exact ⟨hload.toSettled.trans (.log y _), hload.heard⟩

theorem Records.heard_replaceParseErrors (hrec : Records e k heard) (s : Margin κ ω)
    (ds : List Diagnostic) :
    heard (Margin.replaceParseErrors e.onNotice s ds).1.shared = heard s.shared := by
  have hkept : Margin.Kept fun t : Margin κ ω => heard t.shared = heard s.shared :=
    { silent := fun _ _ hst hs => hst.shared ▸ hs
      make := fun _ _ _ hs => hs
      unlive := fun _ _ _ hs => hs
      enter := fun _ _ _ _ hs => hs
      report := fun _ _ hs => hs
      leave := fun _ _ _ hs => hs }
  have hheeds : Margin.Heeds e.onNotice fun t => heard t.shared = heard s.shared :=
    fun j n t ht => (hrec.notices j n t).trans ht
  exact hkept.perform hheeds (c := .replaceParseErrors ds) trivial rfl

theorem Records.reparse (hrec : Records e k heard) (x : Session κ ω) (text : String) :
    Unheard heard x (x.reparse e.parser e.onNotice text).1 := by
  unfold Session.reparse
  split
  · exact ⟨.refl x, rfl⟩
  · rename_i p _
    dsimp only
    generalize hy : (if p.hasErrors then x.log [⟨.debug, "Runbook '" ++ x.documentId ++ "' has " ++
      toString p.diagnostics.length ++ " parse error(s)"⟩] else x) = y
    have hlogged : Unheard heard x y := by
      rw [← hy]
      split
      · exact ⟨.log x _, rfl⟩
      · exact ⟨.refl x, rfl⟩
    have hmargin := hrec.heard_replaceParseErrors y.margin p.diagnostics
    generalize Margin.replaceParseErrors e.onNotice y.margin p.diagnostics = r at hmargin ⊢
    obtain ⟨margin, m | bs⟩ := r
    all_goals
      exact ⟨⟨hlogged.name, hlogged.checkedOut, hlogged.unsaved⟩, hmargin.trans hlogged.heard⟩

/-- Nobody hears of what changes no flag, and a flag that changes is told of in one title. -/
inductive Outcome (e : Surroundings κ ω σ) (heard : ω → List String) (x : Session κ ω) :
    Session κ ω → Prop where
  | unheard {y : Session κ ω} : Unheard heard x y → Outcome e heard x y
  | told (checkedOut unsaved : Bool) :
      ¬ (unsaved = x.unsaved.value ∧ checkedOut = x.checkedOut.value) →
      Outcome e heard x (notifyTitle e.onTitle
        { x with
          checkedOut := { x.checkedOut with value := checkedOut }
          unsaved := { x.unsaved with value := unsaved } })

omit [DecidableEq κ] in
theorem outcome_setCheckedOut (hx : Relayed x) (value : Bool) :
    Outcome e heard x (x.setCheckedOut e.onTitle value).1 := by
  by_cases hne : value = x.checkedOut.value
  · rw [hne, setCheckedOut_self]
    exact .unheard ⟨.refl x, rfl⟩
  · rw [setCheckedOut_of_ne _ hx.checkedOut hne]
    exact .told value x.unsaved.value fun heq => hne heq.2

omit [DecidableEq κ] in
theorem outcome_setUnsaved (hx : Relayed x) (value : Bool) :
    Outcome e heard x (x.setUnsaved e.onTitle value).1 := by
  by_cases hne : value = x.unsaved.value
  · rw [hne, setUnsaved_self]
    exact .unheard ⟨.refl x, rfl⟩
  · rw [setUnsaved_of_ne _ hx.unsaved hne]
    exact .told x.checkedOut.value value fun heq => hne heq.1

theorem outcome_perform (hrec : Records e k heard) (hx : Relayed x) (op : Operation κ σ) :
    Outcome e heard x (perform e x op) := by
  cases op with
  | setCheckedOut value => exact outcome_setCheckedOut hx value
  | setUnsaved value => exact outcome_setUnsaved hx value
  | textChanged text =>
    change Outcome e heard x (x.textChanged e.onTitle text)
    unfold Session.textChanged
    split
    · exact outcome_setUnsaved hx true
    · exact .unheard ⟨.refl x, rfl⟩
  | markSaved => exact outcome_setUnsaved hx false
  | loadContent store now force => exact .unheard (.loadContent _ _ _ x _)
  | loadParameters store now => exact .unheard (.loadParameters _ _ _ _ x)
  | reparse text => exact .unheard (hrec.reparse x text)
  | subscribe j => exact .unheard ⟨⟨rfl, rfl, rfl⟩, rfl⟩
  | unsubscribe j => exact .unheard ⟨⟨rfl, rfl, rfl⟩, rfl⟩
  | recache cache => exact .unheard ⟨⟨rfl, rfl, rfl⟩, rfl⟩

namespace Outcome

theorem relayed (hrec : Records e k heard) (hx : Relayed x) (hy : Outcome e heard x y) :
    Relayed y := by
  cases hy with
  | unheard hy => exact ⟨hy.checkedOut ▸ hx.checkedOut, hy.unsaved ▸ hx.unsaved⟩
  | told checkedOut unsaved _ =>
    obtain ⟨hsettled, _⟩ := hrec.notifyTitle { x with
      checkedOut := { x.checkedOut with value := checkedOut }
      unsaved := { x.unsaved with value := unsaved } }
    exact ⟨hsettled.checkedOut ▸ hx.checkedOut, hsettled.unsaved ▸ hx.unsaved⟩

theorem heard_eq (hrec : Records e k heard) (hk : x.titleChanged.listeners.count k = 1)
    (hy : Outcome e heard x y) :
    heard y.margin.shared =
      heard x.margin.shared ++ if y.title = x.title then [] else [y.title] := by
  cases hy with
  | unheard hy => rw [hy.heard, if_pos hy.title_eq, List.append_nil]
  | told checkedOut unsaved hne =>
    obtain ⟨hsettled, hheard⟩ := hrec.notifyTitle { x with
      checkedOut := { x.checkedOut with value := checkedOut }
      unsaved := { x.unsaved with value := unsaved } }
    rw [if_neg, hheard, hsettled.title_eq, hk]
    · rfl
    · rw [hsettled.title_eq]
      intro htitle
      rw [title_eq_iff (by rfl)] at htitle
      exact hne htitle

end Outcome

end Step

section Unsaved
variable [DecidableEq κ] {e : Surroundings κ ω σ} {k : κ} {heard : ω → List String}
variable {x : Session κ ω}

theorem unsaved_setUnsaved (hrec : Records e k heard) (hx : Relayed x) (value : Bool) :
    (x.setUnsaved e.onTitle value).1.unsaved.value = value := by
  by_cases hne : value = x.unsaved.value
  · rw [hne, setUnsaved_self]
  · rw [setUnsaved_of_ne _ hx.unsaved hne, (hrec.notifyTitle _).1.unsaved]

theorem unsaved_setCheckedOut (hrec : Records e k heard) (hx : Relayed x) (value : Bool) :
    (x.setCheckedOut e.onTitle value).1.unsaved = x.unsaved := by
  by_cases hne : value = x.checkedOut.value
  · rw [hne, setCheckedOut_self]
  · rw [setCheckedOut_of_ne _ hx.checkedOut hne, (hrec.notifyTitle _).1.unsaved]

/-- One operation leaves the text unsaved if it says so, and if it does not say the contrary. -/
theorem unsaved_perform (hrec : Records e k heard) (hx : Relayed x) (op : Operation κ σ) :
    (perform e x op).unsaved.value = true ↔
      op.Marks x ∨ (x.unsaved.value = true ∧ ¬ op.Clears) := by
  have hquiet : ∀ y : Session κ ω, y.unsaved = x.unsaved →
      (y.unsaved.value = true ↔ False ∨ (x.unsaved.value = true ∧ ¬ False)) := by
    intro y hy
    simp [hy]
  cases op with
  | setCheckedOut value => exact hquiet _ (unsaved_setCheckedOut hrec hx value)
  | setUnsaved value =>
    change (x.setUnsaved e.onTitle value).1.unsaved.value = true ↔
      value = true ∨ (x.unsaved.value = true ∧ ¬ value = false)
    rw [unsaved_setUnsaved hrec hx value]
    cases value <;> simp
  | textChanged text =>
    change (x.textChanged e.onTitle text).unsaved.value = true ↔
      text ≠ x.cache.baseline ∨ (x.unsaved.value = true ∧ ¬ False)
    unfold Session.textChanged Cache.hasUnsavedChanges
    by_cases htext : text = x.cache.baseline
    · simp [htext]
    · simp [htext, unsaved_setUnsaved hrec hx]
  | markSaved =>
    change (x.setUnsaved e.onTitle false).1.unsaved.value = true ↔
      False ∨ (x.unsaved.value = true ∧ ¬ True)
    rw [unsaved_setUnsaved hrec hx false]
    simp
  | loadContent store now force => exact hquiet _ rfl
  | loadParameters store now =>
    have hload : Unheard heard x (x.loadParameters e.parser e.fetch store now).2.1 :=
      .loadParameters e.parser e.fetch store now x
    exact hquiet _ hload.unsaved
  | reparse text => exact hquiet _ (hrec.reparse x text).unsaved
  | subscribe j => exact hquiet _ rfl
  | unsubscribe j => exact hquiet _ rfl
  | recache cache => exact hquiet _ rfl

theorem relayed_performAll (hrec : Records e k heard) (hx : Relayed x)
    (ops : List (Operation κ σ)) : Relayed (performAll e x ops) := by
  refine List.foldlRecOn (motive := Relayed) ops _ hx ?_
  exact fun y hy op _ => (outcome_perform hrec hy op).relayed hrec hy

/-- Some operation marked the text as unsaved, and none since then cleared the mark. -/
def Marked (e : Surroundings κ ω σ) (x : Session κ ω) (ops : List (Operation κ σ)) : Prop :=
  ∃ past op later, ops = past ++ op :: later ∧ op.Marks (performAll e x past) ∧
    ∀ o ∈ later, ¬ o.Clears

theorem not_marked_nil : ¬ Marked e x [] := by
  rintro ⟨past, op, later, hops, _⟩
  simp at hops

theorem marked_concat (ops : List (Operation κ σ)) (op : Operation κ σ) :
    Marked e x (ops ++ [op]) ↔
      op.Marks (performAll e x ops) ∨ (Marked e x ops ∧ ¬ op.Clears) := by
  constructor
  · rintro ⟨past, o, later, hops, hmarks, hlater⟩
    rcases List.eq_nil_or_concat later with rfl | ⟨later, p, rfl⟩
    · obtain ⟨rfl, ho⟩ := List.append_inj' hops rfl
      cases ho
      exact .inl hmarks
    · have hassoc : past ++ o :: (later.concat p) = (past ++ o :: later) ++ [p] := by simp
      rw [hassoc] at hops
      obtain ⟨rfl, hp⟩ := List.append_inj' hops rfl
      cases hp
      refine .inr ⟨⟨past, o, later, rfl, hmarks, fun q hq => hlater q ?_⟩, hlater op ?_⟩
      · simp [hq]
      · simp
  · rintro (hmarks | ⟨⟨past, o, later, rfl, hmarks, hlater⟩, hop⟩)
    · exact ⟨ops, op, [], rfl, hmarks, nofun⟩
    · refine ⟨past, o, later ++ [op], by simp, hmarks, ?_⟩
      intro q hq
      rcases List.mem_append.mp hq with hq | hq
      · exact hlater q hq
      · exact List.mem_singleton.mp hq ▸ hop

theorem unsaved_performAll (hrec : Records e k heard) (hx : Relayed x)
    (hsaved : x.unsaved.value = false) (ops : List (Operation κ σ)) :
    (performAll e x ops).unsaved.value = true ↔ Marked e x ops := by
  induction ops using List.reverseRecOn with
  | nil => simp [performAll, hsaved, not_marked_nil]
  | append_singleton ops op ih =>
    have hlast : performAll e x (ops ++ [op]) = perform e (performAll e x ops) op := by
      simp [performAll]
    rw [hlast, unsaved_perform hrec (relayed_performAll hrec hx ops), marked_concat, ih]

/-- Whatever was done with a session since it was opened: whoever listens hears of the next operation
just if the title is another one after it, and is told that title; and the text is unsaved if it was
marked so and not cleared since. -/
theorem title_followed (hrec : Records e k heard) (documentId name : String) (cache : Cache)
    (margin : Margin κ ω) (checkedOut : Bool) (ops : List (Operation κ σ)) :
    let x := performAll e (.new documentId name cache margin checkedOut) ops
    (∀ op, x.titleChanged.listeners.count k = 1 →
      heard (perform e x op).margin.shared = heard x.margin.shared ++
        if (perform e x op).title = x.title then [] else [(perform e x op).title]) ∧
    (x.unsaved.value = true ↔ Marked e (.new documentId name cache margin checkedOut) ops) := by
  have hnew := relayed_new documentId name cache margin checkedOut
  refine ⟨fun op hk => ?_, unsaved_performAll hrec hnew rfl ops⟩
  exact (outcome_perform hrec (relayed_performAll hrec hnew ops) op).heard_eq hrec hk

end Unsaved

/-- One listener writes down the titles it hears, and the other always fails. -/
def proclaimed : Surroundings Bool (List String) Shelf where
  parser := fun _ => none
  fetch := Shelf.fetch
  onTitle := fun j title x =>
    if j then
      ({ x with margin := { x.margin with shared := x.margin.shared ++ [title] } }, false)
    else (x, true)
  onNotice := fun _ _ s => (s, true)

theorem records_proclaimed : Records proclaimed true id where
  settled j _ _ := by cases j <;> exact ⟨rfl, rfl, rfl⟩
  hears _ _ := rfl
  others j _ _ hj := by
    cases j with
    | false => rfl
    | true => exact absurd rfl hj
  notices _ _ _ := rfl

/-- A draft is loaded, edited, checked in and published meanwhile; what was the text before the
edit is a change now. -/
def retitled : List (Operation Bool Shelf) :=
  [.subscribe false, .subscribe true, .loadContent (Shelf.empty.put "42" "text" .draft) 0 false,
    .textChanged "text", .textChanged "more text", .markSaved, .setCheckedOut false,
    .loadParameters (Shelf.empty.put "42" "more text" .published) 0, .textChanged "text",
    .setUnsaved true, .reparse "text"]

theorem title_followed_retitled :
    Records proclaimed true id ∧
    let x := performAll proclaimed
      (.new "42" "Restart-Fleet" (.new "42" .standard 10) (.empty none []) true) retitled
    x.titleChanged.listeners.count true = 1 ∧
    x.margin.shared = ["Restart-Fleet* (draft)", "Restart-Fleet (draft)", "Restart-Fleet",
      "Restart-Fleet*"] ∧
    (∀ op, x.titleChanged.listeners.count true = 1 →
      id (perform proclaimed x op).margin.shared = id x.margin.shared ++
        if (perform proclaimed x op).title = x.title then []
        else [(perform proclaimed x op).title]) ∧
    (x.unsaved.value = true ↔ Marked proclaimed
      (.new "42" "Restart-Fleet" (.new "42" .standard 10) (.empty none []) true) retitled) :=
  ⟨records_proclaimed, by decide +kernel, by decide +kernel,
    title_followed records_proclaimed "42" "Restart-Fleet" (.new "42" .standard 10) (.empty none [])
      true retitled⟩

end Session

end Scriptorium
