import Mathlib.Data.List.Nodup
import Scriptorium.Signal

/-!
What a handle takes back. A handle knows the listener and not the subscription, so it takes the
first subscription of that listener back, whichever call made it. Beside the signal a book is kept
of the subscriptions, each with the number of the call that made it; the book tells when the handle
of a call takes back what that call put in (`first_cancelled`).
-/

namespace Scriptorium
set_option autoImplicit false

namespace Signal

/-- What is done with a signal. Handles are told by the number of the call that gave them out. -/
inductive Act (κ : Type) where
  | subscribe (k : κ)
  | unsubscribe (k : κ)
  | cancel (n : Nat)

/-- A subscription, with the number of the call that made it. -/
structure Subscription (κ : Type) where
  number : Nat
  listener : κ
  deriving DecidableEq

/-- A signal with the handles that it has given out and a book of the subscriptions it has. -/
structure Roll (κ : Type) where
  signal : Signal κ
  handles : List (Handle κ)
  book : List (Subscription κ)

namespace Roll
variable {κ : Type}

def blank (name : String) : Roll κ := ⟨named name, [], []⟩

/-- The book without the subscription that the call of this number made. -/
def without (x : Roll κ) (n : Nat) : List (Subscription κ) := x.book.filter (·.number ≠ n)

section Acts
variable [DecidableEq κ]

/-- The first subscription of a listener goes. -/
def struck (x : Roll κ) (k : κ) : List (Subscription κ) := x.book.eraseP (·.listener = k)

def act (x : Roll κ) : Act κ → Roll κ
  | .subscribe k =>
    ⟨(x.signal.subscribe k).1, x.handles ++ [(x.signal.subscribe k).2],
      x.book ++ [⟨x.handles.length, k⟩]⟩
  | .unsubscribe k => ⟨x.signal.unsubscribe k, x.handles, x.struck k⟩
  | .cancel n =>
    match x.handles[n]? with
    | some handle => ⟨x.signal.cancel handle, x.handles, x.struck handle.listener⟩
    | none => x

def actAll (x : Roll κ) (acts : List (Act κ)) : Roll κ := acts.foldl act x

end Acts

/-- The book is that of the signal, and each of its numbers is that of the handle given out. -/
structure Kept (x : Roll κ) : Prop where
  listed : x.book.map Subscription.listener = x.signal.listeners
  distinct : (x.book.map Subscription.number).Nodup
  given : ∀ e ∈ x.book, x.handles[e.number]? = some ⟨e.listener⟩

theorem kept_blank (name : String) : (blank name : Roll κ).Kept :=
  ⟨rfl, List.nodup_nil, fun _ he => absurd he List.not_mem_nil⟩

section Step
variable [DecidableEq κ] {x : Roll κ} {n : Nat} {k : κ}

theorem Kept.struck (hx : x.Kept) (k : κ) :
    (x.struck k).map Subscription.listener = x.signal.listeners.erase k := by
  rw [← hx.listed, List.erase_eq_eraseP', List.eraseP_map]
  rfl

theorem Kept.strike (hx : x.Kept) (k : κ) {s : Signal κ}
    (hs : s.listeners = x.signal.listeners.erase k) : Kept ⟨s, x.handles, x.struck k⟩ := by
  have hsublist : (x.struck k).Sublist x.book := List.eraseP_sublist
  exact ⟨(hx.struck k).trans hs.symm, hx.distinct.sublist (hsublist.map _),
    fun e he => hx.given e (hsublist.subset he)⟩

theorem Kept.subscribe (hx : x.Kept) (k : κ) : (x.act (.subscribe k)).Kept := by
  have hearlier : ∀ e ∈ x.book, e.number < x.handles.length := by
    intro e he
    exact (List.getElem?_eq_some_iff.mp (hx.given e he)).1
  refine ⟨?_, ?_, ?_⟩
  · simp [act, hx.listed]
  · have hfresh : x.handles.length ∉ x.book.map Subscription.number := by
      rw [List.mem_map]
      rintro ⟨e, he, hnumber⟩
      exact absurd (hearlier e he) (by simp [hnumber])
    simpa [Roll.act, List.nodup_append] using ⟨hx.distinct, by simpa using hfresh⟩
  · intro e he
    rcases List.mem_append.mp he with he | he
    · exact (List.getElem?_append_left (hearlier e he)).trans (hx.given e he)
    · obtain rfl := List.mem_singleton.mp he
      exact List.getElem?_concat_length

theorem Kept.act (hx : x.Kept) (a : Act κ) : (x.act a).Kept := by
  cases a with
  | subscribe k => exact hx.subscribe k
  | unsubscribe k => exact hx.strike k rfl
  | cancel n =>
    rw [Roll.act]
    split
    · exact hx.strike _ rfl
    · exact hx

theorem Kept.actAll (hx : x.Kept) (acts : List (Act κ)) : (x.actAll acts).Kept :=
  List.foldlRecOn acts Roll.act hx fun _ hy a _ => hy.act a

/-- Every signal is had in this way. -/
theorem exists_actAll (s : Signal κ) : ∃ acts, ((blank s.name).actAll acts).signal = s := by
  have hall : ∀ (ks : List κ) (y : Roll κ), (y.actAll (ks.map .subscribe)).signal =
      ⟨y.signal.name, y.signal.listeners ++ ks⟩ := by
    intro ks
    induction ks with
    | nil =>
      intro y
      simp [Roll.actAll]
    | cons k ks ih =>
      intro y
      change ((y.act (.subscribe k)).actAll (ks.map .subscribe)).signal = _
      rw [ih]
      simp [Roll.act, Signal.subscribe]
  exact ⟨s.listeners.map .subscribe, by rw [hall]; rfl⟩

/-- No subscription of the listener is there, or the first one is struck from between the others. -/
theorem struck_cases (x : Roll κ) (k : κ) :
    (x.book.find? (·.listener = k) = none ∧ x.struck k = x.book ∧ ∀ e ∈ x.book, e.listener ≠ k) ∨
    ∃ before e after, x.book.find? (·.listener = k) = some e ∧ x.book = before ++ e :: after ∧
      x.struck k = before ++ after ∧ ∀ d ∈ before, d.listener ≠ k := by
  cases hfind : x.book.find? (·.listener = k) with
  | none =>
    have hnone : ∀ e ∈ x.book, e.listener ≠ k := by simpa using hfind
    exact .inl ⟨rfl, List.eraseP_of_forall_not (by simpa using hnone), hnone⟩
  | some e =>
    obtain ⟨hk, before, after, hbook, hbefore⟩ := List.find?_eq_some_iff_append.mp hfind
    have hothers : ∀ d ∈ before, d.listener ≠ k := by simpa using hbefore
    refine .inr ⟨before, e, after, rfl, hbook, ?_, hothers⟩
    rw [Roll.struck, hbook, List.eraseP_append_right _ (by simpa using hothers),
      List.eraseP_cons, hk, cond_true]

omit [DecidableEq κ] in
theorem Kept.listener_eq (hx : x.Kept) {handle : Handle κ} (hn : x.handles[n]? = some handle)
    {e : Subscription κ} (he : e ∈ x.book) (hnumber : e.number = n) :
    e.listener = handle.listener := by
  have hgiven := hx.given e he
  rw [hnumber, hn] at hgiven
  exact congrArg Handle.listener (Option.some.inj hgiven).symm

/-- The first subscription of the listener is that of the call, or there is none any more. -/
theorem Kept.struck_eq_without_iff (hx : x.Kept) {handle : Handle κ}
    (hn : x.handles[n]? = some handle) :
    x.struck handle.listener = x.without n ↔
      ∀ e ∈ x.book.find? (·.listener = handle.listener), e.number = n := by
  have hstay : ∀ ds : List (Subscription κ), ds ⊆ x.book →
      (∀ d ∈ ds, d.listener ≠ handle.listener) → ds.filter (·.number ≠ n) = ds := by
    intro ds hds hothers
    rw [List.filter_eq_self]
    intro d hd
    exact decide_eq_true fun hnumber => hothers d hd (hx.listener_eq hn (hds hd) hnumber)
  rcases struck_cases x handle.listener with ⟨hfind, hstruck, hnone⟩ |
      ⟨before, e, after, hfind, hbook, hstruck, hbefore⟩
  · rw [hstruck, without, hstay _ (List.Subset.refl _) hnone, hfind]
    simp
  · have hfront := hstay before (by simp [hbook]) hbefore
    have hwithout : x.without n = before ++ (e :: after).filter (·.number ≠ n) := by
      rw [without, hbook, List.filter_append, hfront]
    rw [hstruck, hwithout, List.append_cancel_left_eq, hfind]
    simp only [Option.mem_def, Option.some.injEq, forall_eq']
    have hdistinct := hx.distinct
    rw [hbook, List.map_append, List.map_cons] at hdistinct
    have hlater : e.number ∉ after.map Subscription.number :=
      (List.nodup_cons.mp hdistinct.of_append_right).1
    constructor
    · intro hsame
      by_contra hother
      rw [List.filter_cons_of_pos (by simpa using hother)] at hsame
      have hagain : e ∈ after := hsame ▸ List.mem_cons_self
      exact hlater (List.mem_map_of_mem hagain)
    · intro hown
      rw [List.filter_cons_of_neg (by simpa using hown), eq_comm, List.filter_eq_self]
      intro d hd
      exact decide_eq_true fun hnumber =>
        hlater (List.mem_map.mpr ⟨d, hd, hnumber.trans hown.symm⟩)

theorem cancel_cancel_iff (s : Signal κ) (handle : Handle κ) :
    (s.cancel handle).cancel handle = s.cancel handle ↔
      s.listeners.count handle.listener ≤ 1 := by
  have hlist : (s.cancel handle).cancel handle = s.cancel handle ↔
      (s.listeners.erase handle.listener).erase handle.listener =
        s.listeners.erase handle.listener := by
    simp [Signal.cancel, Signal.unsubscribe]
  rw [hlist, List.erase_eq_self_iff, ← List.count_eq_zero, List.count_erase_self]
  omega

end Step

section Main
variable [DecidableEq κ]

/-- A handle takes the first subscription of its listener back, and leaves the others as they are.
This is the one that its own call made, or none if that is gone, exactly if no other subscription of
the listener comes first; and called again it takes nothing more exactly if the listener had no
second subscription. -/
theorem first_cancelled {name : String} {acts : List (Act κ)} {x : Roll κ} {n : Nat}
    {handle : Handle κ} (hx : (blank name).actAll acts = x) (hn : x.handles[n]? = some handle) :
    (x.book.map Subscription.listener = x.signal.listeners ∧
      (x.book.map Subscription.number).Nodup ∧
      ∀ e ∈ x.book, e.number = n → e.listener = handle.listener) ∧
    (x.signal.cancel handle).listeners =
      (x.struck handle.listener).map Subscription.listener ∧
    (x.struck handle.listener = x.without n ↔
      ∀ e ∈ x.book.find? (·.listener = handle.listener), e.number = n) ∧
    ((x.signal.cancel handle).cancel handle = x.signal.cancel handle ↔
      x.signal.listeners.count handle.listener ≤ 1) := by
  have hkept : x.Kept := hx ▸ (kept_blank name).actAll acts
  exact ⟨⟨hkept.listed, hkept.distinct, fun e => hkept.listener_eq hn⟩,
    (hkept.struck handle.listener).symm, hkept.struck_eq_without_iff hn,
    cancel_cancel_iff x.signal handle⟩

end Main

/-- A listener that subscribed before another one and behind it. -/
def around : Roll Nat :=
  (blank "value-changed").actAll [.subscribe 0, .subscribe 1, .unsubscribe 1, .subscribe 1,
    .subscribe 0]

/-- The handle of the first call takes back what that call made, and then what the last one did. -/
theorem first_cancelled_around :
    (blank "value-changed").actAll [.subscribe 0, .subscribe 1, .unsubscribe 1, .subscribe 1,
      .subscribe 0] = around ∧
    around.handles[0]? = some ⟨0⟩ ∧ around.struck 0 = around.without 0 ∧
    (around.signal.cancel ⟨0⟩).listeners = [1, 0] ∧
    (around.signal.cancel ⟨0⟩).cancel ⟨0⟩ ≠ around.signal.cancel ⟨0⟩ := by
  have hgiven : around.handles[0]? = some ⟨0⟩ := rfl
  obtain ⟨_, hlist, hown, htwice⟩ := first_cancelled (x := around) rfl hgiven
  refine ⟨rfl, hgiven, hown.mpr (by decide), hlist.trans (by decide), ?_⟩
  exact fun hsame => absurd (htwice.mp hsame) (by decide)

/-- Two calls of one listener. -/
def doubled : Roll Nat := (blank "value-changed").actAll [.subscribe 0, .subscribe 0]

/-- The last handle takes back what the first call made, and leaves what its own call did. And the
handle of the first of two calls takes both back if it is called twice. -/
theorem other_cancelled_around :
    (around.act (.cancel 3)).signal.listeners = [1, 0] ∧
    (around.without 3).map Subscription.listener = [0, 1] ∧
    ((doubled.act (.cancel 0)).act (.cancel 0)).signal.listeners = [] ∧
    ((doubled.act (.cancel 0)).without 0).map Subscription.listener = [0] := by
  decide

end Roll

end Signal

end Scriptorium
