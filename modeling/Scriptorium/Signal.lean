import Scriptorium.Journal

/-!
Signals: fire-and-forget notifications. A signal is a list of listeners, and a listener is only
a key; what it does when called is given by a reaction, which may change any state the signal
lives in, the list of listeners included.

`deliver` is the one place where listeners are called. It walks over the list as it stood when
the delivery began, so a listener that leaves meanwhile is still called and one that joins is
not, and a listener that fails is reported without holding up the others.
-/

namespace Scriptorium
set_option autoImplicit false

universe u v

/-- Calls each listener in turn. A call gives the new state and whether the listener failed. -/
def deliver {κ : Type u} {σ : Type v} (call : κ → σ → σ × Bool) (report : σ → σ) : List κ → σ → σ
  | [], s => s
  | k :: ks, s =>
    match call k s with
    | (s, false) => deliver call report ks s
    | (s, true) => deliver call report ks (report s)

section Deliver
variable {κ : Type u} {σ : Type v} (call : κ → σ → σ × Bool) (report : σ → σ)

@[simp] theorem deliver_nil (s : σ) : deliver call report [] s = s := rfl

theorem deliver_cons (k : κ) (ks : List κ) (s : σ) :
    deliver call report (k :: ks) s =
      deliver call report ks (if (call k s).2 then report (call k s).1 else (call k s).1) := by
  rw [deliver]
  rcases call k s with ⟨t, _ | _⟩ <;> rfl

/-- What each call and each report keeps, the whole delivery keeps. -/
theorem deliver_induction {I : σ → Prop} {ks : List κ}
    (hcall : ∀ k ∈ ks, ∀ s, I s → I (call k s).1) (hreport : ∀ s, I s → I (report s))
    {s : σ} (hs : I s) : I (deliver call report ks s) := by
  induction ks generalizing s with
  | nil => exact hs
  | cons k ks ih =>
    rw [deliver_cons]
    apply ih (fun l hl => hcall l (List.mem_cons_of_mem k hl))
    have hk := hcall k List.mem_cons_self s hs
    split
    · exact hreport _ hk
    · exact hk

/-- What the call of a listener brings about, and no later call or report undoes, holds for each
listener in the end. -/
theorem deliver_each {I : σ → Prop} {P : κ → σ → Prop} {ks : List κ}
    (hcall : ∀ k ∈ ks, ∀ s, I s → I (call k s).1) (hreport : ∀ s, I s → I (report s))
    (hdone : ∀ k ∈ ks, ∀ s, I s → P k (call k s).1)
    (hkept : ∀ j, ∀ k ∈ ks, ∀ s, I s → P j s → P j (call k s).1)
    (hreported : ∀ j s, P j s → P j (report s)) {s : σ} (hs : I s) :
    ∀ k ∈ ks, P k (deliver call report ks s) := by
  induction ks generalizing s with
  | nil => intro k hk; cases hk
  | cons k ks ih =>
    have hrest : ∀ l ∈ ks, l ∈ k :: ks := fun l hl => List.mem_cons_of_mem k hl
    have hk : I (call k s).1 ∧ P k (call k s).1 :=
      ⟨hcall k List.mem_cons_self s hs, hdone k List.mem_cons_self s hs⟩
    have hnext : I (if (call k s).2 then report (call k s).1 else (call k s).1) ∧
        P k (if (call k s).2 then report (call k s).1 else (call k s).1) := by
      split
      · exact ⟨hreport _ hk.1, hreported k _ hk.2⟩
      · exact hk
    rw [deliver_cons]
    intro l hl
    rcases List.mem_cons.mp hl with rfl | hl
    · refine (deliver_induction call report (I := fun t => I t ∧ P l t) ?_ ?_ hnext).2
      · exact fun j hj t ht => ⟨hcall j (hrest j hj) t ht.1, hkept l j (hrest j hj) t ht.1 ht.2⟩
      · exact fun t ht => ⟨hreport t ht.1, hreported l t ht.2⟩
    · exact ih (fun j hj => hcall j (hrest j hj)) (fun j hj => hdone j (hrest j hj))
        (fun i j hj => hkept i j (hrest j hj)) hnext.1 l hl

end Deliver

/-- The listeners of one notification, in the order in which they subscribed. -/
structure Signal (κ : Type u) where
  name : String
  listeners : List κ
  deriving Repr

namespace Signal
variable {κ : Type u}

/-- What a subscriber is given in return: it cancels the listener that it names. -/
structure Handle (κ : Type u) where
  listener : κ
  deriving Repr

def named (name : String) : Signal κ := ⟨name, []⟩

/-- A listener may subscribe several times and is then called as often. -/
def subscribe (s : Signal κ) (k : κ) : Signal κ × Handle κ :=
  ({ s with listeners := s.listeners ++ [k] }, ⟨k⟩)

/-- Takes the listener's first subscription back, if it has one. -/
def unsubscribe [DecidableEq κ] (s : Signal κ) (k : κ) : Signal κ :=
  { s with listeners := s.listeners.erase k }

def cancel [DecidableEq κ] (s : Signal κ) (handle : Handle κ) : Signal κ :=
  s.unsubscribe handle.listener

def size (s : Signal κ) : Nat := s.listeners.length

def failure (s : Signal κ) : Entry :=
  ⟨.error, "Listener of " ++ s.name ++ " failed"⟩

@[simp] theorem listeners_named (name : String) : (named name : Signal κ).listeners = [] := rfl

@[simp] theorem listeners_subscribe (s : Signal κ) (k : κ) :
    (s.subscribe k).1.listeners = s.listeners ++ [k] := rfl

@[simp] theorem listeners_unsubscribe [DecidableEq κ] (s : Signal κ) (k : κ) :
    (s.unsubscribe k).listeners = s.listeners.erase k := rfl

end Signal

/-- A signal on its own, with its journal and what its listeners share among themselves. -/
structure Hub (κ : Type u) (ω : Type v) where
  signal : Signal κ
  journal : Journal
  shared : ω

namespace Hub
variable {κ : Type u} {ω : Type v} {α : Type}

/-- What each listener does when it is called, and whether it fails. -/
abbrev Reaction (κ : Type u) (α : Type) (ω : Type v) := κ → α → Hub κ ω → Hub κ ω × Bool

def log (h : Hub κ ω) (e : Entry) : Hub κ ω := { h with journal := h.journal ++ [e] }

def subscribe (h : Hub κ ω) (k : κ) : Hub κ ω × Signal.Handle κ :=
  ({ h with signal := (h.signal.subscribe k).1 }, (h.signal.subscribe k).2)

def unsubscribe [DecidableEq κ] (h : Hub κ ω) (k : κ) : Hub κ ω :=
  { h with signal := h.signal.unsubscribe k }

def cancel [DecidableEq κ] (h : Hub κ ω) (handle : Signal.Handle κ) : Hub κ ω :=
  { h with signal := h.signal.cancel handle }

def emit (react : Reaction κ α ω) (h : Hub κ ω) (a : α) : Hub κ ω :=
  deliver (fun k h => react k a h) (fun h => h.log h.signal.failure) h.signal.listeners h

end Hub

end Scriptorium
