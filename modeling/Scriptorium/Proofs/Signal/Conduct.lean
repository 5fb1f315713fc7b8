import Scriptorium.Proofs.Signal.Record

/-!
Listeners that act while they are told of something. A `Conduct` is what one of them does once it is
called: it changes the list of listeners, tells all of something again, and returns or fails. Each
step may depend on the hub as it finds it, and through the record on all that has happened before;
what a listener remembers needs no place of its own. Since a conduct is an inductive type, calls lie
within calls to a finite depth only, but to any.

What it means to tell is given by a `Venue`: on a hub it is to emit, and an observable does
something more. Two things are shown of what any conduct leaves in the record (`run_recorded`). It
is a path: each event has its own effect on the hub, and there is no other effect. And it is whole.
-/

namespace Scriptorium
set_option autoImplicit false

namespace Hub

/-- What a listener does from some moment on. -/
inductive Conduct (κ α σ : Type) where
  | rest (failed : Bool)
  | move (m : Move κ) (next : σ → Conduct κ α σ)
  /-- All are told, and may do something in turn. -/
  | tell (a : α) (others : κ → σ → Conduct κ α σ) (next : σ → Conduct κ α σ)

/-- Where listeners meet: how things are written down in what they share, what they are told of, and
what is done before they are. They are told by emitting, or not at all. -/
structure Venue (κ α ν ω : Type) where
  read : ω → Record κ ν
  note : Event κ ν → ω → ω
  told : ω → α → ν
  heard : ν → Bool
  prepare : ν → ω → ω
  tell : Reaction κ ν ω → Hub κ ω → α → Hub κ ω × Bool
  read_note : ∀ e w, read (note e w) = read w ++ [e]
  read_prepare : ∀ c w, read (prepare c w) = read w
  told_note : ∀ e w a, told (note e w) a = told w a
  tell_eq : ∀ react h a, tell react h a =
    if heard (told h.shared a) then
      (emit react { h with shared := prepare (told h.shared a) h.shared } (told h.shared a), true)
    else (h, false)

/-- A hub that is told of whatever is emitted, and shares the record only. -/
def emitting (κ α : Type) : Venue κ α α (Record κ α) where
  read := id
  note e r := r ++ [e]
  told _ a := a
  heard _ := true
  prepare _ r := r
  tell react h a := (emit react h a, true)
  read_note _ _ := rfl
  read_prepare _ _ := rfl
  told_note _ _ _ := rfl
  tell_eq _ _ _ := rfl

section Run
variable {κ α ν ω : Type} [DecidableEq κ]

def moved (h : Hub κ ω) : Move κ → Hub κ ω
  | .subscribe k => (h.subscribe k).1
  | .unsubscribe k => h.unsubscribe k
  | .cancel handle => h.cancel handle

namespace Venue
variable (v : Venue κ α ν ω)

def noted (h : Hub κ ω) (e : Event κ ν) : Hub κ ω := { h with shared := v.note e h.shared }

def prepared (h : Hub κ ω) (c : ν) : Hub κ ω := { h with shared := v.prepare c h.shared }

/-- The number of the next telling. -/
def number (h : Hub κ ω) : Nat := (v.read h.shared).tellings

def begun (h : Hub κ ω) (a : α) : Hub κ ω :=
  v.noted h (.begun (v.number h) (v.told h.shared a) h.signal.listeners)

/-- A listener writes down that it is called and that it returns. -/
def answering (n : Nat) (course : κ → Hub κ ω → Hub κ ω × Bool) : Reaction κ ν ω := fun k c h =>
  let r := course k (v.noted h (.called n k c))
  (v.noted r.1 (.returned n k r.2), r.2)

end Venue

def Conduct.run (v : Venue κ α ν ω) : Conduct κ α (Hub κ ω) → Hub κ ω → Hub κ ω × Bool
  | .rest failed, h => (h, failed)
  | .move m next, h =>
    let i := v.noted (h.moved m) (.moved m)
    (next i).run v i
  | .tell a others next, h =>
    let r := v.tell (v.answering (v.number h) fun k i => (others k i).run v i) (v.begun h a) a
    let i := v.noted r.1 (.ended (v.number h) r.2)
    (next i).run v i

/-- What an event does to the hub. -/
inductive Step (v : Venue κ α ν ω) : Hub κ ω → Event κ ν → Hub κ ω → Prop where
  | moved (h : Hub κ ω) (m : Move κ) : Step v h (.moved m) (v.noted (h.moved m) (.moved m))
  | begun (h : Hub κ ω) (a : α) : v.heard (v.told h.shared a) = true →
      Step v h (.begun (v.number h) (v.told h.shared a) h.signal.listeners)
        (v.prepared (v.begun h a) (v.told h.shared a))
  | unheard (h : Hub κ ω) (a : α) : v.heard (v.told h.shared a) = false →
      Step v h (.begun (v.number h) (v.told h.shared a) h.signal.listeners) (v.begun h a)
  | called (h : Hub κ ω) (n : Nat) (k : κ) (c : ν) :
      Step v h (.called n k c) (v.noted h (.called n k c))
  | returned (h : Hub κ ω) (n : Nat) (k : κ) (failed : Bool) :
      Step v h (.returned n k failed)
        (if failed then (v.noted h (.returned n k failed)).log h.signal.failure
          else v.noted h (.returned n k failed))
  | ended (h : Hub κ ω) (n : Nat) (answer : Bool) :
      Step v h (.ended n answer) (v.noted h (.ended n answer))

inductive Path (v : Venue κ α ν ω) : Hub κ ω → Record κ ν → Hub κ ω → Prop where
  | nil (h : Hub κ ω) : Path v h [] h
  | cons {h i j : Hub κ ω} {e : Event κ ν} {r : Record κ ν} :
      Step v h e i → Path v i r j → Path v h (e :: r) j

section Path
variable {v : Venue κ α ν ω} {h i j : Hub κ ω} {e : Event κ ν} {r u w : Record κ ν}

theorem Step.single (hs : Step v h e i) : Path v h [e] i := .cons hs (.nil i)

theorem Path.append (hu : Path v h u i) (hw : Path v i w j) : Path v h (u ++ w) j := by
  induction hu with
  | nil => exact hw
  | cons hs _ ih => exact .cons hs (ih hw)

theorem Path.split (hp : Path v h (u ++ w) j) : ∃ i, Path v h u i ∧ Path v i w j := by
  induction u generalizing h with
  | nil => exact ⟨h, .nil h, hp⟩
  | cons e u ih =>
    cases hp with
    | cons hs hrest =>
      obtain ⟨i, hu, hw⟩ := ih hrest
      exact ⟨i, .cons hs hu, hw⟩

theorem Step.read (hs : Step v h e i) : v.read i.shared = v.read h.shared ++ [e] := by
  cases hs with
  | moved m => cases m <;> exact v.read_note _ _
  | begun a => exact (v.read_prepare _ _).trans (v.read_note _ _)
  | unheard a => exact v.read_note _ _
  | called n k c => exact v.read_note _ _
  | returned n k failed => cases failed <;> exact v.read_note _ _
  | ended n answer => exact v.read_note _ _

theorem Step.signal (hs : Step v h e i) :
    i.signal = ⟨h.signal.name, e.after h.signal.listeners⟩ := by
  cases hs with
  | moved m => cases m <;> rfl
  | returned n k failed => cases failed <;> rfl
  | _ => rfl

theorem Step.journal (hs : Step v h e i) :
    i.journal = h.journal ++ List.replicate (if e.isFailure then 1 else 0) h.signal.failure := by
  cases hs with
  | moved m => cases m <;> exact (List.append_nil _).symm
  | returned n k failed =>
    cases failed
    · exact (List.append_nil _).symm
    · rfl
  | _ => exact (List.append_nil _).symm

theorem Path.read (hp : Path v h r j) : v.read j.shared = v.read h.shared ++ r := by
  induction hp with
  | nil => exact (List.append_nil _).symm
  | cons hs _ ih => rw [ih, hs.read, List.append_assoc, List.singleton_append]

theorem Path.number (hp : Path v h r j) : v.number j = v.number h + r.tellings := by
  rw [Venue.number, hp.read, Record.tellings_append, Venue.number]

theorem Path.signal (hp : Path v h r j) :
    j.signal = ⟨h.signal.name, r.after h.signal.listeners⟩ := by
  induction hp with
  | nil => rfl
  | cons hs _ ih => rw [ih, hs.signal]; rfl

theorem Path.journal (hp : Path v h r j) :
    j.journal = h.journal ++ List.replicate r.failures h.signal.failure := by
  induction hp with
  | nil => exact (List.append_nil _).symm
  | @cons h i j e r hs _ ih =>
    have hname : i.signal.failure = h.signal.failure := by rw [hs.signal]; rfl
    have hfailures : Record.failures (e :: r) =
        (if e.isFailure then 1 else 0) + Record.failures r := by
      rw [Record.failures, List.countP_cons, Nat.add_comm]
      rfl
    rw [ih, hs.journal, hname, hfailures, List.append_assoc, List.replicate_append_replicate]

/-- Those who are told are those who listen at that moment. -/
theorem Path.listeners_eq {n : Nat} {c : ν} {ks : List κ}
    (hp : Path v h (u ++ .begun n c ks :: w) j) : ks = u.after h.signal.listeners := by
  obtain ⟨i, hu, hrest⟩ := hp.split
  have hlisten : i.signal.listeners = u.after h.signal.listeners := by rw [hu.signal]
  cases hrest with
  | cons hs _ => cases hs <;> exact hlisten

/-- From one hub a path leads to the other, and what it leaves in the record is whole. -/
def Recorded (v : Venue κ α ν ω) (h j : Hub κ ω) : Prop :=
  ∃ r, Path v h r j ∧ Whole v.heard (v.number h) r

theorem Recorded.trans (hi : Recorded v h i) (hj : Recorded v i j) : Recorded v h j := by
  obtain ⟨u, hu, hwhole⟩ := hi
  obtain ⟨w, hw, hrest⟩ := hj
  exact ⟨u ++ w, hu.append hw, hwhole.append (hu.number ▸ hrest)⟩

section Course
variable {course : κ → Hub κ ω → Hub κ ω × Bool}
variable (hcourse : ∀ k h, Recorded v h (course k h).1)
include hcourse

/-- A listener is called, does something and returns, and a failure is logged. -/
theorem call_path (n : Nat) (k : κ) (c : ν) (h : Hub κ ω) :
    ∃ u, Whole v.heard (v.number h) u ∧
      Path v h (.called n k c :: (u ++ [.returned n k (v.answering n course k c h).2]))
        (if (v.answering n course k c h).2 then
          (v.answering n course k c h).1.log (v.answering n course k c h).1.signal.failure
        else (v.answering n course k c h).1) := by
  have hcall := Step.called (v := v) h n k c
  have hcalled : v.number (v.noted h (.called n k c)) = v.number h := hcall.single.number
  obtain ⟨u, hu, hwhole⟩ := hcourse k (v.noted h (.called n k c))
  exact ⟨u, hcalled ▸ hwhole, .cons hcall (hu.append (Step.returned _ n k _).single)⟩

/-- While some are called one after the other, each of them may tell all of something else. -/
theorem deliver_path {n : Nat} (c : ν) (ks : List κ) (hn : n < v.number h) :
    ∃ r, Path v h r (deliver (fun k h => v.answering n course k c h)
      (fun h => h.log h.signal.failure) ks h) ∧ Round v.heard n c ks (v.number h) r := by
  induction ks generalizing h with
  | nil => exact ⟨[], .nil h, .nil v.heard n c _⟩
  | cons k ks ih =>
    obtain ⟨u, hwhole, hcall⟩ := call_path hcourse n k c h
    have hnumber := hcall.number
    have htellings : Record.tellings
        (.called n k c :: (u ++ [.returned n k (v.answering n course k c h).2])) = u.tellings := by
      simp [Record.tellings, Event.isBegin]
    rw [htellings] at hnumber
    obtain ⟨r, hr, hround⟩ := ih (by rw [hnumber]; omega)
    rw [hnumber] at hround
    refine ⟨.called n k c :: (u ++ .returned n k (v.answering n course k c h).2 :: r), ?_,
      .cons hn hwhole _ hround⟩
    rw [deliver_cons]
    simpa using hcall.append hr

/-- To tell something is to begin, to call those who listen, and to have done with it. -/
theorem tell_recorded (h : Hub κ ω) (a : α) :
    Recorded v h (v.noted (v.tell (v.answering (v.number h) course) (v.begun h a) a).1
      (.ended (v.number h) (v.tell (v.answering (v.number h) course) (v.begun h a) a).2)) := by
  have htold : v.told (v.begun h a).shared a = v.told h.shared a := v.told_note _ _ _
  rw [v.tell_eq, htold]
  by_cases hheard : v.heard (v.told h.shared a) = true
  · have hbegin := Step.begun h a hheard
    have hnumber : v.number (v.prepared (v.begun h a) (v.told h.shared a)) = v.number h + 1 :=
      hbegin.single.number
    obtain ⟨u, hu, hround⟩ := deliver_path (n := v.number h) hcourse (v.told h.shared a)
      h.signal.listeners (by rw [hnumber]; omega)
    rw [hnumber] at hround
    rw [if_pos hheard]
    exact ⟨_, .cons hbegin (hu.append (Step.ended _ _ _).single), hround.whole hheard⟩
  · have hunheard : v.heard (v.told h.shared a) = false := Bool.eq_false_iff.mpr hheard
    rw [if_neg hheard]
    exact ⟨_, .cons (.unheard h a hunheard) (Step.ended _ _ _).single, .unheard hunheard _ _⟩

end Course

theorem run_recorded (c : Conduct κ α (Hub κ ω)) (h : Hub κ ω) : Recorded v h (c.run v h).1 := by
  induction c generalizing h with
  | rest failed => exact ⟨[], .nil h, .nil _ _⟩
  | move m next ih =>
    have hmoved : Recorded v h (v.noted (h.moved m) (.moved m)) :=
      ⟨_, (Step.moved h m).single, .moved _ _ m⟩
    exact hmoved.trans (ih _ _)
  | tell a others next ihothers ihnext =>
    exact (tell_recorded (fun k i => ihothers k i i) h a).trans (ihnext _ _)

end Path

/-- What becomes of a hub when something is emitted, after that was written down, and each listener
behaves as its conduct says. -/
def emitted (conduct : κ → Hub κ (Record κ α) → Conduct κ α (Hub κ (Record κ α)))
    (h : Hub κ (Record κ α)) (a : α) : Hub κ (Record κ α) :=
  emit ((emitting κ α).answering h.shared.tellings fun k i => (conduct k i).run (emitting κ α) i)
    ((emitting κ α).begun h a) a

/-- Whatever the listeners do, those who listened when the emission began are called one after the
other, as often as they had subscribed and with what was emitted, and nobody else is. The same is
true of each emission among those that listeners begin meanwhile, with those who listen when it
begins. Every failure is logged once, and the list of listeners is what they have made of it. -/
theorem emission_delivered
    (conduct : κ → Hub κ (Record κ α) → Conduct κ α (Hub κ (Record κ α)))
    (h : Hub κ (Record κ α)) (a : α) :
    ∃ r : Record κ α,
      (emitted conduct h a).shared =
        h.shared ++ .begun h.shared.tellings a h.signal.listeners :: r ∧
      Turns h.shared.tellings a h.signal.listeners (r.numbered h.shared.tellings) ∧
      (∀ n b ks, .begun n b ks ∈ r → Telling (fun _ => true) n b ks (r.numbered n)) ∧
      (∀ (u w : Record κ α) n b ks, r = u ++ .begun n b ks :: w →
        ks = u.after h.signal.listeners) ∧
      (emitted conduct h a).signal = ⟨h.signal.name, r.after h.signal.listeners⟩ ∧
      (emitted conduct h a).journal =
        h.journal ++ List.replicate r.failures h.signal.failure := by
  have hbegin : (emitting κ α).number ((emitting κ α).begun h a) = h.shared.tellings + 1 :=
    (Step.begun (v := emitting κ α) h a rfl).single.number
  obtain ⟨r, hpath, hround⟩ := deliver_path (v := emitting κ α) (n := h.shared.tellings)
    (fun k i => run_recorded (conduct k i) i) a h.signal.listeners (by rw [hbegin]; omega)
  refine ⟨r, ?_, hround.turns, fun n b ks hn => (hround.telling n b ks hn).2, ?_, hpath.signal,
    hpath.journal⟩
  · exact hpath.read.trans (List.append_assoc _ _ _)
  · rintro u w n b ks rfl
    exact hpath.listeners_eq

end Run

/-- The first listener sends the second one away, brings a third one and fails. -/
example :
    (emitted (fun k _ => if k = 0 then
        .move (.unsubscribe 1) fun _ => .move (.subscribe 2) fun _ => .rest true
      else .rest false) ⟨⟨"value-changed", [0, 1]⟩, [], []⟩ true).shared =
    [.begun 0 true [0, 1], .called 0 0 true, .moved (.unsubscribe 1), .moved (.subscribe 2),
      .returned 0 0 true, .called 0 1 true, .returned 0 1 false] := rfl

end Hub

end Scriptorium
