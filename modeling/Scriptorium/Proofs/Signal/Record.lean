import Scriptorium.Signal

/-!
The record of what happens around a list of listeners while they are told of something: who comes
and goes, who is called and returns. Each telling has a number, so that what belongs to it can be
told from what its listeners do meanwhile (`Record.numbered`).

A record is whole if nothing is missing of any telling in it: those who listened when it began are
called one after the other, each returns before the next one is called, and then it is over. Whole
records are put together from whole records, one behind the other (`Whole.append`) or one within the
telling of another (`Round.cons`, `Round.whole`). So between the beginning of a telling and a call
that belongs to it there is nothing but the calls of those who come first, each with all that was
done during it (`Placed`).
-/

namespace Scriptorium
set_option autoImplicit false

namespace Hub

/-- What is done to the list of listeners. -/
inductive Move (κ : Type) where
  | subscribe (k : κ)
  | unsubscribe (k : κ)
  | cancel (handle : Signal.Handle κ)

/-- What is written down. -/
inductive Event (κ ν : Type) where
  | moved (m : Move κ)
  /-- The listeners are about to be told. -/
  | begun (n : Nat) (told : ν) (listeners : List κ)
  | called (n : Nat) (k : κ) (told : ν)
  | returned (n : Nat) (k : κ) (failed : Bool)
  | ended (n : Nat) (answer : Bool)

abbrev Record (κ ν : Type) := List (Event κ ν)

section Records
variable {κ ν : Type}

def Move.after [DecidableEq κ] (ks : List κ) : Move κ → List κ
  | .subscribe k => ks ++ [k]
  | .unsubscribe k => ks.erase k
  | .cancel handle => ks.erase handle.listener

namespace Event

/-- The telling that the event belongs to. -/
def number? : Event κ ν → Option Nat
  | .moved _ => none
  | .begun n _ _ => some n
  | .called n _ _ => some n
  | .returned n _ _ => some n
  | .ended n _ => some n

def isBegin : Event κ ν → Bool
  | .begun _ _ _ => true
  | _ => false

def isFailure : Event κ ν → Bool
  | .returned _ _ failed => failed
  | _ => false

def after [DecidableEq κ] (ks : List κ) : Event κ ν → List κ
  | .moved m => m.after ks
  | _ => ks

end Event

namespace Record

/-- What belongs to a telling. -/
def numbered (n : Nat) (r : Record κ ν) : Record κ ν := r.filter fun e => e.number? = some n

/-- How many tellings have begun, which is the number of the next one. -/
def tellings (r : Record κ ν) : Nat := r.countP Event.isBegin

def failures (r : Record κ ν) : Nat := r.countP Event.isFailure

/-- Who listens after all of this. -/
def after [DecidableEq κ] (ks : List κ) (r : Record κ ν) : List κ := r.foldl Event.after ks

/-- The listener is one of those who listen, all the time. -/
def Attends [DecidableEq κ] (ks : List κ) (r : Record κ ν) (k : κ) : Prop :=
  ∀ u, u <+: r → k ∈ after ks u

variable {n : Nat} {r u w : Record κ ν}

@[simp] theorem numbered_append : numbered n (u ++ w) = numbered n u ++ numbered n w :=
  List.filter_append _ _

@[simp] theorem numbered_nil : numbered n ([] : Record κ ν) = [] := rfl

theorem numbered_cons (e : Event κ ν) :
    numbered n (e :: r) = if e.number? = some n then e :: numbered n r else numbered n r := by
  simp [numbered, List.filter_cons]

theorem after_of_not_moved [DecidableEq κ] {ks : List κ} (h : ∀ m, .moved m ∉ r) :
    r.after ks = ks := by
  induction r generalizing ks with
  | nil => rfl
  | cons e r ih =>
    have hstays : e.after ks = ks := by
      cases e with
      | moved m => exact absurd List.mem_cons_self (h m)
      | _ => rfl
    rw [after, List.foldl_cons, hstays]
    exact ih fun m hm => h m (List.mem_cons_of_mem e hm)

/-- Where nobody comes or goes, all who listen do so all the time. -/
theorem attends_of_not_moved [DecidableEq κ] {ks : List κ} {k : κ} (h : ∀ m, .moved m ∉ r)
    (hk : k ∈ ks) : r.Attends ks k := by
  intro u hu
  rw [after_of_not_moved fun m hm => h m (hu.subset hm)]
  exact hk

theorem numbered_eq_nil (h : ∀ e ∈ r, n ∉ e.number?) : numbered n r = [] := by
  rw [numbered, List.filter_eq_nil_iff]
  intro e he hnumber
  exact h e he (of_decide_eq_true hnumber)

@[simp] theorem tellings_append : tellings (u ++ w) = tellings u + tellings w :=
  List.countP_append

@[simp] theorem failures_append : failures (u ++ w) = failures u + failures w :=
  List.countP_append

end Record

/-- One after the other is called with this and returns. -/
inductive Turns (n : Nat) (c : ν) : List κ → Record κ ν → Prop where
  | nil : Turns n c [] []
  | cons (k : κ) (failed : Bool) {ks : List κ} {r : Record κ ν} : Turns n c ks r →
      Turns n c (k :: ks) (.called n k c :: .returned n k failed :: r)

/-- One after the other is called with this and returns, and what they do meanwhile stands between;
it belongs to other tellings. -/
inductive Calls (n : Nat) (c : ν) : List κ → Record κ ν → Prop where
  | nil : Calls n c [] []
  | cons (k : κ) (failed : Bool) {ks : List κ} {u r : Record κ ν} :
      (∀ e ∈ u, n ∉ e.number?) → Calls n c ks r →
      Calls n c (k :: ks) (.called n k c :: (u ++ .returned n k failed :: r))

/-- The record is such that it is the turn of this listener: the telling has begun, and those who
come first have had their turns. -/
def Placed (n : Nat) (k : κ) (c : ν) (r : Record κ ν) : Prop :=
  ∃ before front back turns, Calls n c front turns ∧
    r = before ++ .begun n c (front ++ k :: back) :: turns

/-- All that belongs to a telling, from its beginning to its end. Where there is nothing to be
heard, nobody is called. -/
def Telling (heard : ν → Bool) (n : Nat) (c : ν) (ks : List κ) (r : Record κ ν) : Prop :=
  ∃ turns, Turns n c (if heard c then ks else []) turns ∧
    r = .begun n c ks :: (turns ++ [.ended n (heard c)])

/-- The tellings of the record have the numbers from this one on, nothing is missing of them, and
everybody is called in turn. -/
structure Whole (heard : ν → Bool) (first : Nat) (r : Record κ ν) : Prop where
  within : ∀ e ∈ r, ∀ n ∈ e.number?, first ≤ n ∧ n < first + r.tellings
  telling : ∀ n c ks, .begun n c ks ∈ r → Telling heard n c ks (r.numbered n)
  placed : ∀ u w n k c, r = u ++ .called n k c :: w → Placed n k c u

/-- What lies between the beginning and the end of a telling: its turns, and other tellings. -/
structure Round (heard : ν → Bool) (n : Nat) (c : ν) (ks : List κ) (first : Nat)
    (r : Record κ ν) : Prop where
  within : ∀ e ∈ r, ∀ m ∈ e.number?, m = n ∨ first ≤ m ∧ m < first + r.tellings
  turns : Turns n c ks (r.numbered n)
  telling : ∀ m d ls, .begun m d ls ∈ r → first ≤ m ∧ Telling heard m d ls (r.numbered m)
  placed : ∀ u w m k d, r = u ++ .called m k d :: w →
    Placed m k d u ∨ m = n ∧ d = c ∧ ∃ front back, ks = front ++ k :: back ∧ Calls n c front u

section Whole
variable {heard : ν → Bool} {n first : Nat} {c : ν} {k : κ} {ks : List κ} {r u w : Record κ ν}

/-- What stands behind something in a record that is put together stands in one of its parts. -/
theorem append_eq_split {e : Event κ ν} {a b : Record κ ν} (h : a ++ b = u ++ e :: w) :
    (∃ v, a = u ++ e :: v) ∨ ∃ v, u = a ++ v ∧ b = v ++ e :: w := by
  rcases List.append_eq_append_iff.mp h with ⟨v, hu, hb⟩ | ⟨v, ha, hw⟩
  · exact .inr ⟨v, hu, hb⟩
  · cases v with
    | nil => exact .inr ⟨[], by simpa using ha.symm, hw.symm⟩
    | cons d v =>
      obtain ⟨rfl, -⟩ := List.cons.inj hw
      exact .inl ⟨v, ha⟩

theorem Placed.append_left (hr : Placed n k c r) (u : Record κ ν) : Placed n k c (u ++ r) := by
  obtain ⟨before, front, back, turns, hcalls, rfl⟩ := hr
  exact ⟨u ++ before, front, back, turns, hcalls, (List.append_assoc _ _ _).symm⟩

theorem Whole.not_numbered (hu : Whole heard first u) (hn : n < first ∨ first + u.tellings ≤ n) :
    u.numbered n = [] := by
  refine Record.numbered_eq_nil fun e he hnumber => ?_
  have hwithin := hu.within e he n hnumber
  omega

theorem Whole.number_lt (hu : Whole heard first u) (h : .begun n c ks ∈ u) :
    first ≤ n ∧ n < first + u.tellings := hu.within _ h n rfl

theorem Round.not_numbered {m : Nat} (hr : Round heard n c ks first r) (hmn : m ≠ n)
    (hm : m < first) : r.numbered m = [] := by
  refine Record.numbered_eq_nil fun e he hnumber => ?_
  have hwithin := hr.within e he m hnumber
  omega

/-- Where nobody is called, everybody is called in turn. -/
theorem placed_of_not_called (h : ∀ n k c, .called n k c ∉ r) {u w : Record κ ν} {n : Nat} {k : κ}
    {c : ν} (hr : r = u ++ .called n k c :: w) : Placed n k c u :=
  absurd (hr ▸ List.mem_append_right u List.mem_cons_self) (h n k c)

theorem Whole.nil (heard : ν → Bool) (first : Nat) : Whole heard first ([] : Record κ ν) :=
  ⟨fun _ he => absurd he List.not_mem_nil, fun _ _ _ he => absurd he List.not_mem_nil,
    fun _ _ _ _ _ => placed_of_not_called fun _ _ _ => List.not_mem_nil⟩

theorem Whole.moved (heard : ν → Bool) (first : Nat) (m : Move κ) :
    Whole heard first [(.moved m : Event κ ν)] := by
  refine ⟨?_, ?_, fun _ _ _ _ _ => placed_of_not_called (by simp)⟩
  · intro e he n hn
    obtain rfl := List.mem_singleton.mp he
    cases hn
  · intro n c ks he
    cases List.mem_singleton.mp he

theorem Whole.append (hu : Whole heard first u) (hw : Whole heard (first + u.tellings) w) :
    Whole heard first (u ++ w) := by
  refine ⟨?_, ?_, ?_⟩
  · intro e he n hn
    rw [Record.tellings_append]
    rcases List.mem_append.mp he with he | he
    · have := hu.within e he n hn
      omega
    · have := hw.within e he n hn
      omega
  · intro n c ks he
    rw [Record.numbered_append]
    rcases List.mem_append.mp he with he | he
    · have hbefore := hu.number_lt he
      rw [hw.not_numbered (.inl hbefore.2), List.append_nil]
      exact hu.telling n c ks he
    · have hbehind := hw.number_lt he
      rw [hu.not_numbered (.inr hbehind.1), List.nil_append]
      exact hw.telling n c ks he
  · intro a b n k c hsplit
    rcases append_eq_split hsplit with ⟨v, ha⟩ | ⟨v, rfl, hb⟩
    · exact hu.placed a v n k c ha
    · exact (hw.placed v b n k c hb).append_left u

theorem Round.nil (heard : ν → Bool) (n : Nat) (c : ν) (first : Nat) :
    Round heard n c ([] : List κ) first [] :=
  ⟨fun _ he => absurd he List.not_mem_nil, .nil, fun _ _ _ he => absurd he List.not_mem_nil,
    fun _ _ _ _ _ hr => .inl (placed_of_not_called (fun _ _ _ => List.not_mem_nil) hr)⟩

/-- A listener is called, does something and returns; then it is the turn of the others. -/
theorem Round.cons (hn : n < first) (hu : Whole heard first u) (failed : Bool)
    (hr : Round heard n c ks (first + u.tellings) r) :
    Round heard n c (k :: ks) first (.called n k c :: (u ++ .returned n k failed :: r)) := by
  have htellings : Record.tellings (.called n k c :: (u ++ .returned n k failed :: r)) =
      u.tellings + r.tellings := by
    simp [Record.tellings, Event.isBegin]
  have hnumbered : ∀ m, m ≠ n →
      Record.numbered m (.called n k c :: (u ++ .returned n k failed :: r)) =
        u.numbered m ++ r.numbered m := by
    intro m hm
    simp [Record.numbered_cons, Event.number?, hm.symm]
  refine ⟨?_, ?_, ?_, ?_⟩
  · intro e he m hm
    rw [htellings]
    rcases List.mem_cons.mp he with rfl | he
    · exact .inl (Option.some.inj hm).symm
    rcases List.mem_append.mp he with he | he
    · have := hu.within e he m hm
      omega
    rcases List.mem_cons.mp he with rfl | he
    · exact .inl (Option.some.inj hm).symm
    · have := hr.within e he m hm
      omega
  · have hown : Record.numbered n (.called n k c :: (u ++ .returned n k failed :: r)) =
        .called n k c :: .returned n k failed :: r.numbered n := by
      simp [Record.numbered_cons, Event.number?, hu.not_numbered (.inl hn)]
    rw [hown]
    exact .cons k failed hr.turns
  · intro m d ls he
    rcases List.mem_cons.mp he with he | he
    · cases he
    rcases List.mem_append.mp he with he | he
    · have hbefore := hu.number_lt he
      have hmn : m ≠ n := by omega
      rw [hnumbered m hmn, hr.not_numbered hmn hbefore.2, List.append_nil]
      exact ⟨hbefore.1, hu.telling m d ls he⟩
    rcases List.mem_cons.mp he with he | he
    · cases he
    · obtain ⟨hbehind, htelling⟩ := hr.telling m d ls he
      rw [hnumbered m (by omega), hu.not_numbered (.inr hbehind), List.nil_append]
      exact ⟨by omega, htelling⟩
  · have hforeign : ∀ e ∈ u, n ∉ e.number? := by
      intro e he hnumber
      have := hu.within e he n hnumber
      omega
    intro a b m j d hsplit
    cases a with
    | nil =>
      obtain ⟨hcall, -⟩ := List.cons.inj hsplit
      cases hcall
      exact .inr ⟨rfl, rfl, [], ks, rfl, .nil⟩
    | cons e a =>
      obtain ⟨rfl, hrest⟩ := List.cons.inj hsplit
      rcases append_eq_split hrest with ⟨v, ha⟩ | ⟨v, rfl, hb⟩
      · exact .inl ((hu.placed a v m j d ha).append_left [_])
      cases v with
      | nil => cases (List.cons.inj hb).1
      | cons e v =>
        obtain ⟨rfl, hlater⟩ := List.cons.inj hb
        rcases hr.placed v b m j d hlater with hplaced | ⟨rfl, rfl, front, back, rfl, hcalls⟩
        · have hbehind := hplaced.append_left (.called n k c :: (u ++ [.returned n k failed]))
          exact .inl (by simpa using hbehind)
        · exact .inr ⟨rfl, rfl, k :: front, back, rfl, .cons k failed hforeign hcalls⟩

theorem Round.whole (hheard : heard c = true) (hr : Round heard n c ks (n + 1) r) :
    Whole heard n (.begun n c ks :: (r ++ [.ended n true])) := by
  have htellings : Record.tellings (.begun n c ks :: (r ++ [.ended n true])) =
      r.tellings + 1 := by
    simp [Record.tellings, List.countP_cons, Event.isBegin]
  refine ⟨?_, ?_, ?_⟩
  · intro e he m hm
    rw [htellings]
    rcases List.mem_cons.mp he with rfl | he
    · obtain rfl : n = m := Option.some.inj hm
      omega
    rcases List.mem_append.mp he with he | he
    · have := hr.within e he m hm
      omega
    · obtain rfl := List.mem_singleton.mp he
      obtain rfl : n = m := Option.some.inj hm
      omega
  · intro m d ls he
    rcases List.mem_cons.mp he with he | he
    · cases he
      refine ⟨r.numbered n, ?_, ?_⟩
      · rw [if_pos hheard]
        exact hr.turns
      · simp [Record.numbered_cons, Event.number?, hheard]
    rcases List.mem_append.mp he with he | he
    · obtain ⟨hbehind, htelling⟩ := hr.telling m d ls he
      have hmn : ¬n = m := by omega
      simpa [Record.numbered_cons, Event.number?, hmn] using htelling
    · cases List.mem_singleton.mp he
  · intro a b m j d hsplit
    cases a with
    | nil => cases (List.cons.inj hsplit).1
    | cons e a =>
      obtain ⟨rfl, hrest⟩ := List.cons.inj hsplit
      rcases append_eq_split hrest with ⟨v, ha⟩ | ⟨v, rfl, hb⟩
      · rcases hr.placed a v m j d ha with hplaced | ⟨rfl, rfl, front, back, rfl, hcalls⟩
        · exact hplaced.append_left [_]
        · exact ⟨[], front, back, a, hcalls, rfl⟩
      · have hcall : Event.called m j d ∈ [Event.ended n true] :=
          hb ▸ List.mem_append_right v List.mem_cons_self
        cases List.mem_singleton.mp hcall

/-- Nobody is told of what is not to be heard. -/
theorem Whole.unheard (hheard : heard c = false) (n : Nat) (ks : List κ) :
    Whole heard n [.begun n c ks, .ended n false] := by
  refine ⟨?_, ?_, fun _ _ _ _ _ => placed_of_not_called (by simp)⟩
  · intro e he m hm
    have hnumber : e.number? = some n := by
      rcases List.mem_cons.mp he with rfl | he
      · rfl
      · obtain rfl := List.mem_singleton.mp he
        rfl
    obtain rfl : n = m := Option.some.inj (hnumber.symm.trans hm)
    exact ⟨Nat.le_refl n, Nat.lt_succ_self n⟩
  · intro m d ls he
    rcases List.mem_cons.mp he with he | he
    · cases he
      refine ⟨[], ?_, ?_⟩
      · rw [hheard]
        exact .nil
      · simp [Record.numbered_cons, Event.number?, hheard]
    · cases List.mem_singleton.mp he

theorem Turns.called_mem (hr : Turns n c ks r) (hk : k ∈ ks) : .called n k c ∈ r := by
  induction hr with
  | nil => cases hk
  | cons j failed _ ih =>
    rcases List.mem_cons.mp hk with rfl | hk
    · exact List.mem_cons_self
    · exact List.mem_cons_of_mem _ (List.mem_cons_of_mem _ (ih hk))

theorem Turns.begun_not_mem (hr : Turns n c ks r) {m : Nat} {d : ν} {ls : List κ} :
    .begun m d ls ∉ r := by
  induction hr with
  | nil => exact List.not_mem_nil
  | cons k failed _ ih => simpa using ih

/-- Who listens when a telling begins is called later on, if there is something to be heard. -/
theorem Whole.called_of_begun (hr : Whole heard first (u ++ .begun n c ks :: w))
    (hheard : heard c = true) (hk : k ∈ ks) : .called n k c ∈ w := by
  obtain ⟨turns, hturns, hown⟩ := hr.telling n c ks (List.mem_append_right u List.mem_cons_self)
  rw [if_pos hheard] at hturns
  have hnumber : (Event.begun n c ks).number? = some n := rfl
  rw [Record.numbered_append, Record.numbered_cons, if_pos hnumber] at hown
  -- a telling begins only once
  have hfront : u.numbered n = [] := by
    cases hu : u.numbered n with
    | nil => rfl
    | cons e v =>
      rw [hu, List.cons_append] at hown
      have hagain : .begun n c ks ∈ turns ++ [.ended n (heard c)] :=
        (List.cons.inj hown).2 ▸ List.mem_append_right v List.mem_cons_self
      simp [hturns.begun_not_mem] at hagain
  rw [hfront, List.nil_append] at hown
  have hcalled : .called n k c ∈ w.numbered n :=
    (List.cons.inj hown).2 ▸ List.mem_append_left _ (hturns.called_mem hk)
  exact (List.mem_filter.mp hcalled).1

/-- Where somebody is called, there is something to be heard. -/
theorem Whole.heard_of_called (hr : Whole heard first r) {d : ν} (hbegun : .begun n c ks ∈ r)
    (hcalled : .called n k d ∈ r) : heard c = true := by
  obtain ⟨turns, hturns, hown⟩ := hr.telling n c ks hbegun
  have hmem : .called n k d ∈ r.numbered n := List.mem_filter.mpr ⟨hcalled, by simp [Event.number?]⟩
  rw [hown] at hmem
  cases hheard : heard c with
  | true => rfl
  | false =>
    rw [hheard] at hturns
    cases hturns
    simp at hmem

end Whole
end Records

end Hub

end Scriptorium
