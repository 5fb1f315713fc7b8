import Scriptorium.Cache.Parties
import Scriptorium.Proofs.Cache.Download

/-!
What calls that run side by side can do to each other. A run is told by its moves, the latest first,
and two things are read off them. The snapshot is the one installed last since it was last dropped
(`Run.cache_eq`), whoever installed it. What a call has done so far is known from its stage, as
nobody else moves it (`Account`, `Run.account`); so a snapshot is installed whole, and what a call
answers is told by its own fetches, and by what was installed when it looked.

A call that nothing interrupts is one of these runs (`run_call`), with the fetches, the cache and the
answer that `Cache.call` has.
-/

namespace Scriptorium
set_option autoImplicit false

namespace Cache

namespace Step

def installed? : Step → Option Snapshot
  | install s => some s
  | check _ | fetched _ _ | stamp _ | read => none

def fetched? : Step → Option (Variant × Answer)
  | fetched v a => some (v, a)
  | check _ | install _ | stamp _ | read => none

end Step

namespace Move
variable {ι : Type}

def isInvalidation : Move ι → Bool
  | invalidate => true
  | step _ _ => false

def installed? : Move ι → Option Snapshot
  | step _ s => s.installed?
  | invalidate => none

/-- The step of call `i`, if it is its move. -/
def own? [DecidableEq ι] (i : ι) : Move ι → Option Step
  | step j s => if j = i then some s else none
  | invalidate => none

end Move

section Moves
variable {ι : Type} {i j : ι} {s : Step} {ms : List (Move ι)}

/-- What was installed last since the last invalidation. The latest move comes first. -/
def lastInstalled (ms : List (Move ι)) : Option Snapshot :=
  (ms.takeWhile fun m => !m.isInvalidation).findSome? Move.installed?

@[simp] theorem lastInstalled_nil : lastInstalled ([] : List (Move ι)) = none := rfl

@[simp] theorem lastInstalled_invalidate : lastInstalled (.invalidate :: ms) = none := rfl

@[simp] theorem lastInstalled_step :
    lastInstalled (.step i s :: ms) = s.installed?.or (lastInstalled ms) := by
  cases s <;> rfl

theorem exists_install {t : Snapshot} (h : lastInstalled ms = some t) :
    ∃ i, .step i (.install t) ∈ ms := by
  obtain ⟨m, hm, ht⟩ := List.exists_of_findSome?_eq_some h
  match m with
  | .step i (.install _) =>
    cases ht
    exact ⟨i, (List.takeWhile_prefix _).subset hm⟩

variable [DecidableEq ι]

/-- The steps of call `i`, the latest first. -/
def own (i : ι) (ms : List (Move ι)) : List Step := ms.filterMap (Move.own? i)

@[simp] theorem own_nil : own i [] = [] := rfl

@[simp] theorem own_invalidate : own i (.invalidate :: ms) = own i ms := rfl

@[simp] theorem own_step_self : own i (.step i s :: ms) = s :: own i ms := by
  simp [own, Move.own?]

theorem own_step_of_ne (h : j ≠ i) : own i (.step j s :: ms) = own i ms := by
  simp [own, Move.own?, h]

theorem mem_own : s ∈ own i ms ↔ .step i s ∈ ms := by
  simp only [own, List.mem_filterMap]
  constructor
  · rintro ⟨_ | _, hm, hs⟩
    · simp only [Move.own?, Option.ite_none_right_eq_some] at hs
      obtain ⟨rfl, hs⟩ := hs
      cases hs
      exact hm
    · cases hs
  · intro hm
    exact ⟨_, hm, if_pos rfl⟩

end Moves

section Steps
variable {c c' : Cache} {call : Call} {st st' : Stage} {s : Step}

/-- The steps that there are, with what each leads to. -/
inductive Steps (c : Cache) (call : Call) : Stage → Step → Cache → Stage → Prop where
  | served {now : Int} {t : Snapshot} (ht : c.served? now call.force call.published = some t) :
      Steps c call .begun (.check now) c (.ended (.ok t.body))
  | unserved {now : Int} (ht : c.served? now call.force call.published = none) :
      Steps c call .begun (.check now) c (.fetching (wanted call.published))
  | received (v : Variant) (body : String) :
      Steps c call (.fetching v) (.fetched v (.ok body)) c (.received body v)
  | raised (v : Variant) {f : Failure} (hf : ¬f.IsRemote) :
      Steps c call (.fetching v) (.fetched v (.error f)) c (.ended (.error f))
  | lost {v : Variant} {f : Failure} (hf : f.IsRemote) (hw : c.policy.fallback? v f = none) :
      Steps c call (.fetching v) (.fetched v (.error f)) c .lost
  | replaced {v w : Variant} {f : Failure} (hf : f.IsRemote)
      (hw : c.policy.fallback? v f = some w) :
      Steps c call (.fetching v) (.fetched v (.error f)) c (.fetchingInstead w)
  | receivedInstead (v : Variant) (body : String) :
      Steps c call (.fetchingInstead v) (.fetched v (.ok body)) c (.received body v)
  | raisedInstead (v : Variant) {f : Failure} (hf : ¬f.IsRemote) :
      Steps c call (.fetchingInstead v) (.fetched v (.error f)) c (.ended (.error f))
  | lostInstead (v : Variant) {f : Failure} (hf : f.IsRemote) :
      Steps c call (.fetchingInstead v) (.fetched v (.error f)) c .lost
  | stamped (body : String) (v : Variant) (now : Int) :
      Steps c call (.received body v) (.stamp now) c (.stamped ⟨body, now, v⟩)
  | installed (t : Snapshot) :
      Steps c call (.stamped t) (.install t) { c with snapshot := some t } (.ended (.ok t.body))
  | read : Steps c call .lost .read c (.ended (.ok c.baseline))

theorem steps_of_step (h : c.step call st s = some (c', st')) : Steps c call st s c' st' := by
  unfold step at h
  split at h
  · split at h
    next t ht =>
      cases h
      exact .served ht
    next ht =>
      cases h
      exact .unserved ht
  · split at h
    next _ u v a huv =>
      subst huv
      cases a with
      | ok body =>
        cases h
        exact .received v body
      | error f =>
        by_cases hf : f.IsRemote
        · cases hw : c.policy.fallback? v f with
          | none =>
            simp only [first, if_pos hf, hw] at h
            cases h
            exact .lost hf hw
          | some w =>
            simp only [first, if_pos hf, hw] at h
            cases h
            exact .replaced hf hw
        · simp only [first, if_neg hf] at h
          cases h
          exact .raised v hf
    next => cases h
  · split at h
    next _ u v a huv =>
      subst huv
      cases a with
      | ok body =>
        cases h
        exact .receivedInstead v body
      | error f =>
        by_cases hf : f.IsRemote
        · simp only [second, if_pos hf] at h
          cases h
          exact .lostInstead v hf
        · simp only [second, if_neg hf] at h
          cases h
          exact .raisedInstead v hf
    next => cases h
  · cases h
    exact .stamped _ _ _
  · split at h
    next _ t u htu =>
      subst htu
      cases h
      exact .installed u
    next => cases h
  · cases h
    exact .read
  · cases h

theorem Steps.step_eq (h : Steps c call st s c' st') : c.step call st s = some (c', st') := by
  cases h with
  | served ht | unserved ht =>
    unfold served? at ht
    simp only [step, ht]
  | received | receivedInstead => simp [step, first, second, Stage.ofOutcome]
  | raised _ hf | raisedInstead _ hf => simp [step, first, second, Stage.ofOutcome, hf]
  | lost hf hw | replaced hf hw => simp [step, first, Stage.ofOutcome, hf, hw]
  | lostInstead _ hf => simp [step, second, Stage.ofOutcome, hf]
  | stamped | read => rfl
  | installed => simp [step]

theorem Steps.cache_eq (h : Steps c call st s c' st') :
    c' = { c with snapshot := s.installed?.or c.snapshot } := by
  cases h <;> rfl

end Steps

/-- A run from `w₀`, with its moves, the latest first. -/
inductive Run {ι : Type} [DecidableEq ι] (calls : ι → Call) (w₀ : World ι) :
    List (Move ι) → World ι → Prop where
  | nil : Run calls w₀ [] w₀
  | cons {m : Move ι} {ms : List (Move ι)} {w w' : World ι} (h : Run calls w₀ ms w)
      (hm : w.move calls m = some w') : Run calls w₀ (m :: ms) w'

section Account
variable {ι : Type} {c₀ c' : Cache} {call : Call} {i : ι} {ms : List (Move ι)} {s : Step}
variable {st st' : Stage}

/-- The cache after these moves. -/
def after (c₀ : Cache) (ms : List (Move ι)) : Cache := { c₀ with snapshot := lastInstalled ms }

theorem after_step : after c₀ (.step i s :: ms) =
    { after c₀ ms with snapshot := s.installed?.or (after c₀ ms).snapshot } := by
  rw [after, lastInstalled_step]
  rfl

/-- What a call that wants `v` has done before it gets an answer for the version `u`. -/
inductive Opening (c₀ : Cache) (v : Variant) : Variant → List Step → Prop where
  | checked (now : Int) : Opening c₀ v v [.check now]
  | replaced {f : Failure} {w : Variant} {now : Int} (hf : f.IsRemote)
      (hw : c₀.policy.fallback? v f = some w) :
      Opening c₀ v w [.fetched v (.error f), .check now]

/-- How a call comes to a stage: with these steps of its own, the latest first, among all moves. -/
inductive Account (c₀ : Cache) (call : Call) (i : ι) (ms : List (Move ι)) :
    List Step → Stage → Prop where
  | begun : Account c₀ call i ms [] .begun
  | fetching (now : Int) :
      Account c₀ call i ms [.check now] (.fetching (wanted call.published))
  | fetchingInstead {f : Failure} {w : Variant} {now : Int} (hf : f.IsRemote)
      (hw : c₀.policy.fallback? (wanted call.published) f = some w) :
      Account c₀ call i ms [.fetched (wanted call.published) (.error f), .check now]
        (.fetchingInstead w)
  | received {os : List Step} {u : Variant} {body : String}
      (ho : Opening c₀ (wanted call.published) u os) :
      Account c₀ call i ms (.fetched u (.ok body) :: os) (.received body u)
  | stamped {os : List Step} (t : Snapshot) (ho : Opening c₀ (wanted call.published) t.variant os) :
      Account c₀ call i ms (.stamp t.fetchedAt :: .fetched t.variant (.ok t.body) :: os)
        (.stamped t)
  | lost {os : List Step} {u : Variant} {f : Failure}
      (ho : Opening c₀ (wanted call.published) u os)
      (hf : f.IsRemote) :
      Account c₀ call i ms (.fetched u (.error f) :: os) .lost
  | served {now : Int} {t : Snapshot} {later earlier : List (Move ι)}
      (hms : ms = later ++ .step i (.check now) :: earlier)
      (ht : (after c₀ earlier).served? now call.force call.published = some t) :
      Account c₀ call i ms [.check now] (.ended (.ok t.body))
  | raised {os : List Step} {u : Variant} {f : Failure}
      (ho : Opening c₀ (wanted call.published) u os)
      (hf : ¬f.IsRemote) :
      Account c₀ call i ms (.fetched u (.error f) :: os) (.ended (.error f))
  | installed {os : List Step} {t : Snapshot}
      (ho : Opening c₀ (wanted call.published) t.variant os) :
      Account c₀ call i ms
        (.install t :: .stamp t.fetchedAt :: .fetched t.variant (.ok t.body) :: os)
        (.ended (.ok t.body))
  | read {os : List Step} {u : Variant} {f : Failure} {later earlier : List (Move ι)}
      (ho : Opening c₀ (wanted call.published) u os) (hf : f.IsRemote)
      (hms : ms = later ++ .step i .read :: earlier) :
      Account c₀ call i ms (.read :: .fetched u (.error f) :: os)
        (.ended (.ok (after c₀ earlier).baseline))

variable {os : List Step}

/-- Moves of others, or of nobody, change nothing in what a call has done. -/
theorem Account.cons (h : Account c₀ call i ms os st) (m : Move ι) :
    Account c₀ call i (m :: ms) os st := by
  cases h with
  | begun => exact .begun
  | fetching now => exact .fetching now
  | fetchingInstead hf hw => exact .fetchingInstead hf hw
  | received ho => exact .received ho
  | stamped t ho => exact .stamped t ho
  | lost ho hf => exact .lost ho hf
  | served hms ht => exact @Account.served _ _ _ _ _ _ _ (m :: _) _ (congrArg (m :: ·) hms) ht
  | raised ho hf => exact .raised ho hf
  | installed ho => exact .installed ho
  | read ho hf hms =>
    exact @Account.read _ _ _ _ _ _ _ _ (m :: _) _ ho hf (congrArg (m :: ·) hms)

theorem Account.step (h : Account c₀ call i ms os st)
    (hs : Steps (after c₀ ms) call st s c' st') :
    Account c₀ call i (.step i s :: ms) (s :: os) st' := by
  cases hs with
  | served ht =>
    cases h
    exact @Account.served _ _ _ _ _ _ _ [] _ rfl ht
  | unserved =>
    cases h
    exact .fetching _
  | received =>
    cases h
    exact .received (.checked _)
  | raised _ hf =>
    cases h
    exact .raised (.checked _) hf
  | lost hf =>
    cases h
    exact .lost (.checked _) hf
  | replaced hf hw =>
    cases h
    exact .fetchingInstead hf hw
  | receivedInstead =>
    cases h with
    | fetchingInstead hf hw => exact .received (.replaced hf hw)
  | raisedInstead _ hg =>
    cases h with
    | fetchingInstead hf hw => exact .raised (.replaced hf hw) hg
  | lostInstead _ hg =>
    cases h with
    | fetchingInstead hf hw => exact .lost (.replaced hf hw) hg
  | stamped =>
    cases h with
    | received ho => exact .stamped ⟨_, _, _⟩ ho
  | installed =>
    cases h with
    | stamped _ ho => exact .installed ho
  | read =>
    cases h with
    | lost ho hf => exact @Account.read _ _ _ _ _ _ _ _ [] _ ho hf rfl

/-- All that an opening fetched has failed. -/
theorem Opening.failed {v u w : Variant} {b : Answer} (ho : Opening c₀ v u os)
    (h : .fetched w b ∈ os) : ∃ f, b = .error f ∧ f.IsRemote := by
  cases ho with
  | checked now => simp at h
  | @replaced f _ now hf hw =>
    simp only [List.mem_cons, Step.fetched.injEq, reduceCtorEq, List.not_mem_nil, or_false] at h
    exact ⟨f, h.2, hf⟩

theorem Opening.not_install {v u : Variant} {t : Snapshot} (ho : Opening c₀ v u os) :
    .install t ∉ os := by
  cases ho with
  | checked | replaced => simp

theorem Opening.length_le {v u : Variant} (ho : Opening c₀ v u os) : os.length ≤ 2 := by
  cases ho with
  | checked | replaced => simp

/-- The answer of a call with the steps `os`, the latest first, among the moves `ms`. -/
structure Explained (c₀ : Cache) (call : Call) (i : ι) (ms : List (Move ι)) (os : List Step)
    (a : Answer) : Prop where
  received : ∀ v body, .fetched v (.ok body) ∈ os → a = .ok body
  served : (∀ v b, .fetched v b ∉ os) → ∃ later now earlier t,
    ms = later ++ .step i (.check now) :: earlier ∧ call.force = false ∧
      lastInstalled earlier = some t ∧ t.variant = wanted call.published ∧
      now - t.fetchedAt < c₀.window ∧ a = .ok t.body
  lost : (∃ v b, .fetched v b ∈ os) →
    (∀ v b, .fetched v b ∈ os → ∃ f, b = .error f ∧ f.IsRemote) → ∃ later earlier,
      ms = later ++ .step i .read :: earlier ∧
        a = .ok (((lastInstalled earlier).map Snapshot.body).getD "")
  raised : ∀ v f, .fetched v (.error f) ∈ os → ¬f.IsRemote → a = .error f

theorem Account.explained {a : Answer} (h : Account c₀ call i ms os (.ended a)) :
    Explained c₀ call i ms os a := by
  cases h with
  | @served now t later earlier hms ht =>
    -- nothing was fetched
    refine ⟨by simp, fun _ => ?_, by simp, by simp⟩
    simp only [served?, Option.ite_none_left_eq_some, Bool.not_eq_true, fresh?_eq_some_iff] at ht
    obtain ⟨hforce, hlast, hvariant, hage⟩ := ht
    exact ⟨later, now, earlier, t, hms, hforce, hlast, hvariant, hage, rfl⟩
  | @raised os u f ho hf =>
    refine ⟨?_, fun h => absurd List.mem_cons_self (h _ _), ?_, ?_⟩
    · intro v body hb
      obtain ⟨g, hg, -⟩ := ho.failed (List.mem_of_ne_of_mem (by simp) hb)
      cases hg
    · intro _ h
      obtain ⟨g, hg, hremote⟩ := h _ _ List.mem_cons_self
      cases hg
      exact absurd hremote hf
    · intro v g hg hforeign
      rcases List.mem_cons.mp hg with hg | hg
      · cases hg
        rfl
      · obtain ⟨g', hg', hremote⟩ := ho.failed hg
        cases hg'
        exact absurd hremote hforeign
  | @installed os t ho =>
    have hfetched : .fetched t.variant (.ok t.body) ∈
        .install t :: .stamp t.fetchedAt :: .fetched t.variant (.ok t.body) :: os := by simp
    refine ⟨?_, fun h => absurd hfetched (h _ _), ?_, ?_⟩
    · intro v body hb
      simp only [List.mem_cons, reduceCtorEq, false_or] at hb
      rcases hb with hb | hb
      · cases hb
        rfl
      · obtain ⟨g, hg, -⟩ := ho.failed hb
        cases hg
    · intro _ h
      obtain ⟨g, hg, -⟩ := h _ _ hfetched
      cases hg
    · intro v g hg hforeign
      simp only [List.mem_cons, reduceCtorEq, false_or, Step.fetched.injEq, and_false] at hg
      obtain ⟨g', hg', hremote⟩ := ho.failed hg
      cases hg'
      exact absurd hremote hforeign
  | @read os u f later earlier ho hf hms =>
    have hfetched : .fetched u (.error f) ∈ .read :: .fetched u (.error f) :: os := by simp
    have hfailed : ∀ v b, .fetched v b ∈ .read :: .fetched u (.error f) :: os →
        ∃ g, b = .error g ∧ g.IsRemote := by
      intro v b hb
      simp only [List.mem_cons, reduceCtorEq, false_or, Step.fetched.injEq] at hb
      rcases hb with ⟨-, rfl⟩ | hb
      · exact ⟨f, rfl, hf⟩
      · exact ho.failed hb
    refine ⟨?_, fun h => absurd hfetched (h _ _), fun _ _ => ⟨later, earlier, hms, rfl⟩, ?_⟩
    · intro v body hb
      obtain ⟨g, hg, -⟩ := hfailed v _ hb
      cases hg
    · intro v g hg hforeign
      obtain ⟨g', hg', hremote⟩ := hfailed v _ hg
      cases hg'
      exact absurd hremote hforeign

/-- A call installs what it fetched last, with the time that it read then. -/
theorem Account.install_mem {t : Snapshot} (h : Account c₀ call i ms os st)
    (ht : .install t ∈ os) : ∃ rest,
      os = .install t :: .stamp t.fetchedAt :: .fetched t.variant (.ok t.body) :: rest := by
  cases h with
  | begun | fetching | fetchingInstead | served => simp at ht
  | received ho | stamped _ ho | lost ho | raised ho | read ho =>
    simp only [List.mem_cons, reduceCtorEq, false_or] at ht
    exact absurd ht ho.not_install
  | @installed os t' ho =>
    simp only [List.mem_cons, Step.install.injEq, reduceCtorEq, false_or] at ht
    rcases ht with rfl | ht
    · exact ⟨os, rfl⟩
    · exact absurd ht ho.not_install

theorem Account.length_le (h : Account c₀ call i ms os st) : os.length ≤ 5 := by
  cases h with
  | begun | fetching | fetchingInstead | served => simp
  | received ho | stamped _ ho | lost ho | raised ho | installed ho | read ho =>
    have := ho.length_le
    simp only [List.length_cons]
    omega

end Account

section Run
variable {ι : Type} [DecidableEq ι] {calls : ι → Call} {c₀ : Cache} {w w' w₀ : World ι} {i : ι}
variable {m : Move ι} {ms : List (Move ι)}

theorem move_eq_some_iff : w.move calls m = some w' ↔
    (∃ i s c' st', m = .step i s ∧ Steps w.cache (calls i) (w.stage i) s c' st' ∧
      w' = ⟨c', Function.update w.stage i st'⟩) ∨
    (m = .invalidate ∧ w' = { w with cache := w.cache.invalidate }) := by
  constructor
  · intro h
    cases m with
    | step i s =>
      obtain ⟨⟨c', st'⟩, hs, rfl⟩ := Option.map_eq_some_iff.mp h
      exact .inl ⟨i, s, c', st', rfl, steps_of_step hs, rfl⟩
    | invalidate =>
      cases h
      exact .inr ⟨rfl, rfl⟩
  · rintro (⟨i, s, c', st', rfl, hs, rfl⟩ | ⟨rfl, rfl⟩)
    · exact Option.map_eq_some_iff.mpr ⟨_, hs.step_eq, rfl⟩
    · rfl

/-- Only installing and invalidating change the cache. -/
theorem Run.cache_eq (h : Run calls (.begun c₀) ms w) (hc : c₀.snapshot = none) :
    w.cache = after c₀ ms := by
  induction h with
  | nil =>
    rw [after, lastInstalled_nil, ← hc]
    rfl
  | cons _ hm ih =>
    rcases move_eq_some_iff.mp hm with ⟨i, s, c', st', rfl, hs, rfl⟩ | ⟨rfl, rfl⟩
    · rw [ih] at hs
      rw [after_step]
      exact hs.cache_eq
    · rw [ih]
      rfl

theorem Run.account (h : Run calls (.begun c₀) ms w) (hc : c₀.snapshot = none) (i : ι) :
    Account c₀ (calls i) i ms (own i ms) (w.stage i) := by
  induction h with
  | nil => exact .begun
  | cons h hm ih =>
    rcases move_eq_some_iff.mp hm with ⟨j, s, c', st', rfl, hs, rfl⟩ | ⟨rfl, rfl⟩
    · rw [h.cache_eq hc] at hs
      dsimp only
      by_cases hj : j = i
      · subst hj
        rw [own_step_self, Function.update_self]
        exact ih.step hs
      · rw [own_step_of_ne hj, Function.update_of_ne (Ne.symm hj)]
        exact ih.cons _
    · exact ih.cons _

/-- A call that has not ended can take a step, and may get any answer to what it fetches. -/
theorem exists_step (c : Cache) (call : Call) {st : Stage} (hst : ∀ a, st ≠ .ended a) (b : Answer) :
    ∃ s c' st', c.step call st s = some (c', st') ∧ ∀ v a, s = .fetched v a → a = b := by
  cases st with
  | begun =>
    cases ht : c.served? 0 call.force call.published with
    | some t => exact ⟨_, _, _, (Steps.served ht).step_eq, nofun⟩
    | none => exact ⟨_, _, _, (Steps.unserved ht).step_eq, nofun⟩
  | fetching v =>
    refine ⟨.fetched v b, ?_⟩
    simp only [step, if_true]
    cases (c.first v b).2 with
    | inl w => exact ⟨_, _, rfl, by simp⟩
    | inr outcome => exact ⟨_, _, rfl, by simp⟩
  | fetchingInstead v => exact ⟨.fetched v b, _, _, if_pos rfl, by simp⟩
  | received body v => exact ⟨.stamp 0, _, _, rfl, nofun⟩
  | stamped t => exact ⟨.install t, _, _, if_pos rfl, nofun⟩
  | lost => exact ⟨.read, _, _, rfl, nofun⟩
  | ended a => exact absurd rfl (hst a)

theorem Run.step {s : Step} {c c' : Cache} {st st' : Stage} {stage : ι → Stage}
    (h : Run calls w₀ ms ⟨c, Function.update stage i st⟩) (hs : Steps c (calls i) st s c' st') :
    Run calls w₀ (.step i s :: ms) ⟨c', Function.update stage i st'⟩ := by
  refine h.cons (move_eq_some_iff.mpr (.inl ⟨i, s, c', st', rfl, ?_, ?_⟩))
  · dsimp only
    rw [Function.update_self]
    exact hs
  · rw [Function.update_idem]

/-- A call that nothing interrupts, as one of the calls: it makes the same fetches. -/
theorem run_call {σ : Type} (fetch : Fetch σ) (store : σ) (began ended : Int)
    (hi : w.stage i = .begun) :
    let r := w.cache.call fetch store began ended (calls i).force (calls i).published
    let xs := w.cache.exchanges fetch store began ended (calls i).force (calls i).published
    ∃ os : List Step, os.reverse.filterMap Step.fetched? = xs.map (fun x => (x.variant, x.answer)) ∧
      Run calls w (os.map (.step i))
        ⟨r.2.cache, Function.update w.stage i (.ended r.2.answer)⟩ := by
  intro r xs
  have hbegun : Run calls w [] ⟨w.cache, Function.update w.stage i .begun⟩ := by
    rw [← hi, Function.update_eq_self]
    exact .nil
  cases hserved : w.cache.served? began (calls i).force (calls i).published with
  | some t =>
    refine ⟨[.check began], ?_, ?_⟩
    · simp only [xs, exchanges_of_served hserved]
      rfl
    · simp only [r, call_of_served hserved]
      exact hbegun.step (.served hserved)
  | none =>
    have hdownload : Download w.cache (wanted (calls i).published) ended xs r.2.cache r.2.answer :=
      download_of_not_served hserved
    have hfetching := hbegun.step (.unserved hserved)
    generalize xs = xs', r.2.cache = c', r.2.answer = a at hdownload ⊢
    cases hdownload with
    | received body =>
      exact ⟨[.install _, .stamp ended, .fetched _ _, .check began], rfl,
        ((hfetching.step (.received _ body)).step (.stamped _ _ ended)).step (.installed _)⟩
    | raised hf => exact ⟨[.fetched _ _, .check began], rfl, hfetching.step (.raised _ hf)⟩
    | lost hf hw =>
      exact ⟨[.read, .fetched _ _, .check began], rfl, (hfetching.step (.lost hf hw)).step .read⟩
    | receivedInstead hf hw body =>
      exact ⟨[.install _, .stamp ended, .fetched _ _, .fetched _ _, .check began], rfl,
        (((hfetching.step (.replaced hf hw)).step (.receivedInstead _ body)).step
          (.stamped _ _ ended)).step (.installed _)⟩
    | raisedInstead hf hw hg =>
      exact ⟨[.fetched _ _, .fetched _ _, .check began], rfl,
        (hfetching.step (.replaced hf hw)).step (.raisedInstead _ hg)⟩
    | lostInstead hf hw hg =>
      exact ⟨[.read, .fetched _ _, .fetched _ _, .check began], rfl,
        ((hfetching.step (.replaced hf hw)).step (.lostInstead _ hg)).step .read⟩

end Run

section Interleaved
variable {ι : Type} [DecidableEq ι] {calls : ι → Call} {documentId : String}
variable {policy : FallbackPolicy} {window : Int} {ms : List (Move ι)} {w : World ι}

/-- Three calls: the first falls back, and looks at the snapshot when that of the second has come and
gone; the third is answered by it. -/
def bustle : List (Move (Fin 3)) :=
  [.step 0 .read, .invalidate,
    .step 0 (.fetched .published (.error (.refused "denied" (some 403)))),
    .step 2 (.check 4), .step 1 (.install ⟨"text", 3, .draft⟩),
    .step 0 (.fetched .draft (.error (.timedOut "slow"))),
    .step 1 (.stamp 3), .step 1 (.fetched .draft (.ok "text")),
    .step 1 (.check 1), .step 0 (.check 0)]

end Interleaved

end Cache

end Scriptorium
