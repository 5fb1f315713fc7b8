import Mathlib.Data.List.Basic
import Mathlib.Data.List.Induction
import Scriptorium.Remote.Shelf

/-!
What a shelf answers, told by what has been done with it. A version fails if the last command that
had to do with its failing made it fail, and was no recovery; otherwise it is the body that was put
there last (`Told`). Whatever was done with other versions makes no difference, and neither did the
fetches, which the shelf only remembers.
-/

namespace Scriptorium
set_option autoImplicit false

namespace Shelf

/-- What can be done with a shelf. -/
inductive Command where
  | put (documentId body : String) (v : Variant)
  | fail (documentId : String) (v : Variant) (f : Failure)
  | recover (documentId : String) (v : Option Variant)
  | fetch (documentId : String) (v : Variant)

def perform (s : Shelf) : Command → Shelf
  | .put documentId body v => s.put documentId body v
  | .fail documentId v f => s.fail documentId v f
  | .recover documentId v => s.recover documentId v
  | .fetch documentId v => (fetch s documentId v).store

/-- The shelf that has such a history. -/
def after (cs : List Command) : Shelf := cs.foldl perform empty

namespace Command

/-- The command puts a body in the place of the version. -/
def Fills (k : VersionKey) : Command → Prop
  | .put documentId _ v => k = ⟨documentId, v⟩
  | _ => False

/-- The command makes the version fail, or ends its failures. A recovery that names no version is
one of all versions of the document. -/
def Sways (k : VersionKey) : Command → Prop
  | .fail documentId v _ => k = ⟨documentId, v⟩
  | .recover documentId v => k.documentId = documentId ∧ ∀ w ∈ v, k.variant = w
  | _ => False

/-- The command fetches what is asked for: one document or any, one version or both. -/
def Seeks (documentId : Option String) (v : Option Variant) : Command → Prop
  | .fetch d w => (∀ e ∈ documentId, d = e) ∧ ∀ x ∈ v, w = x
  | _ => False

def Concerns (k : VersionKey) (c : Command) : Prop := c.Fills k ∨ c.Sways k

def fetched? : Command → Option VersionKey
  | .fetch documentId v => some ⟨documentId, v⟩
  | _ => none

instance (k : VersionKey) (c : Command) : Decidable (c.Fills k) := by
  cases c <;> (unfold Fills; infer_instance)

instance (k : VersionKey) (c : Command) : Decidable (c.Sways k) := by
  cases c <;> (unfold Sways; infer_instance)

instance (k : VersionKey) (c : Command) : Decidable (c.Concerns k) := by
  unfold Concerns; infer_instance

instance (documentId : Option String) (v : Option Variant) (c : Command) :
    Decidable (c.Seeks documentId v) := by
  cases c <;> (unfold Seeks; infer_instance)

end Command

/-- The command is the last one of the history that is of this kind. -/
def Last (P : Command → Prop) (c : Command) (cs : List Command) : Prop :=
  P c ∧ ∃ u w, cs = u ++ c :: w ∧ ∀ d ∈ w, ¬ P d

/-- What is to be expected of a version with such a history. -/
inductive Told (cs : List Command) (k : VersionKey) : Answer → Prop where
  | failing (f : Failure) : Last (·.Sways k) (.fail k.documentId k.variant f) cs →
      Told cs k (.error f)
  | filled (body : String) : (∀ f, ¬ Last (·.Sways k) (.fail k.documentId k.variant f) cs) →
      Last (·.Fills k) (.put k.documentId body k.variant) cs → Told cs k (.ok body)
  | missing : (∀ f, ¬ Last (·.Sways k) (.fail k.documentId k.variant f) cs) →
      (∀ body, ¬ Last (·.Fills k) (.put k.documentId body k.variant) cs) →
      Told cs k (.error (.refused
        ("Runbook " ++ k.documentId ++ " has no " ++ k.variant.word ++ " version") (some 404)))

section Last
variable {P : Command → Prop} {c d : Command} {cs : List Command}

theorem not_last_nil : ¬ Last P c [] := by
  rintro ⟨-, u, w, hsplit, -⟩
  exact List.append_ne_nil_of_right_ne_nil u (List.cons_ne_nil c w) hsplit.symm

theorem last_concat_iff : Last P c (cs ++ [d]) ↔ P d ∧ c = d ∨ ¬ P d ∧ Last P c cs := by
  constructor
  · rintro ⟨hc, u, w, hsplit, hw⟩
    rcases List.eq_nil_or_concat' w with rfl | ⟨v, e, rfl⟩
    · obtain ⟨-, hlast⟩ := List.append_inj' hsplit rfl
      obtain rfl := (List.singleton_inj.mp hlast).symm
      exact .inl ⟨hc, rfl⟩
    · rw [← List.cons_append, ← List.append_assoc] at hsplit
      obtain ⟨rfl, hlast⟩ := List.append_inj' hsplit rfl
      obtain rfl := List.singleton_inj.mp hlast
      exact .inr ⟨hw d (by simp), hc, u, v, rfl, fun e he => hw e (by simp [he])⟩
  · rintro (⟨hd, rfl⟩ | ⟨hd, hc, u, w, rfl, hw⟩)
    · exact ⟨hd, cs, [], rfl, by simp⟩
    · refine ⟨hc, u, w ++ [d], by simp, ?_⟩
      intro e he
      rcases List.mem_append.mp he with he | he
      · exact hw e he
      · exact List.mem_singleton.mp he ▸ hd

/-- Commands of other kinds make no difference. -/
theorem last_filter_iff {Q : Command → Prop} [DecidablePred Q] (h : ∀ d, P d → Q d) :
    Last P c (cs.filter Q) ↔ Last P c cs := by
  induction cs using List.reverseRecOn with
  | nil => rfl
  | append_singleton cs d ih =>
    rw [List.filter_append, last_concat_iff, ← ih]
    by_cases hd : Q d
    · rw [List.filter_cons_of_pos (by simpa using hd), List.filter_nil, last_concat_iff]
    · have hnot : ¬ P d := mt (h d) hd
      rw [List.filter_cons_of_neg (by simpa using hd), List.filter_nil, List.append_nil]
      simp [hnot]

end Last

section Step
variable {s : Shelf} {c : Command} {k : VersionKey}

theorem lookup_filter {β : Type} (l : List (VersionKey × β)) (p : VersionKey → Bool) :
    (l.filter fun e => p e.1).lookup k = if p k then l.lookup k else none := by
  induction l with
  | nil => simp
  | cons e l ih =>
    obtain ⟨j, b⟩ := e
    rw [List.filter_cons, List.lookup_cons]
    by_cases hkj : k = j
    · subst hkj
      by_cases hp : p k = true <;> simp [hp, ih]
    · have hother : (k == j) = false := by simpa using hkj
      by_cases hp : p j = true <;> simp [hp, ih, hother, List.lookup_cons]

theorem failures_recover (documentId : String) (v : Option Variant) :
    (s.recover documentId v).failures.lookup k =
      if (Command.recover documentId v).Sways k then none else s.failures.lookup k := by
  have hkept : (!(decide (k.documentId = documentId) && v.all fun w => decide (k.variant = w))) =
      decide (¬ (Command.recover documentId v).Sways k) := by
    cases v <;> simp [Command.Sways]
  refine (lookup_filter s.failures fun j =>
    !(decide (j.documentId = documentId) && v.all fun w => decide (j.variant = w))).trans ?_
  rw [hkept]
  by_cases h : (Command.recover documentId v).Sways k <;> simp [h]

theorem failures_perform_of_not_sways (h : ¬ c.Sways k) :
    (s.perform c).failures.lookup k = s.failures.lookup k := by
  cases c with
  | fail documentId v f =>
    have hother : (k == ⟨documentId, v⟩) = false := by simpa [Command.Sways] using h
    simp [perform, fail, List.lookup_cons, hother]
  | recover documentId v => exact (failures_recover documentId v).trans (if_neg h)
  | _ => rfl

theorem documents_perform_of_not_fills (h : ¬ c.Fills k) :
    (s.perform c).documents.lookup k = s.documents.lookup k := by
  cases c with
  | put documentId body v =>
    have hother : (k == ⟨documentId, v⟩) = false := by simpa [Command.Fills] using h
    simp [perform, put, List.lookup_cons, hother]
  | _ => rfl

end Step

section After
variable {cs : List Command} {k : VersionKey}

theorem after_concat (cs : List Command) (c : Command) :
    after (cs ++ [c]) = (after cs).perform c := List.foldl_concat perform empty c cs

/-- A failure is in force just if it is what was last said of the failing of the version. -/
theorem failures_after (f : Failure) : (after cs).failures.lookup k = some f ↔
    Last (·.Sways k) (.fail k.documentId k.variant f) cs := by
  induction cs using List.reverseRecOn with
  | nil => exact iff_of_false (by simp [after, empty]) not_last_nil
  | append_singleton cs c ih =>
    rw [after_concat, last_concat_iff]
    by_cases hc : c.Sways k
    · simp only [hc, true_and, not_true, false_and, or_false]
      cases c with
      | fail documentId v g =>
        obtain rfl : k = ⟨documentId, v⟩ := hc
        simp [perform, fail, eq_comm]
      | recover documentId v => simp [perform, failures_recover, hc]
      | _ => cases hc
    · rw [failures_perform_of_not_sways hc, ih]
      simp [hc]

theorem documents_after (body : String) : (after cs).documents.lookup k = some body ↔
    Last (·.Fills k) (.put k.documentId body k.variant) cs := by
  induction cs using List.reverseRecOn with
  | nil => exact iff_of_false (by simp [after, empty]) not_last_nil
  | append_singleton cs c ih =>
    rw [after_concat, last_concat_iff]
    by_cases hc : c.Fills k
    · simp only [hc, true_and, not_true, false_and, or_false]
      cases c with
      | put documentId b v =>
        obtain rfl : k = ⟨documentId, v⟩ := hc
        simp [perform, put, eq_comm]
      | _ => cases hc
    · rw [documents_perform_of_not_fills hc, ih]
      simp [hc]

theorem answer_eq_iff_told (a : Answer) : (after cs).answer k = a ↔ Told cs k a := by
  constructor
  · rintro rfl
    unfold answer
    cases hfailure : (after cs).failures.lookup k with
    | some f => exact .failing f ((failures_after f).mp hfailure)
    | none =>
      have hsound : ∀ f, ¬ Last (·.Sways k) (.fail k.documentId k.variant f) cs := by
        intro f hlast
        simp [(failures_after f).mpr hlast] at hfailure
      cases hbody : (after cs).documents.lookup k with
      | some body => exact .filled body hsound ((documents_after body).mp hbody)
      | none =>
        refine .missing hsound fun body hlast => ?_
        simp [(documents_after body).mpr hlast] at hbody
  · have hnone : (∀ f, ¬ Last (·.Sways k) (.fail k.documentId k.variant f) cs) →
        (after cs).failures.lookup k = none := fun hsound =>
      Option.eq_none_iff_forall_ne_some.mpr fun f => mt (failures_after f).mp (hsound f)
    rintro (⟨f, hlast⟩ | ⟨body, hsound, hlast⟩ | ⟨hsound, hempty⟩)
    · simp only [answer, (failures_after f).mpr hlast]
    · simp only [answer, hnone hsound, (documents_after body).mpr hlast]
    · have hbody : (after cs).documents.lookup k = none :=
        Option.eq_none_iff_forall_ne_some.mpr fun body => mt (documents_after body).mp (hempty body)
      simp only [answer, hnone hsound, hbody]

theorem Told.of_last {ds : List Command} {a : Answer} (h : Told ds k a)
    (hsways : ∀ c, Last (·.Sways k) c ds ↔ Last (·.Sways k) c cs)
    (hfills : ∀ c, Last (·.Fills k) c ds ↔ Last (·.Fills k) c cs) : Told cs k a := by
  cases h with
  | failing f hlast => exact .failing f ((hsways _).mp hlast)
  | filled body hsound hlast =>
    exact .filled body (fun f => mt (hsways _).mpr (hsound f)) ((hfills _).mp hlast)
  | missing hsound hempty =>
    exact .missing (fun f => mt (hsways _).mpr (hsound f)) fun b => mt (hfills _).mpr (hempty b)

/-- What is to be expected of a version is told by the commands that concern it. -/
theorem Told.of_filter {a : Answer} (h : Told (cs.filter (·.Concerns k)) k a) : Told cs k a :=
  h.of_last (fun _ => last_filter_iff fun _ hd => .inr hd)
    fun _ => last_filter_iff fun _ hd => .inl hd

theorem fetches_after (cs : List Command) : (after cs).fetches = cs.filterMap Command.fetched? := by
  induction cs using List.reverseRecOn with
  | nil => rfl
  | append_singleton cs c ih =>
    rw [after_concat, List.filterMap_append, ← ih]
    cases c <;> simp [perform, put, fail, recover, fetch, Command.fetched?]

theorem fetchCount_after (documentId : Option String) (v : Option Variant) :
    (after cs).fetchCount documentId v = cs.countP (·.Seeks documentId v) := by
  rw [fetchCount, fetches_after, List.countP_filterMap]
  refine List.countP_congr fun c _ => ?_
  rw [decide_eq_true_iff]
  cases c <;> cases documentId <;> cases v <;> simp [Command.fetched?, Command.Seeks]

end After

/-- What a shelf answers when a version is fetched is told by its history, and by that part of it
alone which concerns the version. It remembers all fetches in their order, so it can count those
that somebody asks for. -/
theorem fetch_told (cs : List Command) :
    (∀ documentId v a, (fetch (after cs) documentId v).answer = a ↔ Told cs ⟨documentId, v⟩ a) ∧
    (∀ documentId v, (fetch (after cs) documentId v).answer =
      (fetch (after (cs.filter (·.Concerns ⟨documentId, v⟩))) documentId v).answer) ∧
    (after cs).fetches = cs.filterMap Command.fetched? ∧
    ∀ documentId v, (after cs).fetchCount documentId v = cs.countP (·.Seeks documentId v) := by
  refine ⟨fun documentId v a => answer_eq_iff_told a, ?_, fetches_after cs,
    fun documentId v => fetchCount_after documentId v⟩
  intro documentId v
  exact (answer_eq_iff_told _).mpr ((answer_eq_iff_told _).mp rfl).of_filter

end Shelf

end Scriptorium
