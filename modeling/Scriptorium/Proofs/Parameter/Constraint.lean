import Mathlib.Data.List.TakeWhile
import Scriptorium.Parameter.Naming
import Scriptorium.Proofs.Text.Trim

/-!
Types as they are written, and as they are read again. Blanks may stand in front of the brackets,
inside of them and behind; arguments begin at the first parenthesis and may hold any brackets; and
of several pairs of brackets that make an array, only the last is taken off the name.
-/

namespace Scriptorium
set_option autoImplicit false

namespace Naming
open Text

/-- A pair of brackets that holds nothing but commas, with blanks around them. -/
inductive ArraySuffix : List Char → Prop where
  | brackets {u v : List Char} (k : Nat) : Blanks u → Blanks v →
      ArraySuffix ('[' :: (u ++ (List.replicate k ',' ++ v) ++ [']']))

/-- The text ends in such a pair, whatever stands in front of it. -/
def EndsInSuffix (cs : List Char) : Prop := ∃ before s, ArraySuffix s ∧ cs = before ++ s

variable {cs before name s u v w x y : List Char}

theorem ArraySuffix.trimmed (h : ArraySuffix s) : Trimmed s := by
  cases h
  exact trimmed_of_ends (by decide) (by decide) _

theorem ArraySuffix.ne_nil (h : ArraySuffix s) : s ≠ [] := by
  cases h
  exact List.cons_ne_nil _ _

theorem ArraySuffix.not_mem_paren (h : ArraySuffix s) : '(' ∉ s := by
  cases h with
  | brackets k hu hv =>
    have hblank : isBlank '(' = false := by decide
    simp [hu.not_mem hblank, hv.not_mem hblank]

/-- Read from the end, blanks, commas and blanks lead to the opening bracket. -/
theorem dropWhile_inner (hu : Blanks u) (hv : Blanks v) (k : Nat) (cs : List Char) :
    (((v ++ (List.replicate k ',' ++ (u ++ '[' :: cs))).dropWhile isBlank).dropWhile
      (· == ',')).dropWhile isBlank = '[' :: cs := by
  have hbracket : ('[' :: cs).dropWhile isBlank = '[' :: cs :=
    List.dropWhile_cons_of_neg (by decide)
  rw [hv.dropWhile_append]
  cases k with
  | zero =>
    rw [List.replicate_zero, List.nil_append, hu.dropWhile_append, hbracket,
      List.dropWhile_cons_of_neg (by decide), hbracket]
  | succ k =>
    have hcommas : ∀ c ∈ List.replicate (k + 1) ',', (c == ',') = true := by
      intro c hc
      rw [List.eq_of_mem_replicate hc]
      rfl
    have hstop : (u ++ '[' :: cs).dropWhile (· == ',') = u ++ '[' :: cs := by
      cases u with
      | nil => exact List.dropWhile_cons_of_neg (by decide)
      | cons c u =>
        have hc : c ≠ ',' := by
          rintro rfl
          exact absurd (hu _ List.mem_cons_self) (by decide)
        exact List.dropWhile_cons_of_neg (by simpa using hc)
    rw [List.replicate_succ, List.cons_append, List.dropWhile_cons_of_neg (by decide),
      ← List.cons_append, ← List.replicate_succ, List.dropWhile_append_of_pos hcommas, hstop,
      hu.dropWhile_append, hbracket]

theorem exists_inner
    (h : ((cs.dropWhile isBlank).dropWhile (· == ',')).dropWhile isBlank = '[' :: before) :
    ∃ u v k, Blanks u ∧ Blanks v ∧ cs = v ++ (List.replicate k ',' ++ (u ++ '[' :: before)) := by
  have hcommas : ∀ c ∈ (cs.dropWhile isBlank).takeWhile (· == ','), c = ',' := by
    intro c hc
    have hcomma : (c == ',') = true := List.mem_takeWhile_imp (p := (· == ',')) hc
    exact beq_iff_eq.mp hcomma
  refine ⟨((cs.dropWhile isBlank).dropWhile (· == ',')).takeWhile isBlank, cs.takeWhile isBlank,
    ((cs.dropWhile isBlank).takeWhile (· == ',')).length, fun c hc => List.mem_takeWhile_imp hc,
    fun c hc => List.mem_takeWhile_imp hc, ?_⟩
  rw [← List.eq_replicate_of_mem hcommas, ← h, List.takeWhile_append_dropWhile,
    List.takeWhile_append_dropWhile, List.takeWhile_append_dropWhile]

theorem stripArraySuffix?_eq_some_iff :
    stripArraySuffix? cs = some before ↔ ∃ s, ArraySuffix s ∧ cs = before ++ s := by
  constructor
  · intro h
    unfold stripArraySuffix? at h
    split at h
    · rename_i r hr
      split at h
      · rename_i front hfront
        obtain rfl : front.reverse = before := Option.some.inj h
        obtain ⟨u, v, k, hu, hv, rfl⟩ := exists_inner hfront
        refine ⟨_, .brackets k hu.reverse hv.reverse, ?_⟩
        rw [← List.reverse_reverse cs, hr]
        simp
      · cases h
    · cases h
  · rintro ⟨s, hs, rfl⟩
    cases hs with
    | @brackets u v k hu hv =>
      have hreverse : (before ++ '[' :: (u ++ (List.replicate k ',' ++ v) ++ [']'])).reverse =
          ']' :: (v.reverse ++ (List.replicate k ',' ++ (u.reverse ++ '[' :: before.reverse))) := by
        simp
      unfold stripArraySuffix?
      rw [hreverse]
      simp only [dropWhile_inner hu.reverse hv.reverse, List.reverse_reverse]

theorem stripArraySuffix?_eq_none_iff : stripArraySuffix? cs = none ↔ ¬EndsInSuffix cs := by
  rw [← not_iff_not, ← ne_eq, Option.ne_none_iff_exists', not_not]
  exact exists_congr fun before => stripArraySuffix?_eq_some_iff

/-- What is made of a name, once it is cut out. -/
def named (name : List Char) : TypeConstraint :=
  match stripArraySuffix? name with
  | some before => ⟨trim before, true⟩
  | none => ⟨name, false⟩

/-- Blanks are no parenthesis, so it makes no difference when they are taken away. -/
theorem trim_takeWhile_trim (cs : List Char) :
    trim ((trim cs).takeWhile (· ≠ '(')) = trim (cs.takeWhile (· ≠ '(')) := by
  have hblank : ∀ {u : List Char}, Blanks u → ∀ c ∈ u, decide (c ≠ '(') = true := by
    intro u hu c hc
    rw [decide_eq_true_eq]
    rintro rfl
    exact hu.not_mem (by decide) hc
  obtain ⟨u, v, hu, hv, hparts⟩ := exists_blanks cs
  generalize trim cs = t at hparts
  subst hparts
  rw [List.takeWhile_append_of_pos (hblank hu), trim_blanks_append hu, List.takeWhile_append]
  split
  · rename_i hall
    rw [(List.takeWhile_prefix _).eq_of_length hall, List.takeWhile_eq_self_iff.mpr (hblank hv),
      trim_append_blanks hv]
  · rfl

theorem typeConstraint_bracketed (hu : Blanks u) (hy : Blanks y) (cs : List Char) :
    typeConstraint (u ++ '[' :: (cs ++ ']' :: y)) = named (trim (cs.takeWhile (· ≠ '('))) := by
  have hsolid : Trimmed ('[' :: (cs ++ [']'])) := trimmed_of_ends (by decide) (by decide) cs
  have htrim : trim (u ++ '[' :: (cs ++ ']' :: y)) = '[' :: (cs ++ [']']) := by
    rw [trim_blanks_append hu, List.append_cons cs, ← List.cons_append, trim_append_blanks hy,
      hsolid.trim]
  unfold typeConstraint
  rw [htrim, unbracket, List.getLast?_concat, if_pos rfl, List.dropLast_concat,
    trim_takeWhile_trim]
  rfl

/-- Arguments are cut off, whatever they hold. -/
theorem takeWhile_arguments {z : List Char} (hcs : '(' ∉ cs)
    (hz : ∀ c ∈ z.head?, c = '(') :
    (cs ++ z).takeWhile (· ≠ '(') = cs := by
  have hkept : ∀ c ∈ cs, decide (c ≠ '(') = true := by
    intro c hc
    rw [decide_eq_true_eq]
    rintro rfl
    exact hcs hc
  rw [List.takeWhile_append_of_pos hkept]
  cases z with
  | nil => rw [List.takeWhile_nil, List.append_nil]
  | cons c z =>
    rw [List.takeWhile_cons_of_neg (by simp [hz c rfl]), List.append_nil]

theorem named_of_suffix (hs : ArraySuffix s) (cs : List Char) :
    named (trim (cs ++ s)) = ⟨trim cs, true⟩ := by
  have hstrip : stripArraySuffix? (trim (cs ++ s)) = some (cs.dropWhile isBlank) :=
    stripArraySuffix?_eq_some_iff.mpr ⟨s, hs, trim_append_trimmed hs.trimmed hs.ne_nil cs⟩
  have hfront : Blanks (cs.takeWhile isBlank) := fun c hc => List.mem_takeWhile_imp hc
  have htrim : trim (cs.dropWhile isBlank) = trim cs := by
    rw [← trim_blanks_append hfront, List.takeWhile_append_dropWhile]
  simp only [named, hstrip, htrim]

theorem named_eq_iff : named name = ⟨name, false⟩ ↔ ¬EndsInSuffix name := by
  rw [← stripArraySuffix?_eq_none_iff]
  unfold named
  split <;> simp_all

/-- A name in brackets is read as it was written: as that of an array if a pair of brackets stands
behind it, whether or not it ends in such a pair itself, and otherwise as it is, if it does not end
in one. Blanks and arguments make no difference. -/
theorem typeConstraint_written {z : List Char} (hname : Trimmed name) (hopen : '(' ∉ name)
    (hblanks : ∀ t ∈ [u, v, w, x, y], Blanks t) (hz : ∀ c ∈ z.head?, c = '(') :
    (∀ s, ArraySuffix s →
      typeConstraint (u ++ '[' :: (v ++ name ++ w ++ s ++ x ++ z ++ ']' :: y)) =
        ⟨name, true⟩) ∧
    (typeConstraint (u ++ '[' :: (v ++ name ++ w ++ z ++ ']' :: y)) = ⟨name, false⟩ ↔
      ¬EndsInSuffix name) := by
  simp only [List.forall_mem_cons, List.not_mem_nil, false_implies, implies_true,
    and_true] at hblanks
  obtain ⟨hu, hv, hw, hx, hy⟩ := hblanks
  have hparen : isBlank '(' = false := by decide
  have hplain : '(' ∉ v ++ name ++ w := by
    simp [hopen, hv.not_mem hparen, hw.not_mem hparen]
  have htrim : trim (v ++ name ++ w) = name := by
    rw [trim_append_blanks hw, trim_blanks_append hv, hname.trim]
  refine ⟨fun s hs => ?_, ?_⟩
  · have harray : '(' ∉ v ++ name ++ w ++ s ++ x := by
      rw [List.mem_append, List.mem_append, not_or, not_or]
      exact ⟨⟨hplain, hs.not_mem_paren⟩, hx.not_mem hparen⟩
    rw [typeConstraint_bracketed hu hy, takeWhile_arguments harray hz,
      trim_append_blanks hx, named_of_suffix hs, htrim]
  · rw [typeConstraint_bracketed hu hy, takeWhile_arguments hplain hz, htrim]
    exact named_eq_iff

/-- The name of a generic type that holds an array itself, with arguments that look like the end of
an array. -/
theorem typeConstraint_written_generic :
    Trimmed "List[int[]]".toList ∧ '(' ∉ "List[int[]]".toList ∧
    ArraySuffix "[ ,,]".toList ∧ ¬EndsInSuffix "List[int[]]".toList ∧
    typeConstraint " [\tList[int[]] [ ,,]('a[]')] ".toList = ⟨"List[int[]]".toList, true⟩ ∧
    typeConstraint " [\tList[int[]] ('a[]')] ".toList = ⟨"List[int[]]".toList, false⟩ := by
  have hname : Trimmed "List[int[]]".toList :=
    trimmed_of_ends (by decide) (by decide) "ist[int[]".toList
  have hplain : ¬EndsInSuffix "List[int[]]".toList :=
    stripArraySuffix?_eq_none_iff.mp (by decide)
  have hblank : Blanks [' '] := .single (by decide)
  have htab : Blanks ['\t'] := .single (by decide)
  have hsuffix : ArraySuffix "[ ,,]".toList := .brackets (v := []) 2 hblank .nil
  obtain ⟨harray, hsingle⟩ := typeConstraint_written (u := [' ']) (v := ['\t']) (w := [' '])
    (x := []) (y := [' ']) (z := "('a[]')".toList) hname (by decide)
    (by simp [hblank, htab, Blanks.nil]) (fun c hc => (Option.some.inj hc).symm)
  refine ⟨hname, by decide, hsuffix, hplain, ?_, ?_⟩
  · exact (congrArg typeConstraint (by decide)).trans (harray _ hsuffix)
  · exact (congrArg typeConstraint (by decide)).trans (hsingle.mpr hplain)

end Naming

end Scriptorium
