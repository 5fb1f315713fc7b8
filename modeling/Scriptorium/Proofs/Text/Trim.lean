import Mathlib.Data.List.TakeWhile
import Scriptorium.Text.Class

/-!
Trimming. Blanks in front of a text and behind it make no difference to the trimmed text, a text
without them is its own trimmed text, and trimming takes nothing else away.
-/

namespace Scriptorium
set_option autoImplicit false

namespace Text

/-- Nothing but blanks. -/
def Blanks (cs : List Char) : Prop := ∀ c ∈ cs, isBlank c = true

/-- No blank in front, and none behind. -/
structure Trimmed (cs : List Char) : Prop where
  front : ∀ c ∈ cs.head?, isBlank c = false
  back : ∀ c ∈ cs.getLast?, isBlank c = false

variable {cs s u v : List Char}

theorem Blanks.nil : Blanks [] := fun _ hc => absurd hc List.not_mem_nil

theorem Blanks.single {c : Char} (hc : isBlank c = true) : Blanks [c] :=
  fun _ hd => List.mem_singleton.mp hd ▸ hc

theorem Blanks.reverse (h : Blanks u) : Blanks u.reverse :=
  fun c hc => h c (List.mem_reverse.mp hc)

theorem Blanks.not_mem {c : Char} (hc : isBlank c = false) (h : Blanks u) : c ∉ u :=
  fun hmem => absurd (h c hmem) (by simp [hc])

theorem Blanks.dropWhile_append (h : Blanks u) (cs : List Char) :
    (u ++ cs).dropWhile isBlank = cs.dropWhile isBlank :=
  List.dropWhile_append_of_pos h

theorem Blanks.dropWhile (h : Blanks u) : u.dropWhile isBlank = [] :=
  List.dropWhile_eq_nil_iff.mpr h

theorem Trimmed.dropWhile (h : Trimmed s) : s.dropWhile isBlank = s := by
  cases s with
  | nil => rfl
  | cons c r =>
    have hc : isBlank c = false := h.front c rfl
    exact List.dropWhile_cons_of_neg (by simp [hc])

theorem Trimmed.reverse (h : Trimmed s) : Trimmed s.reverse :=
  ⟨by simpa using h.back, by simpa using h.front⟩

theorem trimmed_of_ends {c d : Char} (hc : isBlank c = false) (hd : isBlank d = false)
    (cs : List Char) : Trimmed (c :: (cs ++ [d])) := by
  refine ⟨?_, ?_⟩
  · intro e he
    obtain rfl : c = e := Option.some.inj he
    exact hc
  · rw [← List.cons_append, List.getLast?_concat]
    intro e he
    obtain rfl : d = e := Option.some.inj he
    exact hd

theorem trim_blanks_append (hu : Blanks u) (cs : List Char) : trim (u ++ cs) = trim cs := by
  unfold trim trimBy
  rw [hu.dropWhile_append]

theorem trim_append_blanks (hv : Blanks v) (cs : List Char) : trim (cs ++ v) = trim cs := by
  unfold trim trimBy
  rw [List.dropWhile_append]
  split
  · rename_i hblank
    rw [List.isEmpty_iff.mp hblank, hv.dropWhile]
  · rw [List.reverse_append, hv.reverse.dropWhile_append]

/-- What does not begin with a blank holds what stands in front of it in place, too. -/
theorem trim_append_trimmed (hs : Trimmed s) (hne : s ≠ []) (cs : List Char) :
    trim (cs ++ s) = cs.dropWhile isBlank ++ s := by
  have hfront : (cs ++ s).dropWhile isBlank = cs.dropWhile isBlank ++ s := by
    rw [List.dropWhile_append]
    split
    · rename_i hblank
      rw [List.isEmpty_iff.mp hblank, hs.dropWhile, List.nil_append]
    · rfl
  obtain ⟨d, r, hd⟩ := List.exists_cons_of_ne_nil (List.reverse_ne_nil_iff.mpr hne)
  have hback : isBlank d = false := hs.reverse.front d (by rw [hd]; rfl)
  unfold trim trimBy
  rw [hfront, List.reverse_append, hd, List.cons_append,
    List.dropWhile_cons_of_neg (by simp [hback]), ← List.cons_append, ← hd, ← List.reverse_append,
    List.reverse_reverse]

theorem Trimmed.trim (h : Trimmed s) : trim s = s := by
  by_cases hne : s = []
  · rw [hne, trim_nil]
  · simpa using trim_append_trimmed h hne []

/-- Only blanks are taken away. -/
theorem exists_blanks (cs : List Char) :
    ∃ u v, Blanks u ∧ Blanks v ∧ cs = u ++ (Text.trim cs ++ v) := by
  refine ⟨cs.takeWhile isBlank, ((cs.dropWhile isBlank).reverse.takeWhile isBlank).reverse,
    fun c hc => List.mem_takeWhile_imp hc, Blanks.reverse fun c hc => List.mem_takeWhile_imp hc, ?_⟩
  unfold Text.trim trimBy
  rw [← List.reverse_append, List.takeWhile_append_dropWhile, List.reverse_reverse,
    List.takeWhile_append_dropWhile]

theorem trim_eq_nil_iff : Text.trim cs = [] ↔ Blanks cs := by
  constructor
  · intro hnil
    obtain ⟨u, v, hu, hv, hcs⟩ := exists_blanks cs
    rw [hnil, List.nil_append] at hcs
    rw [hcs]
    exact List.forall_mem_append.mpr ⟨hu, hv⟩
  · intro hcs
    have hnil := trim_blanks_append hcs []
    rwa [List.append_nil, trim_nil] at hnil

theorem head?_dropWhile_isBlank {c : Char} (hc : c ∈ (cs.dropWhile isBlank).head?) :
    isBlank c = false := by
  have hhead := List.head?_dropWhile_not isBlank cs
  rwa [Option.mem_def.mp hc] at hhead

theorem trim_isPrefix (cs : List Char) : Text.trim cs <+: cs.dropWhile isBlank :=
  List.reverse_suffix.mp (by simpa [Text.trim, trimBy] using List.dropWhile_suffix isBlank)

theorem trimmed_trim (cs : List Char) : Trimmed (Text.trim cs) := by
  refine ⟨fun c hc => ?_, fun c hc => ?_⟩
  · obtain ⟨v, hv⟩ := trim_isPrefix cs
    have hfront : c ∈ (cs.dropWhile isBlank).head? := by
      rw [← hv, List.head?_append, Option.mem_def.mp hc]
      rfl
    exact head?_dropWhile_isBlank hfront
  · rw [Text.trim, trimBy, List.getLast?_reverse] at hc
    exact head?_dropWhile_isBlank hc

end Text

end Scriptorium
