import Mathlib.Data.List.TakeWhile
import Phrasebook.Text.WhiteSpace

/-! What skipping and trimming take away from a text and what they leave of it. -/
namespace Phrasebook.Text

def Blank (cs : List Char) : Prop :=
  ∀ c ∈ cs, isWhiteSpace c = true

theorem blank_singleton {c : Char} (h : isWhiteSpace c = true) : Blank [c] := by simp [Blank, h]

theorem skipWhiteSpace_append {w : List Char} (hw : Blank w) (cs : List Char) :
    skipWhiteSpace (w ++ cs) = skipWhiteSpace cs :=
  List.dropWhile_append_of_pos hw

theorem skipWhiteSpace_cons {c : Char} (hc : isWhiteSpace c = false) (cs : List Char) :
    skipWhiteSpace (c :: cs) = c :: cs :=
  List.dropWhile_cons_of_neg (by simp [hc])

theorem exists_blank_skip (cs : List Char) : ∃ w, Blank w ∧ cs = w ++ skipWhiteSpace cs :=
  ⟨cs.takeWhile isWhiteSpace, fun _ hc => List.mem_takeWhile_imp hc,
    List.takeWhile_append_dropWhile.symm⟩

theorem head_skipWhiteSpace {cs rest : List Char} {c : Char} (h : skipWhiteSpace cs = c :: rest) :
    isWhiteSpace c = false := by
  have hc := List.head?_dropWhile_not isWhiteSpace cs
  rw [skipWhiteSpace] at h
  simpa [h] using hc

theorem skipWhiteSpace_skipWhiteSpace (cs : List Char) :
    skipWhiteSpace (skipWhiteSpace cs) = skipWhiteSpace cs := by
  cases h : skipWhiteSpace cs with
  | nil => rfl
  | cons c rest => exact skipWhiteSpace_cons (head_skipWhiteSpace h) rest

theorem skipWhiteSpace_eq_nil {cs : List Char} : skipWhiteSpace cs = [] ↔ Blank cs := by
  constructor
  · intro h
    obtain ⟨w, hw, he⟩ := exists_blank_skip cs
    rw [h, List.append_nil] at he
    exact he ▸ hw
  · intro h
    simpa [skipWhiteSpace] using skipWhiteSpace_append h []

theorem Blank.reverse {w : List Char} (hw : Blank w) : Blank w.reverse :=
  fun c hc => hw c (List.mem_reverse.mp hc)

theorem dropTrailing_append {w : List Char} (hw : Blank w) (cs : List Char) :
    dropTrailing (cs ++ w) = dropTrailing cs := by
  rw [dropTrailing, List.reverse_append, skipWhiteSpace_append hw.reverse, dropTrailing]

theorem dropTrailing_concat {c : Char} (hc : isWhiteSpace c = false) (cs : List Char) :
    dropTrailing (cs ++ [c]) = cs ++ [c] := by
  simp [dropTrailing, skipWhiteSpace_cons hc]

theorem dropTrailing_dropTrailing (cs : List Char) :
    dropTrailing (dropTrailing cs) = dropTrailing cs := by
  simp [dropTrailing, skipWhiteSpace_skipWhiteSpace]

theorem exists_blank_dropTrailing (cs : List Char) :
    ∃ w, Blank w ∧ cs = dropTrailing cs ++ w := by
  obtain ⟨w, hw, he⟩ := exists_blank_skip cs.reverse
  refine ⟨w.reverse, hw.reverse, ?_⟩
  rw [dropTrailing, ← List.reverse_append, ← he, List.reverse_reverse]

theorem length_dropTrailing_le (cs : List Char) : (dropTrailing cs).length ≤ cs.length := by
  obtain ⟨w, -, he⟩ := exists_blank_dropTrailing cs
  have hl := congrArg List.length he
  rw [List.length_append] at hl
  omega

/-- Trimming leaves a piece of the text with white space on both sides of it. -/
theorem exists_blank_trimmed (cs : List Char) :
    ∃ u v, Blank u ∧ Blank v ∧ cs = u ++ trimmed cs ++ v := by
  obtain ⟨u, hu, he⟩ := exists_blank_skip cs
  obtain ⟨v, hv, hd⟩ := exists_blank_dropTrailing (skipWhiteSpace cs)
  refine ⟨u, v, hu, hv, ?_⟩
  rw [trimmed, List.append_assoc, ← hd, ← he]

theorem mem_of_mem_trimmed {cs : List Char} {c : Char} (h : c ∈ trimmed cs) : c ∈ cs := by
  obtain ⟨u, v, -, -, he⟩ := exists_blank_trimmed cs
  rw [he]
  simp [h]

theorem skipWhiteSpace_trimmed (cs : List Char) : skipWhiteSpace (trimmed cs) = trimmed cs := by
  obtain ⟨v, -, he⟩ := exists_blank_dropTrailing (skipWhiteSpace cs)
  cases h : trimmed cs with
  | nil => rfl
  | cons c rest =>
    rw [trimmed] at h
    rw [h, List.cons_append] at he
    exact skipWhiteSpace_cons (head_skipWhiteSpace he) rest

theorem trimmed_trimmed (cs : List Char) : trimmed (trimmed cs) = trimmed cs := by
  rw [trimmed, skipWhiteSpace_trimmed, trimmed, dropTrailing_dropTrailing]

theorem trimmed_append {u v : List Char} (hu : Blank u) (hv : Blank v) (cs : List Char) :
    trimmed (u ++ cs ++ v) = trimmed cs := by
  rw [trimmed, List.append_assoc, skipWhiteSpace_append hu, skipWhiteSpace,
    List.dropWhile_append]
  by_cases h : skipWhiteSpace cs = []
  · have hs := skipWhiteSpace_eq_nil.mpr hv
    simp only [skipWhiteSpace] at h hs
    simp [trimmed, skipWhiteSpace, h, hs]
  · simp only [skipWhiteSpace] at h
    simp [h, dropTrailing_append hv, trimmed, skipWhiteSpace]

/-- A text that neither starts nor ends with white space is left as it is. -/
theorem trimmed_eq_self {c d : Char} (hc : isWhiteSpace c = false) (hd : isWhiteSpace d = false)
    (cs : List Char) : trimmed (c :: cs ++ [d]) = c :: cs ++ [d] := by
  rw [trimmed, List.cons_append, skipWhiteSpace_cons hc, ← List.cons_append,
    dropTrailing_concat hd]

/-- A trimmed text does not end with white space. -/
theorem eq_nil_of_trimmed_append {cs xs w : List Char} (h : trimmed cs = xs ++ w)
    (hw : Blank w) : w = [] := by
  have ht : dropTrailing (trimmed cs) = trimmed cs := by
    rw [trimmed, dropTrailing_dropTrailing]
  rw [h, dropTrailing_append hw] at ht
  have hl := length_dropTrailing_le xs
  rw [ht, List.length_append] at hl
  exact List.length_eq_zero_iff.mp (by omega)

end Phrasebook.Text
