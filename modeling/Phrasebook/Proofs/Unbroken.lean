import Phrasebook.Proofs.LetterCase
import Phrasebook.Proofs.Lines
import Phrasebook.Proofs.WhiteSpace

/-! Text without newlines: how it is put together, which lines are made of it, and why splitting a
text into lines undoes joining them. -/
namespace Phrasebook

open Text

namespace Text

def Unbroken (text : String) : Prop :=
  '\n' ∉ text.toList

instance (text : String) : Decidable (Unbroken text) :=
  inferInstanceAs (Decidable ('\n' ∉ text.toList))

@[simp] theorem unbroken_empty : Unbroken "" := by decide

@[simp] theorem unbroken_blank : Unbroken " " := by decide

@[simp] theorem unbroken_comma : Unbroken ", " := by decide

@[simp] theorem unbroken_append {s t : String} : Unbroken (s ++ t) ↔ Unbroken s ∧ Unbroken t := by
  simp [Unbroken]

theorem unbroken_join {separator : String} (hs : Unbroken separator) {texts : List String}
    (h : ∀ t ∈ texts, Unbroken t) : Unbroken (join separator texts) := by
  induction texts with
  | nil => exact unbroken_empty
  | cons t ts ih =>
    rw [List.forall_mem_cons] at h
    cases ts with
    | nil => exact h.1
    | cons u us => simp [join_cons_cons, hs, h.1, ih h.2]

theorem unbroken_repeated {unit : String} (h : Unbroken unit) (n : Nat) :
    Unbroken (repeated unit n) := by
  induction n with
  | zero => exact unbroken_empty
  | succ n ih => simp [repeated, h, ih]

theorem unbroken_trimEnd {text : String} (h : Unbroken text) : Unbroken (trimEnd text) := by
  obtain ⟨w, -, he⟩ := exists_blank_dropTrailing text.toList
  rw [Unbroken, he] at h
  rw [Unbroken, toList_trimEnd]
  exact fun hmem => h (List.mem_append_left w hmem)

theorem newline_notMem_segments {cs s : List Char} (h : s ∈ segments cs) : '\n' ∉ s := by
  induction cs generalizing s with
  | nil =>
    obtain rfl : s = [] := by simpa [segments] using h
    exact List.not_mem_nil
  | cons c cs ih =>
    obtain ⟨first, rest, hs⟩ := List.exists_cons_of_ne_nil (segments_ne_nil cs)
    simp only [segments, hs] at h ih
    split at h
    · rcases List.mem_cons.mp h with rfl | h
      · exact List.not_mem_nil
      · exact ih h
    · next hc =>
      rcases List.mem_cons.mp h with rfl | h
      · simp [Ne.symm hc, ih List.mem_cons_self]
      · exact ih (List.mem_cons_of_mem first h)

theorem unbroken_of_mem_splitLines {text line : String} (h : line ∈ splitLines text) :
    Unbroken line := by
  obtain ⟨s, hs, rfl⟩ := List.mem_map.mp h
  rw [Unbroken, String.toList_ofList]
  exact newline_notMem_segments hs

theorem splitLines_eq_splitOn (text : String) :
    splitLines text = (text.toList.splitOn '\n').map String.ofList := by
  have hlines : ∀ line ∈ splitLines text, '\n' ∉ line.toList := fun _ => unbroken_of_mem_splitLines
  have hsplit := splitOn_join (splitLines_ne_nil text) hlines
  have hjoin : join (String.singleton '\n') (splitLines text) = text := join_splitLines text
  rw [hjoin] at hsplit
  rw [hsplit, List.map_map]
  simp [Function.comp_def]

/-- Lines that have been joined with newlines are found again by splitting. -/
theorem splitLines_join {lines : List String} (hne : lines ≠ []) (h : ∀ t ∈ lines, Unbroken t) :
    splitLines (join "\n" lines) = lines := by
  have hsplit : (join "\n" lines).toList.splitOn '\n' = lines.map String.toList :=
    splitOn_join hne h
  rw [splitLines_eq_splitOn, hsplit, List.map_map]
  simp [Function.comp_def]

end Text

namespace Convention

theorem unbroken_convert {k : Convention} (hk : Unbroken k.separator) {words : List String}
    (h : ∀ w ∈ words, Unbroken w) : Unbroken (k.convert words) := by
  cases words with
  | nil => exact unbroken_empty
  | cons w ws =>
    have hjoined := unbroken_join hk (notMem_formed uncased_newline k h 0)
    rw [convert]
    cases k.finish with
    | keep => exact hjoined
    | relativePath => exact unbroken_append.mpr ⟨by decide, hjoined⟩

end Convention

theorem CaseStyle.unbroken_convert (style : CaseStyle) {words : List String}
    (h : ∀ w ∈ words, Unbroken w) : Unbroken (style.convert words) := by
  apply Convention.unbroken_convert _ h
  cases style <;> decide

def Rendering.Unbroken (r : Rendering) : Prop :=
  ∀ line ∈ r.lines, Text.Unbroken line.text

namespace Rendering

@[simp] theorem unbroken_line {text : String} : (line text).Unbroken ↔ Text.Unbroken text := by
  simp [Unbroken, line, single]

@[simp] theorem unbroken_statement {text : String} :
    (statement text).Unbroken ↔ Text.Unbroken text := by
  simp [Unbroken, statement]

@[simp] theorem unbroken_single {text : String} {d : Int} :
    (single text d).Unbroken ↔ Text.Unbroken text := by
  simp [Unbroken, single]

theorem unbroken_linesOf {d : Int} {ts : List String} :
    (∀ line ∈ linesOf d ts, Text.Unbroken line.text) ↔ ∀ t ∈ ts, Text.Unbroken t := by
  induction ts with
  | nil => simp [linesOf]
  | cons t ts ih =>
    cases ts with
    | nil => simp
    | cons u us =>
      rw [linesOf, List.forall_mem_cons, ih]
      exact List.forall_mem_cons.symm

theorem Unbroken.pushText {r : Rendering} (h : r.Unbroken) (text : String) (d : Int) :
    (r.pushText text d).Unbroken := by
  rw [Rendering.Unbroken, Rendering.pushText, List.forall_mem_append, unbroken_linesOf]
  exact ⟨h, fun _ => unbroken_of_mem_splitLines⟩

theorem unbroken_appendLast {text : String} (ht : Text.Unbroken text) {ls : List Line}
    (h : ∀ line ∈ ls, Text.Unbroken line.text) :
    ∀ line ∈ appendLast text ls, Text.Unbroken line.text := by
  induction ls with
  | nil => simpa [appendLast] using ht
  | cons l ls ih =>
    rw [List.forall_mem_cons] at h
    cases ls with
    | nil => simpa [appendLast] using ⟨h.1, ht⟩
    | cons m ms =>
      rw [appendLast, List.forall_mem_cons]
      exact ⟨h.1, ih h.2⟩

theorem unbroken_shiftLast (d : Int) {ls : List Line}
    (h : ∀ line ∈ ls, Text.Unbroken line.text) :
    ∀ line ∈ shiftLast d ls, Text.Unbroken line.text := by
  induction ls with
  | nil => simp [shiftLast]
  | cons l ls ih =>
    rw [List.forall_mem_cons] at h
    cases ls with
    | nil => simpa [shiftLast] using h.1
    | cons m ms =>
      rw [shiftLast, List.forall_mem_cons]
      exact ⟨h.1, ih h.2⟩

/-- Whatever the ender is, its newlines become ends of lines. -/
theorem Unbroken.close {r : Rendering} (h : r.Unbroken) (ender : String) (d : Int) :
    (r.close ender d).Unbroken := by
  have hsegments : ∀ t ∈ splitLines ender, Text.Unbroken t := fun _ => unbroken_of_mem_splitLines
  obtain ⟨first, rest, hs⟩ := List.exists_cons_of_ne_nil (splitLines_ne_nil ender)
  rw [hs, List.forall_mem_cons] at hsegments
  refine unbroken_shiftLast d ?_
  simp only [appendText, hs]
  rw [List.forall_mem_append]
  exact ⟨unbroken_appendLast hsegments.1 h, by simpa using hsegments.2⟩

/-- Lines of their own after the others. -/
theorem Unbroken.pushes {r : Rendering} (h : r.Unbroken) {ts : List String}
    (hts : ∀ t ∈ ts, Text.Unbroken t) : (ts.foldl (fun r t => r.push t 0) r).Unbroken := by
  rw [foldl_push, Rendering.Unbroken, List.forall_mem_append, unbroken_linesOf]
  exact ⟨h, hts⟩

theorem Unbroken.firstText {r : Rendering} (h : r.Unbroken) : Text.Unbroken r.firstText := by
  rw [Rendering.firstText]
  split
  · next l hl => exact h l (List.mem_of_find?_eq_some hl)
  · exact unbroken_empty

end Rendering

end Phrasebook
