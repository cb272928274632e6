import Phrasebook.Rendering

/-! Lines as they are put together: what becomes of texts that are joined, and of a text that is
divided into lines, and which changes of level the builders make. -/
namespace Phrasebook

open Text

namespace Text

theorem join_cons {ts : List String} (h : ts ≠ []) (separator text : String) :
    join separator (text :: ts) = text ++ separator ++ join separator ts := by
  cases ts with
  | nil => exact absurd rfl h
  | cons t ts => rfl

theorem join_modifyHead {ts : List String} (h : ts ≠ []) (separator text : String) :
    join separator (ts.modifyHead (text ++ ·)) = text ++ join separator ts := by
  cases ts with
  | nil => exact absurd rfl h
  | cons t ts =>
    cases ts with
    | nil => rfl
    | cons u us => simp [join_cons_cons, String.append_assoc]

theorem join_glue (separator last first : String) (before rest : List String) :
    join separator (before ++ (last ++ first) :: rest) =
      join separator (before ++ [last]) ++ join separator (first :: rest) := by
  induction before with
  | nil => exact join_modifyHead (List.cons_ne_nil first rest) separator last
  | cons text before ih =>
    rw [List.cons_append, List.cons_append, join_cons (by simp), join_cons (by simp), ih]
    simp only [String.append_assoc]

theorem join_segments (cs : List Char) :
    join "\n" ((segments cs).map String.ofList) = String.ofList cs := by
  induction cs with
  | nil => rfl
  | cons c cs ih =>
    obtain ⟨first, rest, hs⟩ := List.exists_cons_of_ne_nil (segments_ne_nil cs)
    by_cases hc : c = '\n'
    · simp only [segments, hc, if_true, List.map_cons]
      rw [join_cons (by simp [hs]), ih]
      simp
    · have hhead : (segments (c :: cs)).map String.ofList =
          ((segments cs).map String.ofList).modifyHead (String.ofList [c] ++ ·) := by
        simp [segments, hc, hs]
      rw [hhead, join_modifyHead (by simp [hs]), ih]
      simp

/-- Splitting a text into lines loses nothing. -/
theorem join_splitLines (text : String) : join "\n" (splitLines text) = text := by
  rw [splitLines, join_segments, String.ofList_toList]

theorem toList_join (c : Char) (texts : List String) :
    (join (String.singleton c) texts).toList = [c].intercalate (texts.map String.toList) := by
  induction texts with
  | nil => rfl
  | cons t ts ih =>
    cases ts with
    | nil => simp
    | cons u us =>
      rw [join_cons_cons, String.toList_append, ih]
      simp [List.intercalate_cons_cons]

theorem splitOn_join {c : Char} {texts : List String} (hne : texts ≠ [])
    (h : ∀ t ∈ texts, c ∉ t.toList) :
    (join (String.singleton c) texts).toList.splitOn c = texts.map String.toList := by
  rw [toList_join]
  exact List.splitOn_intercalate c (by simpa using h) (by simpa using hne)

end Text

def changes (ls : List Line) : List Int :=
  (ls.map (·.delta)).filter (· ≠ 0)

@[simp] theorem changes_nil : changes [] = [] := rfl

theorem changes_cons (l : Line) (ls : List Line) :
    changes (l :: ls) = if l.delta = 0 then changes ls else l.delta :: changes ls := by
  by_cases h : l.delta = 0
  · simp [changes, h]
  · simp [changes, h]

@[simp] theorem changes_append (ls ms : List Line) :
    changes (ls ++ ms) = changes ls ++ changes ms := by
  simp [changes]

/-- Lines that keep the level do not count. -/
theorem total_changes (ls : List Line) : total (changes ls) = total (ls.map (·.delta)) := by
  induction ls with
  | nil => rfl
  | cons l ls ih =>
    rw [changes_cons, List.map_cons, total_cons, ← ih]
    split
    · next h => rw [h, Int.zero_add]
    · rw [total_cons]

namespace Rendering

@[simp] theorem linesOf_singleton (d : Int) (text : String) : linesOf d [text] = [⟨text, d⟩] := rfl

theorem linesOf_ne_nil {ts : List String} (h : ts ≠ []) (d : Int) : linesOf d ts ≠ [] := by
  cases ts with
  | nil => exact absurd rfl h
  | cons t ts => cases ts <;> simp [linesOf]

theorem linesOf_zero (ts : List String) : linesOf 0 ts = ts.map fun text => ⟨text, 0⟩ := by
  induction ts with
  | nil => rfl
  | cons t ts ih =>
    cases ts with
    | nil => rfl
    | cons u us =>
      rw [linesOf, ih]
      rfl

theorem map_text_linesOf (d : Int) (ts : List String) :
    (linesOf d ts).map (·.text) = ts := by
  induction ts with
  | nil => rfl
  | cons t ts ih =>
    cases ts with
    | nil => rfl
    | cons u us => rw [linesOf, List.map_cons, ih]

@[simp] theorem changes_linesOf_zero (ts : List String) : changes (linesOf 0 ts) = [] := by
  rw [linesOf_zero]
  induction ts with
  | nil => rfl
  | cons t ts ih => simpa [changes_cons] using ih

theorem changes_linesOf {ts : List String} (h : ts ≠ []) {d : Int} (hd : d ≠ 0) :
    changes (linesOf d ts) = [d] := by
  induction ts with
  | nil => exact absurd rfl h
  | cons t ts ih =>
    cases ts with
    | nil => simp [changes_cons, hd]
    | cons u us => simpa [linesOf, changes_cons] using ih (by simp)

/-- What is done to the last line only is done to the last line of the lines that come last. -/
theorem atLast_append {f : List Line → List Line}
    (hf : ∀ l m ls, f (l :: m :: ls) = l :: f (m :: ls)) (ls : List Line) {ms : List Line}
    (h : ms ≠ []) : f (ls ++ ms) = ls ++ f ms := by
  induction ls with
  | nil => rfl
  | cons l ls ih =>
    cases hn : ls ++ ms with
    | nil => simp [h] at hn
    | cons m rest => rw [List.cons_append, hn, hf, ← hn, ih, List.cons_append]

theorem appendLast_append (text : String) (ls : List Line) {ms : List Line} (h : ms ≠ []) :
    appendLast text (ls ++ ms) = ls ++ appendLast text ms :=
  atLast_append (fun _ _ _ => rfl) ls h

theorem shiftLast_append (d : Int) (ls : List Line) {ms : List Line} (h : ms ≠ []) :
    shiftLast d (ls ++ ms) = ls ++ shiftLast d ms :=
  atLast_append (fun _ _ _ => rfl) ls h

theorem shiftLast_linesOf {ts : List String} (h : ts ≠ []) (d : Int) :
    shiftLast d (linesOf 0 ts) = linesOf d ts := by
  induction ts with
  | nil => exact absurd rfl h
  | cons t ts ih =>
    cases ts with
    | nil => simp [shiftLast]
    | cons u us =>
      have hms := linesOf_ne_nil (List.cons_ne_nil u us) 0
      rw [linesOf, linesOf, ← ih (by simp), ← List.singleton_append, shiftLast_append d _ hms]
      rfl

/-- A text put after level lines goes on with the last of them. -/
theorem appendText_concat {text first : String} {rest : List String}
    (hs : splitLines text = first :: rest) (ls : List Line) (before : List String) (last : String) :
    appendText text (ls ++ linesOf 0 (before ++ [last])) =
      ls ++ linesOf 0 (before ++ (last ++ first) :: rest) := by
  have hlast : appendLast first (ls ++ linesOf 0 (before ++ [last])) =
      ls ++ linesOf 0 before ++ [⟨last ++ first, 0⟩] := by
    rw [linesOf_zero, linesOf_zero, List.map_append, ← List.append_assoc,
      appendLast_append _ _ (by simp)]
    rfl
  simp only [appendText, hs]
  rw [hlast]
  simp [linesOf_zero]

/-- Level lines with a text after them are level lines, of which there is at least one. -/
theorem appendText_linesOf (text : String) (ls : List Line) {ts : List String} (h : ts ≠ []) :
    ∃ us, us ≠ [] ∧ appendText text (ls ++ linesOf 0 ts) = ls ++ linesOf 0 us := by
  obtain ⟨first, rest, hs⟩ := List.exists_cons_of_ne_nil (splitLines_ne_nil text)
  obtain ⟨before, last, rfl⟩ : ∃ before last, ts = before ++ [last] :=
    ⟨_, _, (List.dropLast_concat_getLast h).symm⟩
  exact ⟨before ++ (last ++ first) :: rest, by simp, appendText_concat hs ls before last⟩

/-- An ender put after level lines changes the level after its own last line only. -/
theorem close_linesOf (ls : List Line) {ts : List String} (h : ts ≠ []) (isStatement : Bool)
    (ender : String) (d : Int) :
    ∃ us, us ≠ [] ∧ (⟨ls ++ linesOf 0 ts, isStatement⟩ : Rendering).close ender d =
      ⟨ls ++ linesOf d us, isStatement⟩ := by
  obtain ⟨us, hus, he⟩ := appendText_linesOf ender ls h
  refine ⟨us, hus, ?_⟩
  rw [close, he, shiftLast_append d ls (linesOf_ne_nil hus 0), shiftLast_linesOf hus]

/-- A line that is ended with a text goes on with the first line of that text. -/
theorem line_close (text ender : String) (d : Int) :
    (line text).close ender d = ⟨linesOf d ((splitLines ender).modifyHead (text ++ ·)), false⟩ := by
  obtain ⟨first, rest, hs⟩ := List.exists_cons_of_ne_nil (splitLines_ne_nil ender)
  have hlines : appendText ender [⟨text, 0⟩] = linesOf 0 ((text ++ first) :: rest) := by
    rw [linesOf_zero]
    simp only [appendText, hs]
    rfl
  rw [hs, List.modifyHead_cons, ← shiftLast_linesOf (List.cons_ne_nil _ _), ← hlines]
  rfl

theorem foldl_push (ts : List String) (r : Rendering) :
    ts.foldl (fun r text => r.push text 0) r = ⟨r.lines ++ linesOf 0 ts, r.isStatement⟩ := by
  induction ts generalizing r with
  | nil => simp [linesOf]
  | cons t ts ih =>
    rw [List.foldl_cons, ih, push]
    simp [linesOf_zero]

@[simp] theorem firstText_line (text : String) : (line text).firstText = text := by
  simp [firstText, line, single, Line.isMarker]

@[simp] theorem firstText_statement (text : String) : (statement text).firstText = text := by
  simp [firstText, statement, Line.isMarker]

end Rendering

end Phrasebook
