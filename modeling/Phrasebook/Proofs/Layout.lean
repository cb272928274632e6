import Mathlib.Data.List.Basic
import Mathlib.Data.List.Induction
import Mathlib.Data.Nat.Find
import Phrasebook.BuiltIn
import Phrasebook.Layout
import Phrasebook.Proofs.Outcome

/-! Layout as a function of the lines of a unit: every line is indented by what all lines before it
add up to, and the first line after which this is negative makes the unit unbalanced. -/
namespace Phrasebook

open Text

def level (ls : List Line) : Int :=
  total (ls.map (·.delta))

def allLines (rs : List Rendering) : List Line :=
  rs.flatMap (·.lines)

structure Element where
  line : Line
  ends : Bool
  written_of_ends : ends = true → line.isMarker = false

/-- The lines of a rendering; of those of a statement, the last that is not a marker ends it. -/
def elementsOf (isStatement : Bool) : List Line → List Element
  | [] => []
  | l :: ls =>
    ⟨l, isStatement && !l.isMarker && ls.all (·.isMarker), by simp +contextual⟩ ::
      elementsOf isStatement ls

def elements (rs : List Rendering) : List Element :=
  rs.flatMap fun r => elementsOf r.isStatement r.lines

namespace Element

def text (semicolon : String) (e : Element) : String :=
  if e.ends then e.line.text ++ semicolon else e.line.text

def finish (semicolon : String) (e : Element) : Line :=
  ⟨e.text semicolon, e.line.delta⟩

def written (indentation semicolon : String) (before : List Line) (e : Element) : String :=
  if e.text semicolon = "" then ""
  else repeated indentation (level before).toNat ++ e.text semicolon

end Element

def writtenLines (indentation semicolon : String) (es : List Element) : List String :=
  es.zipIdx.filterMap fun (e, k) =>
    if e.line.isMarker then none
    else some (e.written indentation semicolon ((es.take k).map (·.line)))

theorem level_append (ls ms : List Line) : level (ls ++ ms) = level ls + level ms := by
  rw [level, List.map_append, total_append, level, level]

theorem level_singleton (l : Line) : level [l] = l.delta := by
  simp [level]

theorem map_line_elementsOf (isStatement : Bool) (ls : List Line) :
    (elementsOf isStatement ls).map (·.line) = ls := by
  induction ls with
  | nil => rfl
  | cons l ls ih => rw [elementsOf, List.map_cons, ih]

theorem map_line_elements (rs : List Rendering) :
    (elements rs).map (·.line) = allLines rs := by
  rw [elements, List.map_flatMap]
  simp only [map_line_elementsOf]
  rfl

theorem isMarker_finish (semicolon : String) (e : Element) :
    (e.finish semicolon).isMarker = e.line.isMarker := by
  by_cases he : e.ends = true
  · have hm := e.written_of_ends he
    rw [hm]
    simp only [Line.isMarker, Element.finish, Element.text, he, if_true] at hm ⊢
    by_cases ht : e.line.text = ""
    · have hd : e.line.delta = 0 := by simpa [ht] using hm
      simp [hd]
    · simp [ht]
  · simp [Line.isMarker, Element.finish, Element.text, he]

theorem terminate_empty (ls : List Line) : terminate "" ls = ls := by
  induction ls with
  | nil => rfl
  | cons l ls ih =>
    rw [terminate, ih]
    split
    · rfl
    · simp

theorem map_finish_of_not_statement (semicolon : String) (ls : List Line) :
    (elementsOf false ls).map (Element.finish semicolon) = ls := by
  induction ls with
  | nil => rfl
  | cons l ls ih => simp [elementsOf, Element.finish, Element.text, ih]

theorem map_finish_of_markers (semicolon : String) {ls : List Line}
    (h : ls.all (·.isMarker) = true) :
    (elementsOf true ls).map (Element.finish semicolon) = ls := by
  induction ls with
  | nil => rfl
  | cons l ls ih =>
    simp only [List.all_cons, Bool.and_eq_true] at h
    simp [elementsOf, Element.finish, Element.text, h.1, ih h.2]

theorem terminate_eq (semicolon : String) (ls : List Line) :
    terminate semicolon ls = (elementsOf true ls).map (Element.finish semicolon) := by
  induction ls with
  | nil => rfl
  | cons l ls ih =>
    rw [terminate, elementsOf, List.map_cons]
    by_cases hm : l.isMarker = true
    · simp [hm, ih, Element.finish, Element.text]
    · by_cases hall : ls.all (·.isMarker) = true
      · have hany : ls.any (!·.isMarker) = false := by
          rw [← List.not_all_eq_any_not, hall]
          rfl
        simp [hm, hany, hall, Element.finish, Element.text, map_finish_of_markers semicolon hall]
      · have hany : ls.any (!·.isMarker) = true := by
          rw [← List.not_all_eq_any_not]
          simpa using hall
        simp [hm, hany, hall, Element.finish, Element.text, ih]

/-- The semicolon is added for statements only, so that it is not asked for otherwise. -/
theorem add_eq {l : Language} {i : Invocation} {r : Rendering} {semicolon : String}
    (hr : i.render l = .ok r)
    (hs : r.isStatement = true → l.fragment .styleSemicolon = some semicolon)
    (indentation : String) (page : Page) :
    Page.add l indentation page i =
      ((elementsOf r.isStatement r.lines).map (Element.finish semicolon)).foldlM
        (Page.place indentation) page := by
  rw [Page.add, hr, ok_bind, terminator]
  by_cases h : r.isStatement = true
  · rw [if_pos h, hs h, h, ← terminate_eq]
    rfl
  · have hf : r.isStatement = false := by simpa using h
    rw [if_neg h, hf, map_finish_of_not_statement, ok_bind, terminate_empty]

theorem foldlM_add {l : Language} {us : List Invocation} {rs : List Rendering}
    {semicolon : String} (hr : us.map (Invocation.render l) = rs.map .ok)
    (hs : ∀ r ∈ rs, r.isStatement = true → l.fragment .styleSemicolon = some semicolon)
    (indentation : String) (page : Page) :
    us.foldlM (Page.add l indentation) page =
      ((elements rs).map (Element.finish semicolon)).foldlM (Page.place indentation) page := by
  induction us generalizing rs page with
  | nil =>
    obtain rfl : rs = [] := by simpa using hr.symm
    rfl
  | cons i us ih =>
    cases rs with
    | nil => simp at hr
    | cons r rs =>
      obtain ⟨hi, hus⟩ := List.cons.inj hr
      have hrest := ih hus fun r' h => hs r' (by simp [h])
      rw [List.foldlM_cons, add_eq hi (hs r (by simp)), elements, List.flatMap_cons,
        List.map_append, List.foldlM_append]
      simp only [hrest]
      rfl

section

variable (indentation semicolon : String)

/-- What is written for the elements so far does not depend on those to come. -/
theorem writtenLines_append (es : List Element) (e : Element) :
    writtenLines indentation semicolon (es ++ [e]) =
      writtenLines indentation semicolon es ++
        if e.line.isMarker then []
        else [e.written indentation semicolon (es.map (·.line))] := by
  rw [writtenLines, List.zipIdx_append, List.filterMap_append]
  congr 1
  · apply List.filterMap_congr
    rintro ⟨x, k⟩ hx
    have hk := List.snd_lt_of_mem_zipIdx hx
    simp only
    rw [List.take_append_of_le_length (by omega)]
  · by_cases hm : e.line.isMarker = true
    · simp [hm]
    · simp [hm]

theorem length_writtenLines (es : List Element) :
    (writtenLines indentation semicolon es).length =
      (es.map (·.line)).countP (!·.isMarker) := by
  induction es using List.reverseRecOn with
  | nil => rfl
  | append_singleton es e ih =>
    rw [writtenLines_append, List.length_append, ih, List.map_append, List.countP_append]
    by_cases hm : e.line.isMarker = true
    · simp [hm]
    · simp [hm]

def pageOf (es : List Element) : Page :=
  ⟨writtenLines indentation semicolon es, level (es.map (·.line))⟩

/-- One more element is written at the level of all those before it, and then changes the level. -/
theorem place_pageOf (es : List Element) (e : Element) :
    (pageOf indentation semicolon es).place indentation (e.finish semicolon) =
      if level ((es ++ [e]).map (·.line)) < 0 then
        .error (.unbalanced (((es ++ [e]).map (·.line)).countP (!·.isMarker)))
      else .ok (pageOf indentation semicolon (es ++ [e])) := by
  have hlevel : level ((es ++ [e]).map (·.line)) =
      level (es.map (·.line)) + (e.finish semicolon).delta := by
    rw [List.map_append, level_append]
    exact congrArg _ (level_singleton e.line)
  have hlines : writtenLines indentation semicolon (es ++ [e]) =
      if (e.finish semicolon).isMarker then writtenLines indentation semicolon es
      else writtenLines indentation semicolon es ++
        [indented indentation (level (es.map (·.line))) (e.finish semicolon).text] := by
    rw [writtenLines_append, isMarker_finish]
    by_cases hm : e.line.isMarker = true
    · simp [hm]
    · simp only [hm]
      rfl
  rw [Page.place, ← length_writtenLines indentation semicolon, pageOf, pageOf,
    hlevel, hlines]

/-- As long as no element makes the unit unbalanced, the page is what the elements say. -/
theorem foldlM_place_ok (es : List Element)
    (h : ∀ k ≤ es.length, 0 ≤ level ((es.take k).map (·.line))) :
    (es.map (Element.finish semicolon)).foldlM (Page.place indentation) Page.start =
      .ok (pageOf indentation semicolon es) := by
  induction es using List.reverseRecOn with
  | nil => rfl
  | append_singleton es e ih =>
    have hlast : ¬level ((es ++ [e]).map (·.line)) < 0 := by
      have := h (es ++ [e]).length (Nat.le_refl _)
      rw [List.take_length] at this
      omega
    have hbefore : ∀ k ≤ es.length, 0 ≤ level ((es.take k).map (·.line)) := by
      intro k hk
      have := h k (by simp; omega)
      rwa [List.take_append_of_le_length hk] at this
    rw [List.map_append, List.foldlM_append, ih hbefore, ok_bind, List.map_singleton,
      List.foldlM_cons, place_pageOf, if_neg hlast]
    rfl

theorem foldlM_place_error {es : List Element} {k : Nat}
    (h : ∀ j ≤ k, 0 ≤ level ((es.take j).map (·.line)))
    (hk : level ((es.take (k + 1)).map (·.line)) < 0) :
    (es.map (Element.finish semicolon)).foldlM (Page.place indentation) Page.start =
      .error (.unbalanced (((es.take (k + 1)).map (·.line)).countP (!·.isMarker))) := by
  have hlt : k < es.length := by
    by_contra hle
    have := h k (Nat.le_refl k)
    rw [List.take_of_length_le (by omega)] at this hk
    omega
  obtain ⟨e, he⟩ : ∃ e, es.take (k + 1) = es.take k ++ [e] :=
    ⟨es.get ⟨k, hlt⟩, (List.take_append_getElem hlt).symm⟩
  have hbefore : ∀ j ≤ (es.take k).length, 0 ≤ level (((es.take k).take j).map (·.line)) := by
    intro j hj
    have hjk : j ≤ k := by
      rw [List.length_take] at hj
      omega
    rw [List.take_take, Nat.min_eq_left hjk]
    exact h j hjk
  have hsplit : es = es.take k ++ e :: es.drop (k + 1) := by
    conv_lhs => rw [← List.take_append_drop (k + 1) es, he, List.append_assoc]
    rfl
  rw [he] at hk ⊢
  conv_lhs => rw [hsplit]
  rw [List.map_append, List.map_cons, List.foldlM_append, foldlM_place_ok _ _ _ hbefore, ok_bind,
    List.foldlM_cons, place_pageOf, if_pos hk, error_bind]

end

/-- If some prefix is below zero, there is a first line after which it is. -/
theorem exists_first_below {ls : List Line} (h : ∃ k, level (ls.take k) < 0) :
    ∃ k, (∀ j ≤ k, 0 ≤ level (ls.take j)) ∧ level (ls.take (k + 1)) < 0 := by
  have hpos : Nat.find h ≠ 0 := by
    intro hz
    have hlow := Nat.find_spec h
    rw [hz, List.take_zero] at hlow
    exact absurd hlow (by decide)
  obtain ⟨k, hk⟩ := Nat.exists_eq_succ_of_ne_zero hpos
  refine ⟨k, ?_, ?_⟩
  · intro j hj
    have := Nat.find_min h (show j < Nat.find h by omega)
    omega
  · have := Nat.find_spec h
    rwa [hk] at this

/-- A unit whose lines never add up to less than nothing is written line by line, each line
indented by what those before it add up to and the last line of a statement ended by the
semicolon. Any other unit is unbalanced at the first line that goes below zero. -/
theorem renderUnit_layout {l : Language} {us : List Invocation} {rs : List Rendering}
    {indentation semicolon : String} (hi : l.fragment .generalIndentation = some indentation)
    (hr : us.map (Invocation.render l) = rs.map .ok)
    (hs : ∀ r ∈ rs, r.isStatement = true → l.fragment .styleSemicolon = some semicolon) :
    ((∀ k ≤ (allLines rs).length, 0 ≤ level ((allLines rs).take k)) →
      renderUnit l us = .ok (writtenLines indentation semicolon (elements rs))) ∧
    ((∃ k, level ((allLines rs).take k) < 0) →
      ∃ k, (∀ j ≤ k, 0 ≤ level ((allLines rs).take j)) ∧
        level ((allLines rs).take (k + 1)) < 0 ∧
        renderUnit l us =
          .error (.unbalanced (((allLines rs).take (k + 1)).countP (!·.isMarker)))) := by
  have hunit : renderUnit l us = (do
      let page ← ((elements rs).map (Element.finish semicolon)).foldlM
        (Page.place indentation) Page.start
      return page.lines) := by
    rw [renderUnit, hi, ← foldlM_add hr hs]
  rw [hunit, ← map_line_elements]
  constructor
  · intro h
    have hrun := foldlM_place_ok indentation semicolon (elements rs)
      (by simpa only [List.map_take, List.length_map] using h)
    rw [hrun]
    rfl
  · intro h
    obtain ⟨k, hbefore, hk⟩ := exists_first_below h
    have hrun := foldlM_place_error indentation semicolon
      (by simpa only [List.map_take] using hbefore) (by simpa only [List.map_take] using hk)
    refine ⟨k, hbefore, hk, ?_⟩
    rw [hrun, List.map_take]
    rfl

theorem renderUnit_layout_block :
    renderUnit BuiltIn.csharp.language [⟨"if start", [.literal "x"]⟩, ⟨"print", [.literal "y"]⟩,
        ⟨"blank line", []⟩, ⟨"if end", []⟩] =
      .ok ["if (x)", "\x7b", "    System.Console.WriteLine(y);", "", "\x7d"] ∧
    renderUnit BuiltIn.csharp.language [⟨"print", [.literal "y"]⟩, ⟨"if end", []⟩] =
      .error (.unbalanced 1) := by
  have hblock : [⟨"if start", [.literal "x"]⟩, ⟨"print", [.literal "y"]⟩, ⟨"blank line", []⟩,
      ⟨"if end", []⟩].map (Invocation.render BuiltIn.csharp.language) =
      [⟨[⟨"if (x)", 0⟩, ⟨"\x7b", 1⟩], false⟩, ⟨[⟨"System.Console.WriteLine(y)", 0⟩], true⟩,
        ⟨[⟨"", 0⟩], false⟩, ⟨[⟨"", -1⟩, ⟨"\x7d", 0⟩], false⟩].map .ok := rfl
  have hclosed : [⟨"print", [.literal "y"]⟩, ⟨"if end", []⟩].map
      (Invocation.render BuiltIn.csharp.language) =
      [⟨[⟨"System.Console.WriteLine(y)", 0⟩], true⟩,
        ⟨[⟨"", -1⟩, ⟨"\x7d", 0⟩], false⟩].map .ok := rfl
  have hi : BuiltIn.csharp.language.fragment .generalIndentation = some "    " := rfl
  have hs : BuiltIn.csharp.language.fragment .styleSemicolon = some ";" := rfl
  constructor
  · exact ((renderUnit_layout hi hblock fun _ _ _ => hs).1 (by decide)).trans rfl
  · obtain ⟨k, hbefore, hk, he⟩ :=
      (renderUnit_layout hi hclosed fun _ _ _ => hs).2 ⟨2, by decide⟩
    rcases k with _ | _ | k
    · exact absurd hk (by decide)
    · exact he
    · exact absurd (hbefore 2 (by omega)) (by decide)

end Phrasebook
