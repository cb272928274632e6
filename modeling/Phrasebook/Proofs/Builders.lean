import Mathlib.Data.List.GetD
import Phrasebook.Proofs.Balance
import Phrasebook.Proofs.Unbroken

/-! Builders of lines. A rendering is begun in one of three ways and goes through any number of
steps, some of which change the last line in place and some of which add lines. Each builder has a
contract here, and the main statement says that all of them are met after every sequence of steps:
no text and no change of level is lost, and the earlier lines stay as they are. -/
namespace Phrasebook

open Text

def Text.onNewLine : Option String → String → String
  | none, text => text
  | some before, text => before ++ "\n" ++ text

namespace Rendering

def joined (r : Rendering) : String :=
  join "\n" (r.lines.map (·.text))

def joined? (r : Rendering) : Option String :=
  if r.lines = [] then none else some r.joined

def deltas (r : Rendering) : List Int :=
  r.lines.map (·.delta)

structure Ended (r : Rendering) (ender : String) (d : Int) (s : Rendering) : Prop where
  joined : s.joined = r.joined ++ ender
  net : s.net = r.net + d
  length : s.lines.length =
    r.lines.length + ender.toList.count '\n' + if r.lines = [] then 1 else 0
  earlier : r.lines.dropLast <+: s.lines
  deltas : ∀ i, i + 1 < s.lines.length → s.deltas.getD i 0 = r.deltas.getD i 0
  isStatement : s.isStatement = r.isStatement

structure Extended (r : Rendering) (text : String) (d : Int) (s : Rendering) : Prop where
  lines : ∃ added, s.lines = r.lines ++ added ∧
    added.map (·.text) = (text.toList.splitOn '\n').map String.ofList ∧
    added.map (·.delta) = List.replicate (text.toList.count '\n') 0 ++ [d]
  isStatement : s.isStatement = r.isStatement

structure Continued (r : Rendering) (text : String) (s : Rendering) : Prop where
  joined : s.joined = r.joined ++ text
  earlier : s.lines.dropLast = r.lines.dropLast
  deltas : s.deltas = if r.lines = [] then [0] else r.deltas
  isStatement : s.isStatement = r.isStatement

end Rendering

/-- The sums are those of consecutive parts of what was given, and no part is left out. -/
def AddsUp (given sums : List Int) : Prop :=
  ∃ parts : List (List Int), parts.flatten = given ∧ parts.map total = sums

inductive Building where
  | empty (isStatement : Bool)
  | single (text : String) (delta : Int)
  | statement (text : String)
  | push (before : Building) (text : String) (delta : Int)
  | pushText (before : Building) (text : String) (delta : Int)
  | marker (before : Building) (delta : Int)
  | append (before : Building) (text : String)
  | close (before : Building) (ender : String) (delta : Int)

namespace Building

def rendering : Building → Rendering
  | empty isStatement => .empty isStatement
  | single text delta => .single text delta
  | statement text => .statement text
  | push before text delta => before.rendering.push text delta
  | pushText before text delta => before.rendering.pushText text delta
  | marker before delta => before.rendering.marker delta
  | append before text => before.rendering.append text
  | close before ender delta => before.rendering.close ender delta

def given : Building → List Int
  | empty _ | statement _ => []
  | single _ delta => [delta]
  | push before _ delta | pushText before _ delta | marker before delta
  | close before _ delta => before.given ++ [delta]
  | append before _ => before.given

def written : Building → Option String
  | empty _ => none
  | single text _ | statement text => some text
  | push before text _ | pushText before text _ => some (onNewLine before.written text)
  | marker before _ => some (onNewLine before.written "")
  | append before text | close before text _ => some (before.written.getD "" ++ text)

end Building

section Sums

variable {given given' sums sums' : List Int}

theorem addsUp_singleton (d : Int) : AddsUp [d] [d] :=
  ⟨[[d]], rfl, by rw [List.map_singleton, total_singleton]⟩

theorem addsUp_zeros (k : Nat) : AddsUp [] (List.replicate k 0) :=
  ⟨List.replicate k [], by simp, by simp⟩

theorem AddsUp.append (h : AddsUp given sums) (h' : AddsUp given' sums') :
    AddsUp (given ++ given') (sums ++ sums') := by
  obtain ⟨parts, rfl, rfl⟩ := h
  obtain ⟨parts', rfl, rfl⟩ := h'
  exact ⟨parts ++ parts', List.flatten_append, List.map_append⟩

/-- What is given next may be added to the last sum. -/
theorem AddsUp.concat {x : Int} (h : AddsUp given (sums ++ [x])) (d : Int) :
    AddsUp (given ++ [d]) (sums ++ [x + d]) := by
  obtain ⟨parts, rfl, hparts⟩ := h
  obtain ⟨init, tail, rfl, rfl, htail⟩ := List.map_eq_append_iff.mp hparts
  obtain ⟨last, rfl, rfl⟩ := List.map_eq_singleton_iff.mp htail
  refine ⟨init ++ [last ++ [d]], by simp, ?_⟩
  rw [List.map_append, List.map_singleton, total_append, total_singleton]

theorem AddsUp.total_eq (h : AddsUp given sums) : total sums = total given := by
  obtain ⟨parts, rfl, rfl⟩ := h
  induction parts with
  | nil => rfl
  | cons part parts ih =>
    rw [List.map_cons, List.flatten_cons, total_cons, total_append, ih]

theorem total_zeros (k : Nat) : total (List.replicate k (0 : Int)) = 0 :=
  (addsUp_zeros k).total_eq

end Sums

namespace Text

theorem length_segments (cs : List Char) : (segments cs).length = cs.count '\n' + 1 := by
  induction cs with
  | nil => rfl
  | cons c cs ih =>
    obtain ⟨first, rest, hs⟩ := List.exists_cons_of_ne_nil (segments_ne_nil cs)
    by_cases hc : c = '\n'
    · simp [segments, hc, ih]
    · simpa [segments, hc, hs] using ih

theorem length_splitLines (text : String) :
    (splitLines text).length = text.toList.count '\n' + 1 := by
  rw [splitLines, List.length_map, length_segments]

theorem length_of_splitLines {text first : String} {rest : List String}
    (hs : splitLines text = first :: rest) : rest.length = text.toList.count '\n' := by
  have hlength := length_splitLines text
  rw [hs, List.length_cons] at hlength
  omega

theorem join_append {ts us : List String} (hts : ts ≠ []) (hus : us ≠ []) (separator : String) :
    join separator (ts ++ us) = join separator ts ++ separator ++ join separator us := by
  induction ts with
  | nil => exact absurd rfl hts
  | cons t ts ih =>
    rw [List.cons_append, join_cons (by simp [hus])]
    cases ts with
    | nil => rfl
    | cons v vs =>
      rw [ih (by simp), join_cons_cons]
      simp only [String.append_assoc]

end Text

namespace Rendering

def begun : List Line → List Line
  | [] => [⟨"", 0⟩]
  | l :: ls => l :: ls

section Begun

variable (ls : List Line)

theorem exists_begun : ∃ before last, begun ls = before ++ [last] := by
  cases ls with
  | nil => exact ⟨[], ⟨"", 0⟩, rfl⟩
  | cons l ls => exact ⟨_, _, (List.dropLast_concat_getLast (List.cons_ne_nil l ls)).symm⟩

theorem dropLast_begun : (begun ls).dropLast = ls.dropLast := by
  cases ls <;> rfl

theorem length_begun : (begun ls).length = ls.length + if ls = [] then 1 else 0 := by
  cases ls <;> rfl

theorem join_begun :
    join "\n" ((begun ls).map (·.text)) = join "\n" (ls.map (·.text)) := by
  cases ls <;> rfl

theorem map_delta_begun :
    (begun ls).map (·.delta) = if ls = [] then [0] else ls.map (·.delta) := by
  cases ls <;> rfl

theorem total_begun : total ((begun ls).map (·.delta)) = total (ls.map (·.delta)) := by
  cases ls <;> rfl

theorem getD_begun (i : Nat) :
    ((begun ls).map (·.delta)).getD i 0 = (ls.map (·.delta)).getD i 0 := by
  cases ls with
  | nil => cases i <;> rfl
  | cons l ls => rfl

theorem appendLast_begun (text : String) : appendLast text (begun ls) = appendLast text ls := by
  cases ls with
  | nil => simp [begun, appendLast]
  | cons l ls => rfl

end Begun

variable {ls : List Line}

theorem addsUp_begun {given : List Int} (h : AddsUp given (ls.map (·.delta))) :
    AddsUp given ((begun ls).map (·.delta)) := by
  cases ls with
  | nil => simpa [begun] using h.append (addsUp_zeros 1)
  | cons l ls => exact h

theorem appendLast_eq {before : List Line} {last : Line} (h : begun ls = before ++ [last])
    (text : String) : appendLast text ls = before ++ [⟨last.text ++ text, last.delta⟩] := by
  rw [← appendLast_begun, h, appendLast_append text before (List.cons_ne_nil last [])]
  rfl

theorem map_delta_linesOf (d : Int) (t : String) (ts : List String) :
    (linesOf d (t :: ts)).map (·.delta) = List.replicate ts.length 0 ++ [d] := by
  induction ts generalizing t with
  | nil => rfl
  | cons u us ih =>
    rw [linesOf, List.map_cons, ih]
    rfl

theorem map_delta_linesOf_zero (ts : List String) :
    (linesOf 0 ts).map (·.delta) = List.replicate ts.length 0 := by
  rw [linesOf_zero]
  simp [Function.comp_def, List.map_const']

theorem getD_append_replicate (ds : List Int) (k i : Nat) :
    (ds ++ List.replicate k 0).getD i 0 = ds.getD i 0 := by
  by_cases h : i < ds.length
  · exact List.getD_append ds _ 0 i h
  · rw [List.getD_append_right ds _ 0 i (by omega), List.getD_eq_default ds 0 (by omega),
      List.getD_eq_getElem?_getD, List.getElem?_getD_replicate_default_eq]

section AppendText

variable (ender : String) (ls : List Line)

/-- Of the lines that a text is put after, only the last one is changed. -/
theorem exists_appendText : ∃ before last first rest,
    begun ls = before ++ [last] ∧ splitLines ender = first :: rest ∧
      appendText ender ls = before ++ ⟨last.text ++ first, last.delta⟩ :: linesOf 0 rest := by
  obtain ⟨before, last, hbegun⟩ := exists_begun ls
  obtain ⟨first, rest, hs⟩ := List.exists_cons_of_ne_nil (splitLines_ne_nil ender)
  refine ⟨before, last, first, rest, hbegun, hs, ?_⟩
  simp only [appendText, hs]
  rw [appendLast_eq hbegun, linesOf_zero]
  simp

theorem join_appendText :
    join "\n" ((appendText ender ls).map (·.text)) = join "\n" (ls.map (·.text)) ++ ender := by
  obtain ⟨before, last, first, rest, hbegun, hs, happend⟩ := exists_appendText ender ls
  have hjoin := join_glue "\n" last.text first (before.map (·.text)) rest
  rw [← hs, join_splitLines] at hjoin
  rw [happend, ← join_begun ls, hbegun, List.map_append, List.map_cons,
    map_text_linesOf, hjoin, List.map_append]
  rfl

theorem map_delta_appendText : (appendText ender ls).map (·.delta) =
    (begun ls).map (·.delta) ++ List.replicate (ender.toList.count '\n') 0 := by
  obtain ⟨before, last, first, rest, hbegun, hs, happend⟩ := exists_appendText ender ls
  rw [happend, hbegun, List.map_append, List.map_cons, map_delta_linesOf_zero,
    length_of_splitLines hs, List.map_append, List.append_assoc]
  rfl

/-- There is a last line, and before it are all the lines that were before the last one. -/
theorem exists_appendText_concat :
    ∃ added last, appendText ender ls = ls.dropLast ++ added ++ [last] := by
  obtain ⟨before, last, first, rest, hbegun, hs, happend⟩ := exists_appendText ender ls
  have hbefore : before = ls.dropLast := by
    rw [← dropLast_begun, hbegun, List.dropLast_concat]
  obtain ⟨added, final, htail⟩ : ∃ added final,
      (⟨last.text ++ first, last.delta⟩ : Line) :: linesOf 0 rest = added ++ [final] :=
    ⟨_, _, (List.dropLast_concat_getLast (List.cons_ne_nil _ _)).symm⟩
  exact ⟨added, final, by rw [happend, hbefore, htail, List.append_assoc]⟩

end AppendText

section Close

variable (r : Rendering) (ender : String) (d : Int)

/-- The change of level is added to that of the last line, once the ender has been put after it. -/
theorem exists_close : ∃ added last,
    appendText ender r.lines = r.lines.dropLast ++ added ++ [last] ∧
      (r.close ender d).lines =
        r.lines.dropLast ++ added ++ [⟨last.text, last.delta + d⟩] := by
  obtain ⟨added, last, happend⟩ := exists_appendText_concat ender r.lines
  refine ⟨added, last, happend, ?_⟩
  rw [close, happend, shiftLast_append d _ (List.cons_ne_nil last [])]
  rfl

theorem ended_close : r.Ended ender d (r.close ender d) := by
  obtain ⟨added, last, happend, hclose⟩ := r.exists_close ender d
  have hdeltas := map_delta_appendText ender r.lines
  rw [happend, List.map_append] at hdeltas
  constructor
  case joined =>
    have hjoin := join_appendText ender r.lines
    rw [happend, List.map_append] at hjoin
    rw [joined, joined, hclose, ← hjoin, List.map_append]
    rfl
  case net =>
    have htotal := congrArg total hdeltas
    rw [List.map_singleton, total_append, total_singleton, total_append, total_begun, total_zeros,
      Int.add_zero] at htotal
    change total (r.close ender d).deltas = total r.deltas + d
    rw [deltas, hclose, List.map_append, List.map_singleton, total_append, total_singleton,
      ← Int.add_assoc, htotal, deltas]
  case length =>
    have hlength := congrArg List.length hdeltas
    simp only [List.length_append, List.length_map, List.length_replicate, length_begun,
      List.length_singleton] at hlength
    rw [hclose, List.length_append, List.length_append, List.length_singleton]
    omega
  case earlier =>
    rw [hclose, List.append_assoc]
    exact List.prefix_append _ _
  case deltas =>
    intro i hi
    -- Before the last line it makes no difference that the last one is changed.
    rw [hclose, List.length_append, List.length_singleton] at hi
    have hlt : i < ((r.lines.dropLast ++ added).map Line.delta).length := by
      rw [List.length_map]
      omega
    calc (r.close ender d).deltas.getD i 0
        = ((r.lines.dropLast ++ added).map Line.delta).getD i 0 := by
          rw [deltas, hclose, List.map_append, List.getD_append _ _ _ _ hlt]
      _ = ((begun r.lines).map Line.delta ++
            List.replicate (ender.toList.count '\n') 0).getD i 0 := by
          rw [← hdeltas, List.getD_append _ _ _ _ hlt]
      _ = r.deltas.getD i 0 := by
          rw [getD_append_replicate, getD_begun, deltas]
  case isStatement => rfl

/-- An ender that begins with a newline stands on a line of its own, and the level changes after it
only. -/
example :
    ((((empty false).marker (-1)).pushText "\x7d\nelse" 0).close "\n\x7b" 1).lines =
      [⟨"", -1⟩, ⟨"\x7d", 0⟩, ⟨"else", 0⟩, ⟨"\x7b", 1⟩] := by
  decide

theorem addsUp_close {given : List Int} (h : AddsUp given r.deltas) :
    AddsUp (given ++ [d]) (r.close ender d).deltas := by
  obtain ⟨added, last, happend, hclose⟩ := r.exists_close ender d
  have hdeltas := map_delta_appendText ender r.lines
  -- The lines that the newlines begin add up to nothing, and then the last of them is changed.
  have hbefore := (addsUp_begun h).append (addsUp_zeros (ender.toList.count '\n'))
  rw [← hdeltas, happend, List.map_append, List.append_nil] at hbefore
  rw [deltas, hclose, List.map_append]
  exact hbefore.concat d

end Close

theorem continued_append (r : Rendering) (text : String) : r.Continued text (r.append text) := by
  obtain ⟨before, last, hbegun⟩ := exists_begun r.lines
  have hlines : (r.append text).lines = before ++ [⟨last.text ++ text, last.delta⟩] :=
    appendLast_eq hbegun text
  constructor
  case joined =>
    rw [joined, joined, hlines, ← join_begun r.lines, hbegun, List.map_append, List.map_append]
    exact join_glue "\n" last.text text (before.map (·.text)) []
  case earlier =>
    rw [hlines, List.dropLast_concat, ← dropLast_begun, hbegun, List.dropLast_concat]
  case deltas =>
    rw [deltas, deltas, hlines, ← map_delta_begun, hbegun, List.map_append, List.map_append]
    rfl
  case isStatement => rfl

theorem extended_pushText (r : Rendering) (text : String) (d : Int) :
    r.Extended text d (r.pushText text d) := by
  obtain ⟨first, rest, hs⟩ := List.exists_cons_of_ne_nil (splitLines_ne_nil text)
  refine ⟨⟨linesOf d (splitLines text), rfl, ?_, ?_⟩, rfl⟩
  · rw [map_text_linesOf, splitLines_eq_splitOn]
  · rw [hs, map_delta_linesOf, length_of_splitLines hs]

section Added

variable {r s : Rendering} {added : List Line}

theorem addsUp_of_added {given given' : List Int} (hs : s.lines = r.lines ++ added)
    (h : AddsUp given r.deltas) (h' : AddsUp given' (added.map (·.delta))) :
    AddsUp (given ++ given') s.deltas := by
  rw [deltas, hs, List.map_append]
  exact h.append h'

theorem joined?_of_added (hs : s.lines = r.lines ++ added) (h : added ≠ []) :
    s.joined? = some (onNewLine r.joined? (join "\n" (added.map (·.text)))) := by
  rw [joined?, if_neg (by simp [hs, h]), joined, hs, joined?]
  split
  · next hr => rw [hr, List.nil_append, onNewLine]
  · next hr =>
    rw [List.map_append, join_append (by simpa using hr) (by simpa using h)]
    rfl

theorem getD_joined? (r : Rendering) : r.joined?.getD "" = r.joined := by
  rw [joined?]
  split
  · next h =>
    rw [joined, h]
    rfl
  · rfl

theorem Ended.ne_nil {ender : String} {d : Int} (h : r.Ended ender d s) : s.lines ≠ [] := by
  intro hs
  have hlength := h.length
  rw [hs, List.length_nil] at hlength
  split at hlength
  · omega
  · next hr =>
    have hpos := List.length_pos_iff.mpr hr
    omega

theorem Continued.ne_nil {text : String} (h : r.Continued text s) : s.lines ≠ [] := by
  intro hs
  have hdeltas : s.deltas = [] := List.map_eq_nil_iff.mpr hs
  rw [h.deltas] at hdeltas
  split at hdeltas
  · exact absurd hdeltas (List.cons_ne_nil 0 [])
  · next hr => exact hr (List.map_eq_nil_iff.mp hdeltas)

end Added

end Rendering

namespace Building

/-- The lines make the changes of level that were given, those of one line added up. -/
theorem addsUp_rendering (b : Building) : AddsUp b.given b.rendering.deltas := by
  induction b with
  | empty isStatement => exact addsUp_zeros 0
  | single text d => exact addsUp_singleton d
  | statement text => exact addsUp_zeros 1
  | push before text d ih => exact Rendering.addsUp_of_added rfl ih (addsUp_singleton d)
  | pushText before text d ih =>
    obtain ⟨added, hlines, -, hdeltas⟩ := (before.rendering.extended_pushText text d).lines
    have hadded := (addsUp_zeros (text.toList.count '\n')).append (addsUp_singleton d)
    rw [← hdeltas] at hadded
    exact Rendering.addsUp_of_added hlines ih hadded
  | marker before d ih => exact Rendering.addsUp_of_added rfl ih (addsUp_singleton d)
  | append before text ih =>
    have hdeltas := (before.rendering.continued_append text).deltas
    rw [rendering, hdeltas, Rendering.deltas, ← Rendering.map_delta_begun]
    exact Rendering.addsUp_begun ih
  | close before ender d ih => exact before.rendering.addsUp_close ender d ih

/-- The texts that were given are those of the lines together. -/
theorem joined?_rendering (b : Building) : b.rendering.joined? = b.written := by
  induction b with
  | empty isStatement => rfl
  | single text d => rfl
  | statement text => rfl
  | push before text d ih =>
    have hadded := List.cons_ne_nil (Line.mk text d) []
    rw [written, ← ih]
    exact Rendering.joined?_of_added (s := (before.push text d).rendering) rfl hadded
  | pushText before text d ih =>
    have hadded := Rendering.linesOf_ne_nil (splitLines_ne_nil text) d
    have hjoined := Rendering.joined?_of_added (s := (before.pushText text d).rendering) rfl hadded
    rwa [Rendering.map_text_linesOf, join_splitLines, ih] at hjoined
  | marker before d ih =>
    have hadded := List.cons_ne_nil (Line.mk "" d) []
    rw [written, ← ih]
    exact Rendering.joined?_of_added (s := (before.marker d).rendering) rfl hadded
  | append before text ih =>
    have happend := before.rendering.continued_append text
    rw [written, ← ih, Rendering.getD_joined?, ← happend.joined]
    exact if_neg happend.ne_nil
  | close before ender d ih =>
    have hclose := before.rendering.ended_close ender d
    rw [written, ← ih, Rendering.getD_joined?, ← hclose.joined]
    exact if_neg hclose.ne_nil

/-- After every sequence of steps the lines hold all texts and all changes of level that were given,
where the change of a line is a sum of some that were given one after another. To end the last line,
to add the lines of a text and to go on with the last line change no more than what they are for. -/
theorem conserved (b : Building) :
    (b.rendering.joined = b.written.getD "" ∧ AddsUp b.given b.rendering.deltas ∧
      b.rendering.net = total b.given) ∧
    (∀ ender d, b.rendering.Ended ender d (b.close ender d).rendering) ∧
    (∀ text d, b.rendering.Extended text d (b.pushText text d).rendering) ∧
    ∀ text, b.rendering.Continued text (b.append text).rendering := by
  have hdeltas := b.addsUp_rendering
  have hjoined : b.rendering.joined = b.written.getD "" := by
    rw [← joined?_rendering, Rendering.getD_joined?]
  exact ⟨⟨hjoined, hdeltas, hdeltas.total_eq⟩, b.rendering.ended_close,
    b.rendering.extended_pushText, b.rendering.continued_append⟩

end Building

end Phrasebook
