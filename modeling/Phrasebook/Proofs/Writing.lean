import Phrasebook.Invocation.Printer
import Phrasebook.Proofs.Reading
import Phrasebook.Proofs.Tree

/-! Writing invocations against the grammar. Writing and reading tell the kinds of literal apart by
different rules, so not every invocation is read back from its written form; those that are have
tidy names and safe literals, and no more levels than allowed. -/
namespace Phrasebook

open Text Grammar

structure TidyName (name : String) : Prop where
  ne_empty : name ≠ ""
  trims : trim name = name
  plain : ∀ c ∈ name.toList, ¬EndsName c

/-- A literal that reading takes as it is written: the quotes around it are the first and the last
to count, or the parentheses put around it close where they should. -/
def SafeLiteral (cs : List Char) : Prop :=
  if isQuoted cs then unbroken cs.tail.dropLast = true
  else if cs = [] ∨ cs.any isSpecial then Balanced cs
  else True

mutual

def Argument.Printable : Argument → Prop
  | .literal text => SafeLiteral text.toList
  | .nested name arguments => TidyName name ∧ AllPrintable arguments

def AllPrintable : List Argument → Prop
  | [] => True
  | a :: as => a.Printable ∧ AllPrintable as

end

def Invocation.Printable (i : Invocation) : Prop :=
  TidyName i.name ∧ AllPrintable i.arguments ∧ i.depth ≤ Invocation.maxNesting

instance (name : String) : Decidable (TidyName name) :=
  decidable_of_iff (name ≠ "" ∧ trim name = name ∧ name.toList.all (¬EndsName ·) = true) <| by
    simp only [List.all_eq_true, decide_eq_true_eq]
    exact ⟨fun ⟨h, ht, hp⟩ => ⟨h, ht, hp⟩, fun ⟨h, ht, hp⟩ => ⟨h, ht, hp⟩⟩

instance (cs : List Char) : Decidable (SafeLiteral cs) :=
  inferInstanceAs (Decidable (if isQuoted cs then unbroken cs.tail.dropLast = true
    else if cs = [] ∨ cs.any isSpecial then Balanced cs else True))

mutual

def Argument.decPrintable : (a : Argument) → Decidable a.Printable
  | .literal text => inferInstanceAs (Decidable (SafeLiteral text.toList))
  | .nested name arguments =>
    have := decAllPrintable arguments
    inferInstanceAs (Decidable (TidyName name ∧ AllPrintable arguments))

def decAllPrintable : (as : List Argument) → Decidable (AllPrintable as)
  | [] => isTrue trivial
  | a :: as =>
    have := a.decPrintable
    have := decAllPrintable as
    inferInstanceAs (Decidable (a.Printable ∧ AllPrintable as))

end

instance (i : Invocation) : Decidable i.Printable :=
  have := decAllPrintable i.arguments
  inferInstanceAs (Decidable (TidyName i.name ∧ AllPrintable i.arguments ∧ i.depth ≤ _))

theorem isQuoted_iff {cs : List Char} :
    isQuoted cs = true ↔ ∃ inside, cs = '"' :: inside ++ ['"'] := by
  constructor
  · intro h
    simp only [isQuoted, Bool.and_eq_true, decide_eq_true_eq] at h
    obtain ⟨⟨hh, hl⟩, hn⟩ := h
    cases cs with
    | nil => simp at hh
    | cons c cs =>
      obtain rfl : c = '"' := by simpa using hh
      cases cs using List.reverseRecOn with
      | nil => simp at hn
      | append_singleton cs d =>
        obtain rfl : d = '"' := by simpa [List.getLast?_cons] using hl
        exact ⟨cs, rfl⟩
  · rintro ⟨inside, rfl⟩
    simp [isQuoted, List.getLast?_cons]

/-- A text that is neither quoted nor put in parentheses is a word. -/
theorem word_of_not_special {cs : List Char} (h : ¬(cs = [] ∨ cs.any isSpecial = true)) :
    ∃ c word, cs = c :: word ∧ (∀ x ∈ c :: word, ¬EndsWord x) ∧ c ≠ '(' ∧ c ≠ '"' := by
  simp only [not_or, List.any_eq_true, not_exists, not_and, isSpecial] at h
  obtain ⟨hne, hs⟩ := h
  obtain ⟨c, word, rfl⟩ := List.exists_cons_of_ne_nil hne
  refine ⟨c, word, rfl, ?_, ?_, ?_⟩
  · intro x hx he
    have := hs x hx
    simp_all [EndsWord]
  · rintro rfl
    simpa using hs '(' (by simp)
  · rintro rfl
    simpa using hs '"' (by simp)

/-- The three ways to write a literal, each with what makes the literal safe. -/
theorem writeLiteral_cases (cs : List Char) :
    (∃ inside, cs = '"' :: inside ++ ['"'] ∧ writeLiteral cs = cs ∧
      (SafeLiteral cs ↔ unbroken inside = true)) ∨
    ((∀ inside, cs ≠ '"' :: inside ++ ['"']) ∧ writeLiteral cs = '(' :: cs ++ [')'] ∧
      (SafeLiteral cs ↔ Balanced cs)) ∨
    (∃ c word, cs = c :: word ∧ writeLiteral cs = cs ∧ (∀ x ∈ c :: word, ¬EndsWord x) ∧
      c ≠ '(' ∧ c ≠ '"' ∧ SafeLiteral cs) := by
  by_cases hq : isQuoted cs = true
  · obtain ⟨inside, rfl⟩ := isQuoted_iff.mp hq
    refine .inl ⟨inside, rfl, ?_, ?_⟩
    · rw [writeLiteral, if_pos hq]
    · rw [SafeLiteral, if_pos hq]
      simp
  · by_cases hs : cs = [] ∨ cs.any isSpecial = true
    · refine .inr (.inl ⟨?_, ?_, ?_⟩)
      · intro inside hi
        exact hq (isQuoted_iff.mpr ⟨inside, hi⟩)
      · rw [writeLiteral, if_neg hq, if_pos (by simpa using hs)]
      · rw [SafeLiteral, if_neg hq, if_pos hs]
    · obtain ⟨c, word, rfl, hw, hp, hq'⟩ := word_of_not_special hs
      refine .inr (.inr ⟨c, word, rfl, ?_, hw, hp, hq', ?_⟩)
      · rw [writeLiteral, if_neg hq, if_neg (by simpa using hs)]
      · rw [SafeLiteral, if_neg hq, if_neg hs]
        trivial

theorem literal_text {cs : List Char} (h : SafeLiteral cs) {d : Char} (hd : EndsWord d)
    (after : List Char) :
    ArgumentText (.literal (String.ofList cs)) (writeLiteral cs) (d :: after) := by
  rcases writeLiteral_cases cs with ⟨inside, rfl, he, hi⟩ | ⟨-, he, hi⟩ |
    ⟨c, word, rfl, he, hw, hp, hq, -⟩
  · rw [he]
    exact .quoted (hi.mp h)
  · rw [he]
    exact .group (hi.mp h)
  · rw [he]
    exact .word hw hp hq hd

theorem writeCall_nil (name : List Char) :
    writeCall name [] = '\x7b' :: (' ' :: name ++ [' ']) ++ ['\x7d'] := by
  simp [writeCall]

theorem writeCall_of_ne_nil {arguments : List Char} (h : arguments ≠ []) (name : List Char) :
    writeCall name arguments =
      '\x7b' :: (' ' :: name ++ [' ']) ++ ':' :: (arguments ++ [' ']) ++ ['\x7d'] := by
  simp [writeCall, h]

theorem writeAll_ne_nil (a : Argument) (as : List Argument) : writeAll (a :: as) ≠ [] := by
  simp [writeAll]

theorem blank_space : Blank [' '] :=
  blank_singleton (by decide)

theorem plain_padded {name : List Char} (h : ∀ c ∈ name, ¬EndsName c) :
    ∀ c ∈ ' ' :: name ++ [' '], ¬EndsName c := by
  intro c hc
  simp only [List.cons_append, List.mem_cons, List.mem_append, List.not_mem_nil, or_false] at hc
  rcases hc with rfl | hc | rfl
  · simp [EndsName]
  · exact h c hc
  · simp [EndsName]

theorem TidyName.text {name : String} (h : TidyName name) :
    NameText name (' ' :: name.toList ++ [' ']) := by
  refine ⟨plain_padded h.plain, ?_, h.ne_empty⟩
  calc trimmed (' ' :: name.toList ++ [' '])
      = trimmed name.toList := trimmed_append blank_space blank_space _
    _ = name.toList := by rw [← toList_trim, h.trims]

theorem writeAll_space (as : List Argument) : ∃ more, writeAll as ++ [' '] = ' ' :: more := by
  cases as with
  | nil => exact ⟨[], rfl⟩
  | cons a as => exact ⟨_, rfl⟩

theorem bodyText_write {as : List Argument}
    (h : ∀ a ∈ as, ∀ after, ArgumentText a a.write (' ' :: after)) :
    BodyText as (writeAll as ++ [' ']) := by
  induction as with
  | nil => exact .done blank_space
  | cons a as ih =>
    obtain ⟨more, hm⟩ := writeAll_space as
    have ha : ArgumentText a a.write (writeAll as ++ [' '] ++ ['\x7d']) := by
      rw [hm]
      exact h a (by simp) _
    have hb := ih fun b hb => h b (by simp [hb])
    simpa [writeAll] using BodyText.more blank_space ha hb

theorem callText_write {name : String} (hn : TidyName name) {as : List Argument}
    (h : ∀ a ∈ as, ∀ after, ArgumentText a a.write (' ' :: after)) :
    CallText name as (writeCall name.toList (writeAll as)) := by
  cases as with
  | nil =>
    rw [writeAll, writeCall_nil]
    exact .bare hn.text
  | cons a as =>
    rw [writeCall_of_ne_nil (writeAll_ne_nil a as)]
    exact .applied hn.text (bodyText_write h)

theorem allPrintable_iff {as : List Argument} : AllPrintable as ↔ ∀ a ∈ as, a.Printable := by
  induction as with
  | nil => simp [AllPrintable]
  | cons a as ih => simp [AllPrintable, ih]

/-- What is fit to be read back is written by the rules of the grammar. -/
theorem argumentText_write (a : Argument) (h : a.Printable) (after : List Char) :
    ArgumentText a a.write (' ' :: after) := by
  induction a generalizing after with
  | literal text =>
    have hd : EndsWord ' ' := .inl (by decide)
    simpa [Argument.write] using literal_text h hd after
  | nested name as ih =>
    rw [Argument.write]
    exact .call (callText_write h.1 fun a ha => ih a ha (allPrintable_iff.mp h.2 a ha))

/-- The first character of a kind splits a text in only one way. -/
theorem split_unique {p : Char → Prop} {xs ys r s : List Char} {d e : Char}
    (hx : ∀ c ∈ xs, ¬p c) (hy : ∀ c ∈ ys, ¬p c) (hd : p d) (he : p e)
    (h : xs ++ d :: r = ys ++ e :: s) : xs = ys ∧ d = e ∧ r = s := by
  induction xs generalizing ys with
  | nil =>
    cases ys with
    | nil => simpa using h
    | cons y ys => exact absurd ((List.cons.inj h).1 ▸ hd) (hy y (by simp))
  | cons x xs ih =>
    cases ys with
    | nil => exact absurd ((List.cons.inj h).1 ▸ he) (hx x (by simp))
    | cons y ys =>
      obtain ⟨rfl, ht⟩ := List.cons.inj h
      obtain ⟨rfl, hde, hrs⟩ :=
        ih (fun c hc => hx c (by simp [hc])) (fun c hc => hy c (by simp [hc])) ht
      exact ⟨rfl, hde, hrs⟩

theorem split_blank {u v r s : List Char} {c d : Char} (hu : Blank u) (hv : Blank v)
    (hc : isWhiteSpace c = false) (hd : isWhiteSpace d = false) (h : u ++ c :: r = v ++ d :: s) :
    u = v ∧ c :: r = d :: s := by
  have hb : ∀ w, Blank w → ∀ x ∈ w, ¬isWhiteSpace x = false := by
    intro w hw x hx
    simp [hw x hx]
  obtain ⟨rfl, rfl, rfl⟩ := split_unique (hb u hu) (hb v hv) hc hd h
  exact ⟨rfl, rfl⟩

theorem write_head (a : Argument) : ∃ c cs, a.write = c :: cs ∧ isWhiteSpace c = false := by
  cases a with
  | nested name as => exact ⟨'\x7b', _, rfl, by decide⟩
  | literal text =>
    rcases writeLiteral_cases text.toList with ⟨inside, hi, he, -⟩ | ⟨-, he, -⟩ |
      ⟨c, word, hc, he, hw, -⟩
    · exact ⟨'"', _, he.trans hi, by decide⟩
    · exact ⟨'(', _, he, by decide⟩
    · have hn := hw c (by simp)
      simp only [EndsWord, not_or] at hn
      exact ⟨c, word, he.trans hc, by simpa using hn.1⟩

theorem safe_of_text {cs text after u v : List Char}
    (h : ArgumentText (.literal (String.ofList cs)) text after)
    (he : text ++ u = writeLiteral cs ++ v) : SafeLiteral cs ∧ text = writeLiteral cs := by
  -- The first character tells which way the literal was written, and the rule of the grammar for
  -- that way then says that it is safe.
  generalize hl : Argument.literal (String.ofList cs) = a at h
  cases h with
  | call h => cases hl
  | @group inside after h =>
    obtain rfl : cs = inside := String.ofList_injective (Argument.literal.inj hl)
    rcases writeLiteral_cases cs with ⟨inside, rfl, hw, -⟩ | ⟨-, hw, hs⟩ |
      ⟨c, word, rfl, hw, -, hp, -⟩
    · rw [hw] at he
      exact absurd (List.cons.inj he).1 (by decide)
    · exact ⟨hs.mpr h, hw.symm⟩
    · rw [hw] at he
      exact absurd (List.cons.inj he).1.symm hp
  | @quoted inside after h =>
    obtain rfl : cs = '"' :: inside ++ ['"'] := String.ofList_injective (Argument.literal.inj hl)
    rcases writeLiteral_cases ('"' :: inside ++ ['"']) with ⟨inside', hi, hw, hs⟩ | ⟨hn, -⟩ |
      ⟨c, word, hc, -, -, -, hq, -⟩
    · obtain rfl : inside = inside' := by simpa using hi
      exact ⟨hs.mpr h, hw.symm⟩
    · exact absurd rfl (hn inside)
    · exact absurd (List.cons.inj hc).1.symm hq
  | @word c d word after hw hp hq hd =>
    obtain rfl : cs = c :: word := String.ofList_injective (Argument.literal.inj hl)
    rcases writeLiteral_cases (c :: word) with ⟨inside, hi, -⟩ | ⟨-, hw, -⟩ |
      ⟨_, _, -, hw, -, -, -, hs⟩
    · exact absurd (List.cons.inj hi).1 hq
    · rw [hw] at he
      exact absurd (List.cons.inj he).1 hp
    · exact ⟨hs, hw.symm⟩

theorem tidy_of_nameText {name : String} {n : List Char} (h : NameText name n) :
    TidyName name := by
  refine ⟨h.ne_empty, ?_, ?_⟩
  · rw [trim, ← h.trims, trimmed_trimmed, h.trims, String.ofList_toList]
  · intro c hc
    rw [← h.trims] at hc
    exact h.plain c (mem_of_mem_trimmed hc)

/-- The name reaches as far as it was written, and so the same character ends it. -/
theorem split_name {name : String} {n r s : List Char} {d e : Char} (h : NameText name n)
    (hd : EndsName d) (he : EndsName e)
    (heq : n ++ d :: r = ' ' :: name.toList ++ [' '] ++ e :: s) :
    n = ' ' :: name.toList ++ [' '] ∧ d = e ∧ r = s :=
  split_unique h.plain (plain_padded (tidy_of_nameText h).plain) hd he heq

def ReadBack (a : Argument) : Prop :=
  ∀ text after u v, ArgumentText a text after → text ++ u = a.write ++ v →
    a.Printable ∧ text = a.write

theorem body_of_text {as : List Argument} (ha : ∀ a ∈ as, ReadBack a) {body u v : List Char}
    (h : BodyText as body) (he : body ++ '\x7d' :: u = writeAll as ++ ' ' :: '\x7d' :: v) :
    AllPrintable as ∧ body = writeAll as ++ [' '] := by
  induction as generalizing body with
  | nil =>
    cases h with
    | done hw =>
      obtain ⟨rfl, -⟩ := split_blank hw blank_space (by decide) (by decide) he
      exact ⟨trivial, rfl⟩
  | cons a as ih =>
    cases h with
    | @more _ _ w text body hw harg hbody =>
      obtain ⟨c, cs, hc, hcw⟩ := write_head a
      obtain ⟨d, ds, hd, hdw, -⟩ := harg.head
      have he' : w ++ d :: (ds ++ body ++ '\x7d' :: u) =
          [' '] ++ c :: (cs ++ writeAll as ++ ' ' :: '\x7d' :: v) := by
        simpa [writeAll, hc, hd] using he
      obtain ⟨rfl, hrest⟩ := split_blank hw blank_space hdw hcw he'
      have htext : text ++ (body ++ '\x7d' :: u) =
          a.write ++ (writeAll as ++ ' ' :: '\x7d' :: v) := by
        simpa [hc, hd] using hrest
      -- Only now that the argument ends where it was written to end do the rests agree.
      obtain ⟨hp, rfl⟩ := ha a (by simp) _ _ _ _ harg htext
      obtain ⟨hps, rfl⟩ := ih (fun b hb => ha b (by simp [hb])) hbody
        (List.append_cancel_left htext)
      exact ⟨⟨hp, hps⟩, by simp [writeAll]⟩

theorem call_of_text {name : String} {as : List Argument} (ha : ∀ a ∈ as, ReadBack a)
    {text u v : List Char} (h : CallText name as text)
    (he : text ++ u = writeCall name.toList (writeAll as) ++ v) :
    TidyName name ∧ AllPrintable as ∧ text = writeCall name.toList (writeAll as) := by
  cases h with
  | @bare _ n hn =>
    rw [writeAll, writeCall_nil] at he ⊢
    obtain ⟨rfl, -⟩ := split_name hn (.inr (.inr rfl)) (.inr (.inr rfl)) (by simpa using he)
    exact ⟨tidy_of_nameText hn, trivial, rfl⟩
  | @applied _ _ n body hn hb =>
    cases as with
    | nil =>
      rw [writeAll, writeCall_nil] at he
      obtain ⟨-, hd, -⟩ := split_name hn (.inl rfl) (.inr (.inr rfl)) (by simpa using he)
      exact absurd hd (by decide)
    | cons a as =>
      rw [writeCall_of_ne_nil (writeAll_ne_nil a as)] at he ⊢
      obtain ⟨rfl, -, hbody⟩ := split_name hn (.inl rfl) (.inl rfl) (by simpa using he)
      obtain ⟨hp, rfl⟩ := body_of_text ha hb (by simpa using hbody)
      exact ⟨tidy_of_nameText hn, hp, rfl⟩

theorem readBack (a : Argument) : ReadBack a := by
  induction a with
  | literal text =>
    intro piece after u v h he
    rw [← text.ofList_toList] at h
    exact safe_of_text h he
  | nested name as ih =>
    intro piece after u v h he
    cases h with
    | call h =>
      obtain ⟨hn, hp, ht⟩ := call_of_text ih h he
      exact ⟨⟨hn, hp⟩, ht⟩

theorem trimmed_writeCall (name arguments : List Char) :
    trimmed (writeCall name arguments) = writeCall name arguments := by
  by_cases h : arguments = []
  · subst h
    rw [writeCall_nil]
    exact trimmed_eq_self (by decide) (by decide) _
  · rw [writeCall_of_ne_nil h, List.cons_append]
    exact trimmed_eq_self (by decide) (by decide) _

/-- The written form of an invocation is read as that invocation exactly if it is printable. -/
theorem parse_display_iff (i : Invocation) :
    Invocation.parse i.display = .ok i ↔ i.Printable := by
  rw [parse_eq_ok, toList_trim, Invocation.display, String.toList_ofList,
    Invocation.write, trimmed_writeCall]
  constructor
  · rintro ⟨h, hd⟩
    obtain ⟨hn, hp, -⟩ := call_of_text (fun a _ => readBack a) h
      (rfl : i.write ++ [] = i.write ++ [])
    exact ⟨hn, hp, hd⟩
  · rintro ⟨hn, hp, hd⟩
    refine ⟨callText_write hn ?_, hd⟩
    intro a ha
    exact argumentText_write a (allPrintable_iff.mp hp a ha)

/- Words and groups that reading itself takes, and that are not read back when written. -/
example : ¬Invocation.Printable ⟨"print", [.literal "a)"]⟩ := by decide

example : ¬Invocation.Printable ⟨"print", [.nested "not" [.literal "\"a\" \"b\""]]⟩ := by decide

end Phrasebook
