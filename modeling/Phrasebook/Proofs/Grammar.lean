import Mathlib.Data.List.Infix
import Phrasebook.Invocation
import Phrasebook.Proofs.WhiteSpace

/-! The grammar of written invocations. An invocation is a name in braces, with a colon and a body
after the name if it has arguments. A body is the arguments one after another, with white space
in front of each and after the last. An argument is an invocation, a group in parentheses, a string
in double quotes or a word. -/
namespace Phrasebook.Grammar

open Text

def Balanced (cs : List Char) : Prop :=
  (∀ p, p <+: cs → p.count ')' ≤ p.count '(') ∧ cs.count ')' = cs.count '('

instance : DecidablePred Balanced := fun cs =>
  decidable_of_iff ((∀ p ∈ cs.inits, p.count ')' ≤ p.count '(') ∧ cs.count ')' = cs.count '(')
    (by simp only [Balanced, List.mem_inits])

def unbroken : List Char → Bool
  | [] => true
  | '\\' :: _ :: cs => unbroken cs
  | c :: cs => c ≠ '"' && c ≠ '\\' && unbroken cs

def EndsWord (c : Char) : Prop :=
  isWhiteSpace c = true ∨ c = '\x7b' ∨ c = '\x7d'

def EndsName (c : Char) : Prop :=
  c = ':' ∨ c = '\x7b' ∨ c = '\x7d'

instance : DecidablePred EndsName := fun c =>
  inferInstanceAs (Decidable (c = ':' ∨ c = '\x7b' ∨ c = '\x7d'))

structure NameText (name : String) (text : List Char) : Prop where
  plain : ∀ c ∈ text, ¬EndsName c
  trims : trimmed text = name.toList
  ne_empty : name ≠ ""

mutual

inductive ArgumentText : Argument → (text after : List Char) → Prop
  | call {name : String} {arguments : List Argument} {text after : List Char}
      (h : CallText name arguments text) : ArgumentText (.nested name arguments) text after
  | group {inside after : List Char} (h : Balanced inside) :
      ArgumentText (.literal (String.ofList inside)) ('(' :: inside ++ [')']) after
  | quoted {inside after : List Char} (h : unbroken inside = true) :
      ArgumentText (.literal (String.ofList ('"' :: inside ++ ['"']))) ('"' :: inside ++ ['"'])
        after
  | word {c d : Char} {cs after : List Char} (hw : ∀ x ∈ c :: cs, ¬EndsWord x) (hp : c ≠ '(')
      (hq : c ≠ '"') (hd : EndsWord d) :
      ArgumentText (.literal (String.ofList (c :: cs))) (c :: cs) (d :: after)

inductive CallText : String → List Argument → (text : List Char) → Prop
  | bare {name : String} {n : List Char} (hn : NameText name n) :
      CallText name [] ('\x7b' :: n ++ ['\x7d'])
  | applied {name : String} {arguments : List Argument} {n body : List Char}
      (hn : NameText name n) (hb : BodyText arguments body) :
      CallText name arguments ('\x7b' :: n ++ ':' :: body ++ ['\x7d'])

inductive BodyText : List Argument → (text : List Char) → Prop
  | done {w : List Char} (hw : Blank w) : BodyText [] w
  | more {a : Argument} {as : List Argument} {w text body : List Char} (hw : Blank w)
      (ha : ArgumentText a text (body ++ ['\x7d'])) (hb : BodyText as body) :
      BodyText (a :: as) (w ++ text ++ body)

end

def Closes (opened : Nat) (cs : List Char) : Prop :=
  (∀ p, p <+: cs → p.count ')' ≤ p.count '(' + opened) ∧ cs.count ')' = cs.count '(' + opened

theorem closes_zero {cs : List Char} : Closes 0 cs ↔ Balanced cs := Iff.rfl

theorem closes_nil {n : Nat} : Closes n [] ↔ n = 0 := by
  constructor
  · intro h
    simpa using h.2.symm
  · rintro rfl
    exact ⟨fun p hp => by simp [List.prefix_nil.mp hp], rfl⟩

/-- What comes first moves the number of open parentheses from `m` to `n`. -/
theorem closes_cons {m n : Nat} {c : Char} (h : [c].count '(' + m = [c].count ')' + n)
    (cs : List Char) : Closes m (c :: cs) ↔ Closes n cs := by
  have hc : ∀ (d : Char) (p : List Char), (c :: p).count d = [c].count d + p.count d :=
    fun d p => by rw [← List.count_append, List.singleton_append]
  constructor
  · rintro ⟨hp, he⟩
    refine ⟨fun p h' => ?_, ?_⟩
    · have := hp (c :: p) (List.cons_prefix_cons.mpr ⟨rfl, h'⟩)
      rw [hc ')', hc '('] at this
      omega
    · rw [hc ')', hc '('] at he
      omega
  · rintro ⟨hp, he⟩
    refine ⟨fun p h' => ?_, ?_⟩
    · rcases List.prefix_cons_iff.mp h' with rfl | ⟨t, rfl, ht⟩
      · simp
      · have := hp t ht
        rw [hc ')', hc '(']
        omega
    · rw [hc ')', hc '(']
      omega

theorem not_closes_zero_close (cs : List Char) : ¬Closes 0 (')' :: cs) := by
  rintro ⟨hp, -⟩
  have := hp [')'] ⟨cs, rfl⟩
  simp at this

theorem CallText.head {name : String} {arguments : List Argument} {text : List Char}
    (h : CallText name arguments text) : ∃ cs, text = '\x7b' :: cs := by
  cases h with
  | bare hn => exact ⟨_, rfl⟩
  | applied hn hb => exact ⟨_, rfl⟩

/-- The first character of an argument is not one that could come before it or in its place. -/
theorem ArgumentText.head {a : Argument} {text after : List Char}
    (h : ArgumentText a text after) :
    ∃ c cs, text = c :: cs ∧ isWhiteSpace c = false ∧ c ≠ '\x7d' := by
  cases h with
  | call h =>
    obtain ⟨cs, rfl⟩ := h.head
    exact ⟨_, cs, rfl, by decide, by decide⟩
  | group h => exact ⟨_, _, rfl, by decide, by decide⟩
  | quoted h => exact ⟨_, _, rfl, by decide, by decide⟩
  | @word c d cs after hw hp hq hd =>
    have hc := hw c (by simp)
    simp only [EndsWord, not_or] at hc
    exact ⟨c, cs, rfl, by simpa using hc.1, hc.2.2⟩

/-- Of what comes next, only the first character matters. -/
theorem ArgumentText.extend {a : Argument} {text after : List Char}
    (h : ArgumentText a text after) (rest : List Char) :
    ArgumentText a text (after ++ rest) := by
  cases h with
  | call h => exact .call h
  | group h => exact .group h
  | quoted h => exact .quoted h
  | word hw hp hq hd => exact .word hw hp hq hd

theorem ArgumentText.restrict {a : Argument} {text after rest : List Char}
    (h : ArgumentText a text (after ++ rest)) (ha : after ≠ []) : ArgumentText a text after := by
  generalize he : after ++ rest = all at h
  cases h with
  | call h => exact .call h
  | group h => exact .group h
  | quoted h => exact .quoted h
  | word hw hp hq hd =>
    obtain ⟨d, ds, rfl⟩ := List.exists_cons_of_ne_nil ha
    obtain ⟨rfl, -⟩ := List.cons.inj he
    exact .word hw hp hq hd

end Phrasebook.Grammar
