import Phrasebook.Run
import Phrasebook.Proofs.Outcome

/-! What holds on every path through a script. The properties that a script reads and the texts that
it takes from other commands are left open, so that what is shown here holds in every language. -/
namespace Phrasebook

inductive Reading where
  | one (i : Nat)
  | rest (start : Nat)
  | pairs (start : Nat)

structure Terms where
  reading : Reading → Prop
  help : Command → List String → Prop
  refusal : Vocabulary → String → Prop

namespace Terms

def any : Terms :=
  ⟨fun _ => True, fun _ _ => True, fun _ _ => True⟩

@[simp] theorem any_reading (r : Reading) : any.reading r :=
  trivial

@[simp] theorem any_refusal (v : Vocabulary) (word : String) : any.refusal v word :=
  trivial

end Terms

namespace Script

variable {n : Nat} {α β : Type}

/-- On these arguments the script stays within the terms and every result it may come to has the
property. -/
def Keeps (terms : Terms) (given : List String) (P : α → Prop) : Script n α → Prop
  | .done a => P a
  | .argument i next =>
    terms.reading (.one i) ∧ (next (given.getD i "")).Keeps terms given P
  | .optional i next => (next given[i]?).Keeps terms given P
  | .arguments i next => terms.reading (.rest i) ∧ (next (given.drop i)).Keeps terms given P
  | .pairs i next => terms.reading (.pairs i) ∧ (next (pairUp (given.drop i))).Keeps terms given P
  | .fragment _ next => ∀ text, (next text).Keeps terms given P
  | .policy _ next => ∀ flag, (next flag).Keeps terms given P
  | .importStyle next => ∀ style, (next style).Keeps terms given P
  -- Some language may know any name, but none misses the name of an operator.
  | .spelling name next => (∀ text, (next (some text)).Keeps terms given P) ∧
      (Operator.ofName? name = none → (next none).Keeps terms given P)
  | .compose c _ as next => terms.help c as ∧ ∀ text, (next text).Keeps terms given P
  | .refuse v word => terms.refusal v word

section

variable {terms : Terms} {given : List String} {P Q : α → Prop} {s : Script n α}

@[simp] theorem keeps_pure {a : α} : (pure a : Script n α).Keeps terms given P ↔ P a := Iff.rfl

@[simp] theorem keeps_bind {s : Script n β} {f : β → Script n α} :
    (s >>= f).Keeps terms given P ↔ s.Keeps terms given fun b => (f b).Keeps terms given P := by
  change (s.bind f).Keeps terms given P ↔ _
  induction s with
  | done b => rfl
  | refuse v word => rfl
  | argument i next ih => exact and_congr_right fun _ => ih _
  | optional i next ih => exact ih _
  | arguments i next ih => exact and_congr_right fun _ => ih _
  | pairs i next ih => exact and_congr_right fun _ => ih _
  | fragment f next ih => exact forall_congr' ih
  | policy p next ih => exact forall_congr' ih
  | importStyle next ih => exact forall_congr' ih
  | spelling name next ih =>
    exact and_congr (forall_congr' fun t => ih _) (imp_congr_right fun _ => ih _)
  | compose c lower as next ih => exact and_congr_right fun _ => forall_congr' ih

@[simp] theorem keeps_ite {c : Prop} [Decidable c] {s t : Script n α} :
    (if c then s else t).Keeps terms given P ↔
      (c → s.Keeps terms given P) ∧ (¬c → t.Keeps terms given P) := by
  by_cases hc : c
  · simp [hc]
  · simp [hc]

@[simp] theorem keeps_arg {i : Nat} {P : String → Prop} :
    (arg i : Script n String).Keeps terms given P ↔
      terms.reading (.one i) ∧ P (given.getD i "") := Iff.rfl

@[simp] theorem keeps_arg? {i : Nat} {P : Option String → Prop} :
    (arg? i : Script n (Option String)).Keeps terms given P ↔ P given[i]? := Iff.rfl

@[simp] theorem keeps_args {i : Nat} {P : List String → Prop} :
    (args i : Script n (List String)).Keeps terms given P ↔
      terms.reading (.rest i) ∧ P (given.drop i) := Iff.rfl

@[simp] theorem keeps_argPairs {i : Nat} {P : List (String × Option String) → Prop} :
    (argPairs i : Script n (List (String × Option String))).Keeps terms given P ↔
      terms.reading (.pairs i) ∧ P (pairUp (given.drop i)) := Iff.rfl

@[simp] theorem keeps_text {f : Fragment} {P : String → Prop} :
    (text f : Script n String).Keeps terms given P ↔ ∀ t, P t := Iff.rfl

@[simp] theorem keeps_flag {p : Policy} {P : Bool → Prop} :
    (flag p : Script n Bool).Keeps terms given P ↔ ∀ b, P b := Iff.rfl

@[simp] theorem keeps_style {P : CaseStyle → Prop} :
    (style : Script n CaseStyle).Keeps terms given P ↔ ∀ s, P s := Iff.rfl

@[simp] theorem keeps_spelled {name : String} {P : Option String → Prop} :
    (spelled name : Script n (Option String)).Keeps terms given P ↔
      (∀ t, P (some t)) ∧ (Operator.ofName? name = none → P none) := Iff.rfl

@[simp] theorem keeps_take {c : Command} {as : List String} {lower : c.rank < n}
    {P : String → Prop} :
    (take c as lower).Keeps terms given P ↔ terms.help c as ∧ ∀ t, P t := Iff.rfl

@[simp] theorem keeps_refuse {v : Vocabulary} {word : String} :
    (refuse v word : Script n α).Keeps terms given P ↔ terms.refusal v word := Iff.rfl

theorem Keeps.mono (h : s.Keeps terms given P) (hPQ : ∀ a, P a → Q a) :
    s.Keeps terms given Q := by
  induction s with
  | done a => exact hPQ a h
  | refuse v word => exact h
  | argument i next ih => exact ⟨h.1, ih _ h.2⟩
  | optional i next ih => exact ih _ h
  | arguments i next ih => exact ⟨h.1, ih _ h.2⟩
  | pairs i next ih => exact ⟨h.1, ih _ h.2⟩
  | fragment f next ih => exact fun t => ih t (h t)
  | policy p next ih => exact fun b => ih b (h b)
  | importStyle next ih => exact fun s => ih s (h s)
  | spelling name next ih => exact ⟨fun t => ih _ (h.1 t), fun hname => ih _ (h.2 hname)⟩
  | compose c lower as next ih => exact ⟨h.1, fun t => ih t (h.2 t)⟩

/-- Where nothing is asked of the results, the steps may be looked at one by one. -/
theorem Keeps.seq {s : Script n β} {f : β → Script n α}
    (hs : s.Keeps terms given fun _ => True) (hf : ∀ b, (f b).Keeps terms given P) :
    (s >>= f).Keeps terms given P :=
  keeps_bind.mpr (hs.mono fun b _ => hf b)

/-- A phrase stays within the terms if its parts do. -/
@[simp] theorem keeps_phrase {steps : List (Script n String)}
    (h : ∀ s ∈ steps, s.Keeps terms given fun _ => True) :
    (phrase steps).Keeps terms given fun _ => True := by
  induction steps with
  | nil => trivial
  | cons s steps ih =>
    rw [List.forall_mem_cons] at h
    exact .seq h.1 fun _ => .seq (ih h.2) fun _ => trivial

/-- Without restriction a script can only fail to keep what its results are to have. -/
@[simp] theorem keeps_any_true : s.Keeps .any given fun _ => True := by
  induction s with
  | done a => trivial
  | refuse v word => trivial
  | argument i next ih => exact ⟨trivial, ih _⟩
  | optional i next ih => exact ih _
  | arguments i next ih => exact ⟨trivial, ih _⟩
  | pairs i next ih => exact ⟨trivial, ih _⟩
  | fragment f next ih => exact ih
  | policy p next ih => exact ih
  | importStyle next ih => exact ih
  | spelling name next ih => exact ⟨fun t => ih _, fun _ => ih _⟩
  | compose c lower as next ih => exact ⟨trivial, ih⟩

/-- Then only the last step matters. -/
theorem Keeps.last {s : Script n β} {f : β → Script n α}
    (hf : ∀ b, (f b).Keeps .any given P) : (s >>= f).Keeps .any given P :=
  .seq keeps_any_true hf

end

section

variable {l : Language} {reader : Command} {terms : Terms} {given : List String} {P : α → Prop}
  {s : Script n α} {help : (c : Command) → c.rank < n → List String → Except RenderError String}

/-- What is kept on every path holds of what the script comes to in a language. -/
theorem Keeps.result (h : s.Keeps terms given P) {a : α}
    (he : s.eval l reader given help = .ok a) : P a := by
  induction s with
  | done b =>
    obtain rfl : b = a := by simpa [eval] using he
    exact h
  | refuse v word => simp [eval] at he
  | argument i next ih => exact ih _ h.2 he
  | optional i next ih => exact ih _ h he
  | arguments i next ih => exact ih _ h.2 he
  | pairs i next ih => exact ih _ h.2 he
  | fragment f next ih =>
    cases hf : l.fragment f with
    | none => simp [eval, hf] at he
    | some t => exact ih t (h t) (by simpa [eval, hf] using he)
  | policy p next ih =>
    cases hp : l.policy p with
    | none => simp [eval, hp] at he
    | some b => exact ih b (h b) (by simpa [eval, hp] using he)
  | importStyle next ih =>
    cases hs : l.importStyle with
    | none => simp [eval, hs] at he
    | some s => exact ih s (h s) (by simpa [eval, hs] using he)
  | spelling name next ih =>
    cases ho : l.alias name with
    | none =>
      have hname := Operator.ofName?_eq_none.mpr (Language.alias_eq_none.mp ho).2
      exact ih none (h.2 hname) (by simpa [eval, ho] using he)
    | some found =>
      cases found with
      | error p => simp [eval, ho] at he
      | ok t => exact ih (some t) (h.1 t) (by simpa [eval, ho] using he)
  | compose c lower as next ih =>
    cases hc : help c lower as with
    | error e => simp [eval, hc] at he
    | ok t => exact ih t (h.2 t) (by simpa [eval, hc] using he)

end

end Script

/-- A command that renders was given a number of arguments that suits it, and its script came to the
rendering. -/
theorem Command.eval_of_run {l : Language} {c : Command} {given : List String} {r : Rendering}
    (h : c.run l given = .ok r) : c.signature.check given.length = .ok () ∧
      ∃ help, (Catalog.script c).eval l c given help = .ok r := by
  rw [Command.run, runBelow] at h
  cases hc : c.signature.check given.length with
  | error e => simp [hc] at h
  | ok u =>
    rw [hc] at h
    exact ⟨rfl, _, h⟩

end Phrasebook
