import Phrasebook.Proofs.Outcome
import Phrasebook.Run

/-! Laws of evaluation. A script is evaluated step by step, a command by its script with the texts
of other commands for help, and what either may fail with is known beforehand. -/
namespace Phrasebook

namespace Script

section Laws

variable {n : Nat} {α β : Type} (l : Language) (reader : Command) (given : List String)
  (help : (c : Command) → c.rank < n → List String → Except RenderError String)

@[simp] theorem eval_pure (a : α) : (pure a : Script n α).eval l reader given help = .ok a := rfl

@[simp] theorem eval_bind (s : Script n β) (f : β → Script n α) :
    (s >>= f).eval l reader given help =
      s.eval l reader given help >>= fun b => (f b).eval l reader given help := by
  change (s.bind f).eval l reader given help = _
  induction s with
  | done b => rfl
  | refuse v word => rfl
  | argument i next ih => exact ih _
  | optional i next ih => exact ih _
  | arguments i next ih => exact ih _
  | pairs i next ih => exact ih _
  | fragment g next ih =>
    rw [Script.bind, eval, eval]
    cases l.fragment g with
    | none => rfl
    | some t => exact ih t
  | policy p next ih =>
    rw [Script.bind, eval, eval]
    cases l.policy p with
    | none => rfl
    | some b => exact ih b
  | importStyle next ih =>
    rw [Script.bind, eval, eval]
    cases l.importStyle with
    | none => rfl
    | some s => exact ih s
  | spelling name next ih =>
    rw [Script.bind, eval, eval]
    cases l.alias name with
    | none => exact ih none
    | some found =>
      cases found with
      | error p => rfl
      | ok t => exact ih (some t)
  | compose c lower as next ih =>
    rw [Script.bind, eval, eval]
    cases help c lower as with
    | error e => rfl
    | ok t => exact ih t

@[simp] theorem eval_ite {c : Prop} [Decidable c] (s t : Script n α) :
    (if c then s else t).eval l reader given help =
      if c then s.eval l reader given help else t.eval l reader given help := by
  split <;> rfl

@[simp] theorem eval_arg (i : Nat) :
    (arg i : Script n String).eval l reader given help = .ok (given.getD i "") := rfl

@[simp] theorem eval_arg? (i : Nat) :
    (arg? i : Script n (Option String)).eval l reader given help = .ok given[i]? := rfl

@[simp] theorem eval_args (i : Nat) :
    (args i : Script n (List String)).eval l reader given help = .ok (given.drop i) := rfl

@[simp] theorem eval_argPairs (i : Nat) :
    (argPairs i : Script n (List (String × Option String))).eval l reader given help =
      .ok (pairUp (given.drop i)) := rfl

@[simp] theorem eval_text (f : Fragment) :
    (text f : Script n String).eval l reader given help =
      (l.fragment f).elim (.error (.incomplete l.name reader.name (.fragment f))) .ok := by
  rw [text, eval]
  cases l.fragment f <;> rfl

@[simp] theorem eval_flag (p : Policy) :
    (flag p : Script n Bool).eval l reader given help =
      (l.policy p).elim (.error (.incomplete l.name reader.name (.policy p))) .ok := by
  rw [flag, eval]
  cases l.policy p <;> rfl

@[simp] theorem eval_take {c : Command} (as : List String) (lower : c.rank < n) :
    (take c as lower).eval l reader given help = help c lower as := by
  rw [take, eval]
  cases help c lower as <;> rfl

@[simp] theorem eval_phrase_nil : (phrase [] : Script n String).eval l reader given help = .ok "" :=
  rfl

@[simp] theorem eval_phrase_cons (s : Script n String) (steps : List (Script n String)) :
    (phrase (s :: steps)).eval l reader given help = (do
      return (← s.eval l reader given help) ++ (← (phrase steps).eval l reader given help)) := by
  rw [phrase]
  simp only [eval_bind]
  rfl

theorem eval_congr_help
    {help help' : (c : Command) → c.rank < n → List String → Except RenderError String}
    (h : ∀ c lower as, help c lower as = help' c lower as) (s : Script n α) :
    s.eval l reader given help = s.eval l reader given help' := by
  obtain rfl : help = help' := funext fun c => funext fun lower => funext fun as => h c lower as
  rfl

end Laws

section Results

variable {n : Nat} {α β : Type} {l : Language} {reader : Command} {given : List String}
  {help : (c : Command) → c.rank < n → List String → Except RenderError String} {P Q : α → Prop}

theorem eval_bind_eq_ok {s : Script n β} {f : β → Script n α} {a : α} :
    (s >>= f).eval l reader given help = .ok a ↔
      ∃ b, s.eval l reader given help = .ok b ∧ (f b).eval l reader given help = .ok a := by
  rw [eval_bind, bind_eq_ok]

theorem eval_text_eq_ok {f : Fragment} {t : String} :
    (text f : Script n String).eval l reader given help = .ok t ↔ l.fragment f = some t := by
  rw [eval_text, elim_eq_ok]

theorem eval_flag_eq_ok {p : Policy} {b : Bool} :
    (flag p : Script n Bool).eval l reader given help = .ok b ↔ l.policy p = some b := by
  rw [eval_flag, elim_eq_ok]

theorem eval_spelled_eq_ok {name : String} {found : Option String} :
    (spelled name : Script n (Option String)).eval l reader given help = .ok found ↔
      l.alias name = found.map .ok := by
  rw [spelled, eval]
  cases l.alias name with
  | none => cases found <;> simp [eval]
  | some known => cases known <;> cases found <;> simp [eval]

/-- An operator is written as the table of spellings has it. -/
theorem eval_operatorText_eq_ok {name t : String} :
    (Catalog.operatorText name : Script n String).eval l reader given help = .ok t ↔
      l.spelling name = some t := by
  rw [Catalog.operatorText, eval_bind_eq_ok, ← Language.alias_eq_ok]
  constructor
  · rintro ⟨found, hfound, ht⟩
    cases found with
    | none => cases ht
    | some u =>
      obtain rfl := Except.ok.inj ht
      exact eval_spelled_eq_ok.mp hfound
  · exact fun h => ⟨some t, eval_spelled_eq_ok.mpr h, rfl⟩

theorem eval_phrase_cons_eq_ok {s : Script n String} {steps : List (Script n String)} {t : String} :
    (phrase (s :: steps)).eval l reader given help = .ok t ↔
      ∃ u, s.eval l reader given help = .ok u ∧
        ∃ v, (phrase steps).eval l reader given help = .ok v ∧ u ++ v = t := by
  simp only [eval_phrase_cons, bind_eq_ok]
  simp [pure, Except.pure]

def Yields (l : Language) (reader : Command) (given : List String)
    (help : (c : Command) → c.rank < n → List String → Except RenderError String) (P : α → Prop)
    (s : Script n α) : Prop :=
  ∀ a, s.eval l reader given help = .ok a → P a

theorem yields_pure {a : α} : (pure a : Script n α).Yields l reader given help P ↔ P a := by
  simp [Yields]

theorem yields_bind {s : Script n β} {f : β → Script n α} :
    (s >>= f).Yields l reader given help P ↔
      s.Yields l reader given help fun b => (f b).Yields l reader given help P := by
  simp only [Yields, eval_bind_eq_ok]
  exact ⟨fun h b hb a ha => h a ⟨b, hb, ha⟩, fun h a ⟨b, hb, ha⟩ => h b hb a ha⟩

theorem yields_ite {c : Prop} [Decidable c] {s t : Script n α} :
    (if c then s else t).Yields l reader given help P ↔
      (c → s.Yields l reader given help P) ∧ (¬c → t.Yields l reader given help P) := by
  by_cases hc : c
  · simp [Yields, hc]
  · simp [Yields, hc]

theorem yields_arg {i : Nat} {P : String → Prop} :
    (arg i : Script n String).Yields l reader given help P ↔ P (given.getD i "") := by
  simp [Yields]

theorem yields_arg? {i : Nat} {P : Option String → Prop} :
    (arg? i : Script n (Option String)).Yields l reader given help P ↔ P given[i]? := by
  simp [Yields]

theorem yields_args {i : Nat} {P : List String → Prop} :
    (args i : Script n (List String)).Yields l reader given help P ↔ P (given.drop i) := by
  simp [Yields]

theorem yields_argPairs {i : Nat} {P : List (String × Option String) → Prop} :
    (argPairs i : Script n (List (String × Option String))).Yields l reader given help P ↔
      P (pairUp (given.drop i)) := by
  simp [Yields]

theorem yields_text {f : Fragment} {P : String → Prop} :
    (text f : Script n String).Yields l reader given help P ↔
      ∀ t, l.fragment f = some t → P t := by
  simp only [Yields, eval_text_eq_ok]

theorem yields_operatorText {name : String} {P : String → Prop} :
    (Catalog.operatorText name : Script n String).Yields l reader given help P ↔
      ∀ t, l.spelling name = some t → P t := by
  simp only [Yields, eval_operatorText_eq_ok]

theorem yields_take {c : Command} {as : List String} {lower : c.rank < n}
    {P : String → Prop} :
    (take c as lower).Yields l reader given help P ↔ ∀ t, help c lower as = .ok t → P t := by
  simp only [Yields, eval_take]

theorem yields_refuse {v : Vocabulary} {word : String} :
    (refuse v word : Script n α).Yields l reader given help P :=
  nofun

theorem yields_phrase_nil {P : String → Prop} :
    (phrase [] : Script n String).Yields l reader given help P ↔ P "" :=
  yields_pure

theorem yields_phrase_cons {s : Script n String} {steps : List (Script n String)}
    {P : String → Prop} :
    (phrase (s :: steps)).Yields l reader given help P ↔
      s.Yields l reader given help fun t =>
        (phrase steps).Yields l reader given help fun u => P (t ++ u) := by
  rw [phrase]
  simp only [yields_bind, yields_pure]

theorem Yields.mono {s : Script n α} (h : s.Yields l reader given help P)
    (hPQ : ∀ a, P a → Q a) : s.Yields l reader given help Q :=
  fun a ha => hPQ a (h a ha)

theorem Yields.seq {s : Script n β} {f : β → Script n α} {R : β → Prop}
    (hs : s.Yields l reader given help R) (hf : ∀ b, R b → (f b).Yields l reader given help P) :
    (s >>= f).Yields l reader given help P :=
  yields_bind.mpr (hs.mono hf)

/-- Where it does not matter what the first step comes to. -/
theorem Yields.last {s : Script n β} {f : β → Script n α}
    (hf : ∀ b, (f b).Yields l reader given help P) : (s >>= f).Yields l reader given help P :=
  yields_bind.mpr fun b _ => hf b

end Results

/-- A script fails for want of a property, by a refusal, or with the command it asks for help. -/
theorem eval_eq_error {n : Nat} {α : Type} {l : Language} {reader : Command} {given : List String}
    {help : (c : Command) → c.rank < n → List String → Except RenderError String} {s : Script n α}
    {e : RenderError} (h : s.eval l reader given help = .error e) :
    (∃ p, e = .incomplete l.name reader.name p) ∨ (∃ v word, e = .invalidValue v word) ∨
      ∃ c lower as, help c lower as = .error e := by
  induction s with
  | done a => cases h
  | refuse v word => exact .inr (.inl ⟨v, word, (Except.error.inj h).symm⟩)
  | argument i next ih => exact ih _ h
  | optional i next ih => exact ih _ h
  | arguments i next ih => exact ih _ h
  | pairs i next ih => exact ih _ h
  | fragment f next ih =>
    rw [eval] at h
    cases hf : l.fragment f with
    | none =>
      rw [hf] at h
      exact .inl ⟨_, (Except.error.inj h).symm⟩
    | some t =>
      rw [hf] at h
      exact ih t h
  | policy p next ih =>
    rw [eval] at h
    cases hp : l.policy p with
    | none =>
      rw [hp] at h
      exact .inl ⟨_, (Except.error.inj h).symm⟩
    | some b =>
      rw [hp] at h
      exact ih b h
  | importStyle next ih =>
    rw [eval] at h
    cases hs : l.importStyle with
    | none =>
      rw [hs] at h
      exact .inl ⟨_, (Except.error.inj h).symm⟩
    | some s =>
      rw [hs] at h
      exact ih s h
  | spelling name next ih =>
    rw [eval] at h
    cases ho : l.alias name with
    | none =>
      rw [ho] at h
      exact ih none h
    | some found =>
      rw [ho] at h
      cases found with
      | error p => exact .inl ⟨p, (Except.error.inj h).symm⟩
      | ok t => exact ih (some t) h
  | compose c lower as next ih =>
    rw [eval] at h
    cases hc : help c lower as with
    | error e' =>
      rw [hc] at h
      obtain rfl := Except.error.inj h
      exact .inr (.inr ⟨c, lower, as, hc⟩)
    | ok t =>
      rw [hc] at h
      exact ih t h

end Script

/-- The bound on the ranks does not matter, as long as it holds. -/
theorem runBelow_congr (l : Language) {m n : Nat} {c : Command} (hm : c.rank < m) (hn : c.rank < n)
    (given : List String) : runBelow l m c hm given = runBelow l n c hn given := by
  induction m generalizing n c given with
  | zero => exact absurd hm (Nat.not_lt_zero _)
  | succ m ih =>
    cases n with
    | zero => exact absurd hn (Nat.not_lt_zero _)
    | succ n =>
      rw [runBelow, runBelow]
      cases c.signature.check given.length with
      | error e => rfl
      | ok _ =>
        apply Script.eval_congr_help
        intro d lower as
        rw [ih]

namespace Command

/-- A command checks the number of its arguments, and then takes the texts of other commands for
help in its script. -/
theorem run_eq (l : Language) (c : Command) (given : List String) :
    c.run l given = ((c.signature.check given.length).mapError .arity >>= fun _ =>
      (Catalog.script c).eval l c given fun d _ as => d.inline l as) := by
  rw [run, runBelow]
  cases c.signature.check given.length with
  | error e => rfl
  | ok _ =>
    apply Script.eval_congr_help
    intro d lower as
    rw [inline, run, runBelow_congr l _ d.rank_lt]

theorem run_of_check {l : Language} {c : Command} {given : List String}
    (h : c.signature.check given.length = .ok ()) :
    c.run l given = (Catalog.script c).eval l c given fun d _ as => d.inline l as := by
  rw [run_eq, h]
  rfl

/-- What holds of a command if it holds of those of lower rank holds of every command. -/
theorem rank_induction {P : Command → Prop} (h : ∀ c, (∀ d, d.rank < c.rank → P d) → P c)
    (c : Command) : P c :=
  (measure rank).wf.induction c h

theorem run_eq_error {l : Language} {c : Command} {given : List String} {e : RenderError}
    (h : c.run l given = .error e) :
    (∃ a, e = .arity a) ∨ (∃ reader p, e = .incomplete l.name reader p) ∨
      ∃ v word, e = .invalidValue v word := by
  induction c using rank_induction generalizing given with
  | h c ih =>
    rw [run_eq] at h
    cases hc : c.signature.check given.length with
    | error a =>
      rw [hc] at h
      exact .inl ⟨a, (Except.error.inj h).symm⟩
    | ok _ =>
      rw [hc] at h
      rcases Script.eval_eq_error h with ⟨p, rfl⟩ | hrefused | ⟨d, lower, as, hd⟩
      · exact .inr (.inl ⟨_, p, rfl⟩)
      · exact .inr (.inr hrefused)
      · -- The command that was asked for help has failed by itself.
        exact ih d lower (map_eq_error.mp hd)

end Command

end Phrasebook
