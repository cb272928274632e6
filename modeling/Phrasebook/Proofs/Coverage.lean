import Phrasebook.BuiltIn
import Phrasebook.Proofs.Acceptance

/-! What scripts read of their arguments. A script has the empty text for an argument that is not
there, and leaves a last argument without a partner out. Neither ever happens: a second way to run
commands stops in such a case, and it comes to the same as the first one, although the number of
arguments is looked at once only, before the outermost command. -/
namespace Phrasebook

open Catalog

inductive Lapse where
  | failed (error : RenderError)
  | absent (reader : Command) (position : Nat)
  | unpaired (reader : Command) (start : Nat)

namespace Script

variable {n : Nat} {α : Type}

def watch (l : Language) (reader : Command) (given : List String)
    (help : (c : Command) → c.rank < n → List String → Except Lapse String) :
    Script n α → Except Lapse α
  | .done a => .ok a
  | .argument i next =>
    match given[i]? with
    | some a => (next a).watch l reader given help
    | none => .error (.absent reader i)
  | .optional i next => (next given[i]?).watch l reader given help
  | .arguments i next =>
    if i ≤ given.length then (next (given.drop i)).watch l reader given help
    else .error (.absent reader i)
  | .pairs i next =>
    if i ≤ given.length then
      if (given.length - i) % 2 = 0 then (next (pairUp (given.drop i))).watch l reader given help
      else .error (.unpaired reader i)
    else .error (.absent reader i)
  | .fragment f next =>
    match l.fragment f with
    | some t => (next t).watch l reader given help
    | none => .error (.failed (.incomplete l.name reader.name (.fragment f)))
  | .policy p next =>
    match l.policy p with
    | some b => (next b).watch l reader given help
    | none => .error (.failed (.incomplete l.name reader.name (.policy p)))
  | .importStyle next =>
    match l.importStyle with
    | some s => (next s).watch l reader given help
    | none => .error (.failed (.incomplete l.name reader.name .importStyle))
  | .spelling name next =>
    match l.alias name with
    | some (.ok t) => (next (some t)).watch l reader given help
    | some (.error p) => .error (.failed (.incomplete l.name reader.name p))
    | none => (next none).watch l reader given help
  | .compose c h as next =>
    match help c h as with
    | .ok t => (next t).watch l reader given help
    | .error lapse => .error lapse
  | .refuse v value => .error (.failed (.invalidValue v value))

end Script

open Script

theorem Command.not_rank_lt_zero (c : Command) : ¬c.rank < 0 :=
  Nat.not_lt_zero _

theorem Command.rank_lt_of_lower {c d : Command} {n : Nat} (h : c.rank < n + 1)
    (lower : d.rank < c.rank) : d.rank < n :=
  Nat.lt_of_lt_of_le lower (Nat.le_of_lt_succ h)

def watchBelow (l : Language) :
    (n : Nat) → (c : Command) → c.rank < n → List String → Except Lapse Rendering
  | 0, c, h, _ => absurd h c.not_rank_lt_zero
  | n + 1, c, h, given =>
    (script c).watch l c given fun _ lower args =>
      (watchBelow l n _ (Command.rank_lt_of_lower h lower) args).map Rendering.firstText

/-- Renders the command and stops where it, or a command that it asks for help, reads an argument
that is missing or leaves one over. -/
def Command.watch (l : Language) (c : Command) (given : List String) : Except Lapse Rendering :=
  watchBelow l 3 c c.rank_lt given

inductive Agrees {α : Type} : Except Lapse α → Except RenderError α → Prop
  | ok (a : α) : Agrees (.ok a) (.ok a)
  | failed {e : RenderError} (h : ∀ a, e ≠ .arity a) : Agrees (.error (.failed e)) (.error e)

namespace Agrees

variable {α β : Type} {x : Except Lapse α} {y : Except RenderError α}

theorem map (f : α → β) (h : Agrees x y) : Agrees (x.map f) (y.map f) := by
  cases h with
  | ok a => exact .ok (f a)
  | failed h => exact .failed h

theorem eq (h : Agrees x y) : x = y.mapError .failed := by
  cases h with
  | ok a => rfl
  | failed _ => rfl

theorem ne_arity (h : Agrees x y) (a : ArityError) : y ≠ .error (.arity a) := by
  cases h with
  | ok _ => simp
  | failed h => simpa using h a

theorem unset (language reader : String) (p : Property) :
    Agrees (.error (.failed (.incomplete language reader p)) : Except Lapse α)
      (.error (.incomplete language reader p)) :=
  .failed nofun

end Agrees

/-- A script that keeps to its terms reads nothing that is missing, and watching it makes no
difference. -/
theorem agrees_eval {l : Language} {n : Nat} {α : Type} {reader : Command} {given : List String}
    {watched : (c : Command) → c.rank < n → List String → Except Lapse String}
    {help : (c : Command) → c.rank < n → List String → Except RenderError String}
    (hhelp : ∀ c lower as, c.signature.check as.length = .ok () →
      Agrees (watched c lower as) (help c lower as))
    {s : Script n α} {P : α → Prop} (hs : s.Keeps (reader.terms given) given P) :
    Agrees (s.watch l reader given watched) (s.eval l reader given help) := by
  induction s with
  | done a => exact .ok a
  | refuse v word => exact .failed nofun
  | argument i next ih =>
    obtain ⟨hi, hs⟩ : i < given.length ∧ _ := hs
    have harg : given[i]? = some (given.getD i "") := by
      rw [List.getD_eq_getElem?_getD, List.getElem?_eq_getElem hi, Option.getD_some]
    rw [watch, harg, eval]
    exact ih _ hs
  | optional i next ih => exact ih _ hs
  | arguments i next ih =>
    obtain ⟨hi, hs⟩ : i ≤ given.length ∧ _ := hs
    rw [watch, if_pos hi]
    exact ih _ hs
  | pairs i next ih =>
    obtain ⟨⟨hi, heven⟩, hs⟩ : (i ≤ given.length ∧ (given.length - i) % 2 = 0) ∧ _ := hs
    rw [watch, if_pos hi, if_pos heven]
    exact ih _ hs
  | fragment f next ih =>
    rw [watch, eval]
    cases l.fragment f with
    | none => exact .unset _ _ _
    | some t => exact ih t (hs t)
  | policy p next ih =>
    rw [watch, eval]
    cases l.policy p with
    | none => exact .unset _ _ _
    | some b => exact ih b (hs b)
  | importStyle next ih =>
    rw [watch, eval]
    cases l.importStyle with
    | none => exact .unset _ _ _
    | some s => exact ih s (hs s)
  | spelling name next ih =>
    rw [watch, eval]
    cases halias : l.alias name with
    | none =>
      exact ih none (hs.2 (Operator.ofName?_eq_none.mpr (Language.alias_eq_none.mp halias).2))
    | some found =>
      cases found with
      | error p => exact .unset _ _ _
      | ok t => exact ih (some t) (hs.1 t)
  | compose c lower as next ih =>
    rw [watch, eval]
    have hc := hhelp c lower as hs.1.count
    generalize watched c lower as = x at hc
    generalize help c lower as = y at hc
    cases hc with
    | ok t => exact ih t (hs.2 t)
    | failed h => exact .failed h

theorem agrees_runBelow (l : Language) {n : Nat} {c : Command} (lower : c.rank < n)
    {given : List String} (h : c.signature.check given.length = .ok ()) :
    Agrees (watchBelow l n c lower given) (runBelow l n c lower given) := by
  induction n generalizing c given with
  | zero => exact absurd lower (Nat.not_lt_zero _)
  | succ n ih =>
    rw [watchBelow, runBelow, h]
    exact agrees_eval (fun d _ as hd => (ih _ hd).map _) (script_within h)

/-- A command fails by its number of arguments exactly if its signature does not accept that
number, and then it is the one to blame; the check is the one that is made in machine words, as long
as the number is not among the last of them. Otherwise that one look at the number is enough:
neither the command nor any command that it asks for help reads an argument that is missing, or
leaves one over where it takes them two by two. -/
theorem run_arity (l : Language) (c : Command) (given : List String) :
    (∀ e, c.run l given = .error (.arity e) ↔ c.signature.check given.length = .error e) ∧
    (∀ e, c.run l given = .error (.arity e) →
      e.signature = c.signature ∧ e.actual = given.length) ∧
    (given.length + 2 < UInt64.size →
      c.signature.validate given.length = c.signature.check given.length) ∧
    (c.signature.check given.length = .ok () →
      c.watch l given = (c.run l given).mapError .failed) := by
  have hrun (e : ArityError) :
      c.run l given = .error (.arity e) ↔ c.signature.check given.length = .error e := by
    cases hcheck : c.signature.check given.length with
    | error e' =>
      rw [Command.run, runBelow, hcheck]
      simp
    | ok _ =>
      have hne : c.run l given ≠ .error (.arity e) :=
        (agrees_runBelow l c.rank_lt hcheck).ne_arity e
      simpa using hne
  refine ⟨hrun, fun e he => Signature.checkBy_eq_error ((hrun e).mp he), fun hlength => ?_,
    fun hcheck => (agrees_runBelow l c.rank_lt hcheck).eq⟩
  exact Signature.validate_eq_check c.regular (c.countable hlength)

/-- A function with two parameters and one with half a parameter, and a loop that asks for help. -/
theorem run_arity_csharp :
    let l := BuiltIn.csharp.language
    Command.functionStart.watch l ["Add", "int", "a", "int", "b", "int"] =
      .ok ⟨[⟨"public static int Add(int a, int b)", 0⟩, ⟨"\x7b", 1⟩], false⟩ ∧
    (∃ e, Command.functionStart.run l ["Add", "int", "a"] = .error (.arity e) ∧
      Command.functionStart.signature.validate 3 = .error e ∧
      e.signature = Command.functionStart.signature ∧ e.actual = 3) ∧
    Command.foreachPairStart.watch l ["ages", "pair", "name", "string", "age", "int"] =
      (Command.foreachPairStart.run l ["ages", "pair", "name", "string", "age", "int"]).mapError
        .failed := by
  intro l
  have hadd : (Command.functionStart.run l ["Add", "int", "a", "int", "b", "int"]) =
      .ok ⟨[⟨"public static int Add(int a, int b)", 0⟩, ⟨"\x7b", 1⟩], false⟩ := by
    dsimp only [l]
    rfl
  obtain ⟨-, -, -, hwatch⟩ := run_arity l .functionStart ["Add", "int", "a", "int", "b", "int"]
  obtain ⟨hfails, hblames, hwords, -⟩ := run_arity l .functionStart ["Add", "int", "a"]
  have hhalf := (hfails _).mpr rfl
  refine ⟨?_, ⟨_, hhalf, (hwords (by decide)).trans rfl, hblames _ hhalf⟩,
    (run_arity l .foreachPairStart _).2.2.2 rfl⟩
  rw [hwatch rfl, hadd]
  rfl

example : Command.operation.watch BuiltIn.csharp.language ["a", "plus"] =
    .error (.unpaired .operation 1) := rfl

example : Command.listPush.watch BuiltIn.csharp.language ["names"] =
    .error (.absent .listPush 1) := rfl

end Phrasebook
