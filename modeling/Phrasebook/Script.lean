import Phrasebook.Error
import Phrasebook.Language
import Phrasebook.Rendering

/-! Scripts: the steps by which a command makes its rendering. A step reads an argument or a
property, takes the text of another command, or refuses an argument; what comes next may depend on
what was read. A script at rank `n` takes help from commands of rank below `n` only. -/
namespace Phrasebook

inductive Script (n : Nat) (α : Type) where
  | done (result : α)
  | argument (i : Nat) (next : String → Script n α)
  | optional (i : Nat) (next : Option String → Script n α)
  | arguments (start : Nat) (next : List String → Script n α)
  | pairs (start : Nat) (next : List (String × Option String) → Script n α)
  | fragment (f : Fragment) (next : String → Script n α)
  | policy (p : Policy) (next : Bool → Script n α)
  | importStyle (next : CaseStyle → Script n α)
  | spelling (name : String) (next : Option String → Script n α)
  | compose (c : Command) (lower : c.rank < n) (arguments : List String)
      (next : String → Script n α)
  | refuse (vocabulary : Vocabulary) (value : String)

-- Two by two; a last one may be left without a partner.
def pairUp {α : Type} : List α → List (α × Option α)
  | a :: b :: rest => (a, some b) :: pairUp rest
  | [a] => [(a, none)]
  | [] => []

namespace Script

variable {n : Nat} {α β : Type}

def bind : Script n α → (α → Script n β) → Script n β
  | .done a, f => f a
  | .argument i next, f => .argument i fun x => (next x).bind f
  | .optional i next, f => .optional i fun x => (next x).bind f
  | .arguments i next, f => .arguments i fun x => (next x).bind f
  | .pairs i next, f => .pairs i fun x => (next x).bind f
  | .fragment p next, f => .fragment p fun x => (next x).bind f
  | .policy p next, f => .policy p fun x => (next x).bind f
  | .importStyle next, f => .importStyle fun x => (next x).bind f
  | .spelling name next, f => .spelling name fun x => (next x).bind f
  | .compose c h as next, f => .compose c h as fun x => (next x).bind f
  | .refuse v value, _ => .refuse v value

instance : Monad (Script n) where
  pure := .done
  bind := bind

def arg (i : Nat) : Script n String :=
  .argument i .done

def arg? (i : Nat) : Script n (Option String) :=
  .optional i .done

def args (start : Nat) : Script n (List String) :=
  .arguments start .done

def argPairs (start : Nat) : Script n (List (String × Option String)) :=
  .pairs start .done

def text (f : Fragment) : Script n String :=
  .fragment f .done

def flag (p : Policy) : Script n Bool :=
  .policy p .done

def style : Script n CaseStyle :=
  .importStyle .done

def spelled (name : String) : Script n (Option String) :=
  .spelling name .done

def take (c : Command) (arguments : List String) (lower : c.rank < n := by decide) :
    Script n String :=
  .compose c lower arguments .done

def phrase : List (Script n String) → Script n String
  | [] => .done ""
  | step :: steps => do return (← step) ++ (← phrase steps)

/-- What the script makes of the arguments in a language. Missing properties are blamed on
`reader`, and `help` runs the commands of lower rank. -/
def eval (l : Language) (reader : Command) (given : List String)
    (help : (c : Command) → c.rank < n → List String → Except RenderError String) :
    Script n α → Except RenderError α
  | .done a => .ok a
  | .argument i next => (next (given.getD i "")).eval l reader given help
  | .optional i next => (next given[i]?).eval l reader given help
  | .arguments i next => (next (given.drop i)).eval l reader given help
  | .pairs i next => (next (pairUp (given.drop i))).eval l reader given help
  | .fragment f next =>
    match l.fragment f with
    | some t => (next t).eval l reader given help
    | none => .error (.incomplete l.name reader.name (.fragment f))
  | .policy p next =>
    match l.policy p with
    | some b => (next b).eval l reader given help
    | none => .error (.incomplete l.name reader.name (.policy p))
  | .importStyle next =>
    match l.importStyle with
    | some s => (next s).eval l reader given help
    | none => .error (.incomplete l.name reader.name .importStyle)
  | .spelling name next =>
    match l.alias name with
    | some (.ok t) => (next (some t)).eval l reader given help
    | some (.error p) => .error (.incomplete l.name reader.name p)
    | none => (next none).eval l reader given help
  | .compose c h as next =>
    match help c h as with
    | .ok t => (next t).eval l reader given help
    | .error e => .error e
  | .refuse v value => .error (.invalidValue v value)

end Script

end Phrasebook
