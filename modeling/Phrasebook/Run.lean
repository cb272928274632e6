import Phrasebook.Catalog

/-! Running a command on arguments that are plain text. The number of arguments is checked before
anything else, also for the commands that a script takes help from. -/
namespace Phrasebook

def runBelow (l : Language) :
    (n : Nat) → (c : Command) → c.rank < n → List String → Except RenderError Rendering
  | 0, _, h, _ => absurd h (Nat.not_lt_zero _)
  | n + 1, c, h, given =>
    match c.signature.check given.length with
    | .error e => .error (.arity e)
    | .ok () =>
      (Catalog.script c).eval l c given fun d lower args =>
        (runBelow l n d (Nat.lt_of_lt_of_le lower (Nat.le_of_lt_succ h)) args).map
          Rendering.firstText

def Command.run (l : Language) (c : Command) (given : List String) :
    Except RenderError Rendering :=
  runBelow l 3 c c.rank_lt given

def Command.inline (l : Language) (c : Command) (given : List String) :
    Except RenderError String :=
  (c.run l given).map Rendering.firstText

end Phrasebook
