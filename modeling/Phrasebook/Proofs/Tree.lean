import Phrasebook.Invocation

/-! Invocations as trees: induction over them, their depth, and places in them. A place is given by
the positions of the arguments on the way down to it. -/
namespace Phrasebook

namespace Argument

/-- What holds of every text, and of an invocation if it holds of its arguments, holds of every
argument. -/
@[induction_eliminator]
theorem inductionOn {P : Argument → Prop} (literal : ∀ text, P (.literal text))
    (nested : ∀ name arguments, (∀ a ∈ arguments, P a) → P (.nested name arguments))
    (a : Argument) : P a :=
  @Argument.rec P (fun as => ∀ a ∈ as, P a) literal nested (by simp)
    (fun a as ha has => by simpa using ⟨ha, has⟩) a

theorem depthAll_le {as : List Argument} {n : Nat} : depthAll as ≤ n ↔ ∀ a ∈ as, a.depth ≤ n := by
  induction as with
  | nil => simp [depthAll]
  | cons a as ih => rw [depthAll, Nat.max_le, ih, List.forall_mem_cons]

def at? : Argument → (path : List Nat) → Option Argument
  | a, [] => some a
  | .literal _, _ :: _ => none
  | .nested _ arguments, p :: path => arguments[p]?.bind fun a => a.at? path

def replaceAt : Argument → (path : List Nat) → (new : Argument) → Argument
  | _, [], new => new
  | .literal text, _ :: _, _ => .literal text
  | .nested name arguments, p :: path, new =>
    .nested name (arguments.modify p fun a => a.replaceAt path new)

end Argument

namespace Invocation

theorem asArgument_injective {m n : Invocation} (h : m.asArgument = n.asArgument) : m = n := by
  obtain ⟨hname, harguments⟩ := Argument.nested.inj h
  cases m
  cases n
  simp_all

def argumentAt? (i : Invocation) (p : Nat) (path : List Nat) : Option Argument :=
  i.arguments[p]?.bind fun a => a.at? path

def replaceAt (i : Invocation) (p : Nat) (path : List Nat) (new : Argument) : Invocation :=
  { i with arguments := i.arguments.modify p fun a => a.replaceAt path new }

end Invocation

end Phrasebook
