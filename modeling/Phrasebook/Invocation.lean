/-! Invocations: a command's name with its arguments, which are plain text or invocations in
turn. -/
namespace Phrasebook

inductive Argument where
  | literal (text : String)
  | nested (name : String) (arguments : List Argument)

structure Invocation where
  name : String
  arguments : List Argument

namespace Argument

mutual

def decEq : (a b : Argument) → Decidable (a = b)
  | .literal s, .literal t =>
    if h : s = t then isTrue (h ▸ rfl) else isFalse fun e => h (by injection e)
  | .literal _, .nested _ _ => isFalse (by simp)
  | .nested _ _, .literal _ => isFalse (by simp)
  | .nested m as, .nested n bs =>
    if h : m = n then
      match decEqAll as bs with
      | isTrue h' => isTrue (h ▸ h' ▸ rfl)
      | isFalse h' => isFalse fun e => h' (by injection e)
    else isFalse fun e => h (by injection e)

def decEqAll : (as bs : List Argument) → Decidable (as = bs)
  | [], [] => isTrue rfl
  | [], _ :: _ => isFalse (by simp)
  | _ :: _, [] => isFalse (by simp)
  | a :: as, b :: bs =>
    match decEq a b, decEqAll as bs with
    | isTrue h, isTrue h' => isTrue (h ▸ h' ▸ rfl)
    | isFalse h, _ => isFalse fun e => h (by injection e)
    | _, isFalse h' => isFalse fun e => h' (by injection e)

end

instance : DecidableEq Argument := decEq

def isNested : Argument → Bool
  | .literal _ => false
  | .nested _ _ => true

mutual

def depth : Argument → Nat
  | .literal _ => 0
  | .nested _ arguments => depthAll arguments + 1

def depthAll : List Argument → Nat
  | [] => 0
  | a :: as => max a.depth (depthAll as)

end

end Argument

deriving instance DecidableEq for Invocation

namespace Invocation

def maxNesting : Nat := 64

def depth (i : Invocation) : Nat :=
  Argument.depthAll i.arguments + 1

def hasNested (i : Invocation) : Bool :=
  i.arguments.any Argument.isNested

def asArgument (i : Invocation) : Argument :=
  .nested i.name i.arguments

end Invocation

end Phrasebook
