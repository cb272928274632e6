import Phrasebook.Text.Lines

/-! Signatures of commands: which arguments a command takes, what it does to the indentation, and
whether a number of arguments suits it.

What a repeating group needs is a product, and there are two ways to compute it. Any machine word
may be given to `validate`, which multiplies machine words. The arguments of a command are counted
by `check` in plain numbers: a list of them in memory is far shorter than a word could count, and
there the two agree. -/
namespace Phrasebook

open Text

-- The library's sum, whose zero is the numeral.
def total {α : Type} [Add α] [OfNat α 0] (xs : List α) : α :=
  xs.sum

section Totals

variable {α : Type} [Add α] [OfNat α 0]

@[simp] theorem total_nil : total ([] : List α) = 0 := rfl

@[simp] theorem total_cons (x : α) (xs : List α) : total (x :: xs) = x + total xs := rfl

theorem total_singleton (x : Int) : total [x] = x :=
  List.sum_singleton

theorem total_append (xs ys : List Int) : total (xs ++ ys) = total xs + total ys :=
  List.sum_append

end Totals

structure Slot where
  name : String
  description : String
  required : Bool
deriving DecidableEq, Repr

structure SlotGroup where
  name : String
  description : String
  required : Bool
  slots : List Slot
deriving DecidableEq, Repr

-- Words have 64 bits; a product that does not fit starts over.
def wordProduct (a b : Nat) : Nat :=
  a * b % UInt64.size

namespace SlotGroup

def width (g : SlotGroup) : Nat :=
  max g.slots.length 1

def minimumWidth (g : SlotGroup) : Nat :=
  (g.slots.filter (·.required)).length

def fewest (g : SlotGroup) (count : Nat) : Nat :=
  max ((count + g.width - 1) / g.width) (if g.required then 1 else 0)

def repetitionsBy (times : Nat → Nat → Nat) (g : SlotGroup) (count : Nat) : Option Nat :=
  if times (g.fewest count) g.minimumWidth ≤ count then some (g.fewest count) else none

def repetitions (g : SlotGroup) (count : Nat) : Option Nat :=
  g.repetitionsBy wordProduct count

end SlotGroup

inductive Parameter where
  | single (slot : Slot)
  | repeating (group : SlotGroup)
deriving DecidableEq, Repr

namespace Parameter

def name : Parameter → String
  | .single s => s.name
  | .repeating g => g.name

def minimum : Parameter → Nat
  | .single s => if s.required then 1 else 0
  | .repeating g => if g.required then g.minimumWidth else 0

end Parameter

structure Signature where
  name : String
  description : String
  parameters : List Parameter
  indentation : List Int
deriving DecidableEq, Repr

inductive Expectation where
  | exactly (count : Nat)
  | between (fewest most : Nat)
  | atLeast (count : Nat)
  | multiples (taken width : Nat)
  | repetitions (taken narrow wide : Nat)
deriving DecidableEq, Repr

def Expectation.text : Expectation → String
  | .exactly n => s!"{n}"
  | .between a b => s!"{a} to {b}"
  | .atLeast n => s!"at least {n}"
  | .multiples t w => s!"{t} plus a multiple of {w}"
  | .repetitions t a b => s!"{t} plus repetitions of {a} to {b}"

structure ArityError where
  signature : Signature
  parameter : String
  expected : Expectation
  actual : Nat
deriving DecidableEq, Repr

namespace Slot

def usage (s : Slot) : String :=
  if s.required then s.name else "[" ++ s.name ++ "]"

end Slot

def SlotGroup.usage (g : SlotGroup) : String :=
  let once := join " " (g.slots.map Slot.usage)
  if g.required then once ++ " [" ++ once ++ " ...]" else "[" ++ once ++ " ...]"

def Parameter.usage : Parameter → String
  | .single s => s.usage
  | .repeating g => g.usage

namespace Signature

def net (s : Signature) : Int :=
  total s.indentation

def minimum (s : Signature) : Nat :=
  total (s.parameters.map Parameter.minimum)

def mostOf : List Parameter → Option Nat
  | [] => some 0
  | .single _ :: ps => (mostOf ps).map (· + 1)
  | .repeating _ :: _ => none

def maximum (s : Signature) : Option Nat :=
  mostOf s.parameters

def usage (s : Signature) : String :=
  match s.parameters with
  | [] => s.name
  | ps => s.name ++ " : " ++ join " " (ps.map Parameter.usage)

def expected (s : Signature) : Expectation :=
  match s.maximum with
  | some most => if s.minimum = most then .exactly most else .between s.minimum most
  | none => .atLeast s.minimum

def expectedOf (g : SlotGroup) (taken : Nat) : Expectation :=
  if g.minimumWidth = g.width then .multiples taken g.width
  else .repetitions taken g.minimumWidth g.width

/-- Where `remaining` of `actual` arguments fail to suit the parameters still to be filled. -/
def faultFrom (times : Nat → Nat → Nat) (s : Signature) (actual : Nat) :
    (remaining : Nat) → List Parameter → Option (String × Expectation)
  | 0, [] => none
  | _ + 1, [] => some ((s.parameters.getLast?.map Parameter.name).getD "(none)", s.expected)
  | 0, .single slot :: ps =>
    if slot.required then some (slot.name, s.expected) else s.faultFrom times actual 0 ps
  | remaining + 1, .single _ :: ps => s.faultFrom times actual remaining ps
  | remaining, .repeating g :: ps =>
    match g.repetitionsBy times remaining with
    | some _ => s.faultFrom times actual 0 ps
    | none =>
      some (g.name, if remaining = 0 then s.expected else expectedOf g (actual - remaining))

def checkBy (times : Nat → Nat → Nat) (s : Signature) (actual : Nat) : Except ArityError Unit :=
  match s.faultFrom times actual actual s.parameters with
  | none => .ok ()
  | some (parameter, expected) => .error ⟨s, parameter, expected, actual⟩

def check (s : Signature) (actual : Nat) : Except ArityError Unit :=
  s.checkBy Nat.mul actual

def validate (s : Signature) (actual : Nat) : Except ArityError Unit :=
  s.checkBy wordProduct actual

end Signature

def ArityError.message (e : ArityError) : String :=
  s!"command '{e.signature.name}' expects {e.expected.text} argument(s), got {e.actual}" ++
    s!" (at '{e.parameter}')"

end Phrasebook
