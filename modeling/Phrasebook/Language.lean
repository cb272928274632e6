import Phrasebook.CaseStyle
import Phrasebook.Property

/-! Languages: what each property is set to, if it is set. The spellings of the operators are a
table of their own, by the names of the operators. Assembly copies them from the operator fragments
and they are kept until the next assembly; but the table may hold any other name as well, and a name
is looked up in it before anything else. -/
namespace Phrasebook

structure Language where
  name : String
  fragment : Fragment → Option String
  policy : Policy → Option Bool
  importStyle : Option CaseStyle
  spellings : List (String × String)

inductive PropertyValue where
  | text (text : String)
  | flag (flag : Bool)
  | style (style : CaseStyle)
deriving DecidableEq, Repr

inductive Setting where
  | fragment (f : Fragment) (value : Option String)
  | policy (p : Policy) (value : Option Bool)
  | importStyle (value : Option CaseStyle)

def Setting.property : Setting → Property
  | .fragment f _ => .fragment f
  | .policy p _ => .policy p
  | .importStyle _ => .importStyle

def Setting.value : Setting → Option PropertyValue
  | .fragment _ v => v.map .text
  | .policy _ v => v.map .flag
  | .importStyle v => v.map .style

namespace Language

def blank (name : String) : Language where
  name := name
  fragment _ := none
  policy _ := none
  importStyle := none
  spellings := []

def spelling (l : Language) (name : String) : Option String :=
  l.spellings.lookup name

def assemble (l : Language) : Language :=
  { l with spellings := Operator.table fun o => l.fragment (.operator o) }

def set (l : Language) : Setting → Language
  | .fragment f value => { l with fragment := fun g => if g = f then value else l.fragment g }
  | .policy p value => { l with policy := fun q => if q = p then value else l.policy q }
  | .importStyle value => { l with importStyle := value }

def value (l : Language) : Property → Option PropertyValue
  | .fragment f => (l.fragment f).map .text
  | .policy p => (l.policy p).map .flag
  | .importStyle => l.importStyle.map .style

def read (l : Language) (p : Property) : Except Property PropertyValue :=
  match l.value p with
  | some v => .ok v
  | none => .error p

def unset (l : Language) : List Property :=
  Property.all.filter fun p => (l.value p).isNone

/-- How the language writes the operator of this name. What the table has for the name comes first;
otherwise the property of the operator is missing, and there is nothing if no operator has the
name. -/
def «alias» (l : Language) (name : String) : Option (Except Property String) :=
  match l.spelling name with
  | some s => some (.ok s)
  | none => (Operator.ofName? name).map fun o => .error (.fragment (.operator o))

theorem alias_eq_none {l : Language} {name : String} :
    l.alias name = none ↔ l.spelling name = none ∧ name ∉ Operator.all.map Operator.name := by
  rw [«alias», ← Operator.ofName?_eq_none]
  cases l.spelling name <;> simp

theorem alias_eq_ok {l : Language} {name text : String} :
    l.alias name = some (.ok text) ↔ l.spelling name = some text := by
  rw [«alias»]
  cases l.spelling name with
  | some s => simp
  | none => cases Operator.ofName? name <;> simp

theorem alias_eq_error {l : Language} {name : String} {p : Property} :
    l.alias name = some (.error p) ↔
      l.spelling name = none ∧ ∃ o, o.name = name ∧ p = .fragment (.operator o) := by
  rw [«alias»]
  cases l.spelling name with
  | some s => simp
  | none =>
    simp only [true_and, Option.map_eq_some_iff, Operator.ofName?_eq_some, Except.error.injEq]
    exact exists_congr fun o => and_congr_right fun _ => eq_comm

theorem assemble_spelling (l : Language) (name : String) :
    l.assemble.spelling name =
      (Operator.ofName? name).bind fun o => l.fragment (.operator o) :=
  Operator.lookup_table (fun o => l.fragment (.operator o)) name

@[simp] theorem assemble_value (l : Language) (p : Property) :
    l.assemble.value p = l.value p := by
  cases p <;> rfl

theorem read_eq_ok {l : Language} {p : Property} {v : PropertyValue} :
    l.read p = .ok v ↔ l.value p = some v := by
  rw [read]
  cases l.value p <;> simp

theorem read_eq_error {l : Language} {p q : Property} :
    l.read p = .error q ↔ l.value p = none ∧ q = p := by
  rw [read]
  cases l.value p <;> simp [eq_comm]

theorem assemble_assemble (l : Language) : l.assemble.assemble = l.assemble := rfl

theorem value_set_self (l : Language) (s : Setting) :
    (l.set s).value s.property = s.value := by
  cases s <;> simp [set, value, Setting.property, Setting.value]

theorem value_set_of_ne (l : Language) (s : Setting) {p : Property} (h : p ≠ s.property) :
    (l.set s).value p = l.value p := by
  cases s <;> cases p <;> simp_all [set, value, Setting.property]

@[simp] theorem spellings_set (l : Language) (s : Setting) :
    (l.set s).spellings = l.spellings := by
  cases s <;> rfl

@[simp] theorem name_set (l : Language) (s : Setting) : (l.set s).name = l.name := by
  cases s <;> rfl

end Language

end Phrasebook
