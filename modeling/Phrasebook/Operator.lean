/-! The operators that operations are written with, by their names in generic commands. -/
namespace Phrasebook

inductive Operator where
  | conjunction
  | disjunction
  | negation
  | equalTo
  | notEqualTo
  | greaterThan
  | greaterThanOrEqualTo
  | lessThan
  | lessThanOrEqualTo
  | plus
  | minus
  | times
  | divideBy
  | modulo
  | equals
  | increaseBy
  | decreaseBy
deriving DecidableEq, Repr

namespace Operator

def all : List Operator :=
  [.conjunction, .disjunction, .negation, .equalTo, .notEqualTo, .greaterThan,
   .greaterThanOrEqualTo, .lessThan, .lessThanOrEqualTo, .plus, .minus, .times, .divideBy,
   .modulo, .equals, .increaseBy, .decreaseBy]

theorem mem_all (o : Operator) : o ∈ all := by
  cases o <;> simp [all]

def name : Operator → String
  | .conjunction => "and"
  | .disjunction => "or"
  | .negation => "not"
  | .equalTo => "equal to"
  | .notEqualTo => "not equal to"
  | .greaterThan => "greater than"
  | .greaterThanOrEqualTo => "greater than or equal to"
  | .lessThan => "less than"
  | .lessThanOrEqualTo => "less than or equal to"
  | .plus => "plus"
  | .minus => "minus"
  | .times => "times"
  | .divideBy => "divide by"
  | .modulo => "mod"
  | .equals => "equals"
  | .increaseBy => "increase by"
  | .decreaseBy => "decrease by"

def field : Operator → String
  | .conjunction => "and"
  | .disjunction => "or"
  | .negation => "not"
  | .equalTo => "equal_to"
  | .notEqualTo => "not_equal_to"
  | .greaterThan => "greater_than"
  | .greaterThanOrEqualTo => "greater_than_or_equal_to"
  | .lessThan => "less_than"
  | .lessThanOrEqualTo => "less_than_or_equal_to"
  | .plus => "plus"
  | .minus => "minus"
  | .times => "times"
  | .divideBy => "divide_by"
  | .modulo => "modulo"
  | .equals => "equals"
  | .increaseBy => "increase_by"
  | .decreaseBy => "decrease_by"

def ofName? (name : String) : Option Operator :=
  all.find? (·.name = name)

theorem ofName?_name (o : Operator) : ofName? o.name = some o := by
  cases o <;> rfl

theorem name_of_ofName? {name : String} {o : Operator} (h : ofName? name = some o) :
    o.name = name := by
  simpa using List.find?_some h

theorem ofName?_eq_some {name : String} {o : Operator} : ofName? name = some o ↔ o.name = name :=
  ⟨name_of_ofName?, fun h => h ▸ ofName?_name o⟩

theorem ofName?_eq_none {name : String} : ofName? name = none ↔ name ∉ all.map Operator.name := by
  simp [ofName?]

theorem name_injective {o p : Operator} (h : o.name = p.name) : o = p := by
  have hsome : some o = some p := by rw [← ofName?_name o, h, ofName?_name]
  exact Option.some.inj hsome

-- Keyed by the names, in the order of the operators; one without a spelling is left out.
def table (spell : Operator → Option String) : List (String × String) :=
  all.filterMap fun o => (spell o).map fun s => (o.name, s)

/-- In a table that is made operator by operator, each is found with what was made for it. -/
theorem lookup_filterMap (spell : Operator → Option String) (o : Operator) (os : List Operator) :
    (os.filterMap fun o => (spell o).map fun s => (o.name, s)).lookup o.name =
      if o ∈ os then spell o else none := by
  induction os with
  | nil => rfl
  | cons p os ih =>
    rw [List.filterMap_cons]
    by_cases hp : o = p
    · subst hp
      cases ho : spell o with
      | none => simpa [ho] using ih
      | some s => simp
    · have hbeq : (o.name == p.name) = false := by
        simpa using fun h => hp (name_injective h)
      cases spell p with
      | none => simpa [hp] using ih
      | some s => simpa [List.lookup_cons, hp, hbeq] using ih

theorem mem_table {spell : Operator → Option String} {name s : String} :
    (name, s) ∈ table spell ↔ ∃ o, o.name = name ∧ spell o = some s := by
  simp only [table, List.mem_filterMap, Option.map_eq_some_iff, Prod.mk.injEq]
  constructor
  · rintro ⟨o, -, _, ho, hname, rfl⟩
    exact ⟨o, hname, ho⟩
  · rintro ⟨o, hname, ho⟩
    exact ⟨o, o.mem_all, s, ho, hname, rfl⟩

/-- The table has just the names of operators, each with what is spelled for it. -/
theorem lookup_table (spell : Operator → Option String) (name : String) :
    (table spell).lookup name = (ofName? name).bind spell := by
  cases hname : ofName? name with
  | some o =>
    rw [← name_of_ofName? hname, table, lookup_filterMap, if_pos o.mem_all]
    rfl
  | none =>
    rw [Option.bind_none, List.lookup_eq_none_iff]
    rintro ⟨key, s⟩ hmem
    obtain ⟨o, rfl, -⟩ := mem_table.mp hmem
    have hne : name ≠ o.name := by
      rintro rfl
      simp [ofName?_name] at hname
    simpa using hne

theorem sublist_table (spell : Operator → Option String) :
    ((table spell).map Prod.fst).Sublist (all.map Operator.name) := by
  have hkey (o : Operator) : ((spell o).map fun s => (o.name, s)).map Prod.fst =
      (Option.guard (fun o => (spell o).isSome) o).map Operator.name := by
    cases ho : spell o <;> simp [Option.guard, ho]
  simp only [table, List.map_filterMap, hkey]
  rw [← List.map_filterMap, List.filterMap_eq_filter]
  exact List.filter_sublist.map _

end Operator

end Phrasebook
