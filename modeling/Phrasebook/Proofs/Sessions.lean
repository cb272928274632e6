import Phrasebook.Proofs.Definition

/-! Sessions: a language is begun, defined or built in, and from then on properties are written and
the language is assembled, in any order. What a property reads as is what was written to it last,
and an operator is spelled as its property was when the language was last assembled. The main
statements say so of every session. -/
namespace Phrasebook

inductive Origin where
  | blank (name : String)
  | definition (name : String) (document : Toml.Table) (l : Language)
      (h : Definition.ofDocument name document = .ok l)
  | builtIn (b : BuiltIn)

def BuiltIn.value (b : BuiltIn) : Property → PropertyValue
  | .fragment f => .text (fragment f b)
  | .policy p => .flag (policy p b)
  | .importStyle => .style (importStyle b)

namespace Origin

def language : Origin → Language
  | .blank name => .blank name
  | .definition _ _ l _ => l
  | .builtIn b => b.language

def given : Origin → Property → Option PropertyValue
  | .blank _, _ => none
  | .definition _ document _ _, p =>
    (Definition.valueOf document p).bind (Definition.readAs p)
  | .builtIn b, p => some (b.value p)

end Origin

inductive Session where
  | start (o : Origin)
  | write (before : Session) (s : Setting)
  | assemble (before : Session)

namespace Session

def language : Session → Language
  | start o => o.language
  | write before s => before.language.set s
  | assemble before => before.language.assemble

def written : Session → Property → Option PropertyValue
  | start o, p => o.given p
  | write before s, p => if p = s.property then s.value else before.written p
  | assemble before, p => before.written p

/-- The session up to its last assembly. All but the blank languages come assembled. -/
def lastAssembly : Session → Option Session
  | start (.blank _) => none
  | start o => some (start o)
  | write before _ => before.lastAssembly
  | assemble before => some before

def held (s : Session) (o : Operator) : Option String :=
  s.lastAssembly.bind fun before => before.language.fragment (.operator o)

end Session

theorem Origin.value_language (o : Origin) (p : Property) : o.language.value p = o.given p := by
  cases o with
  | blank name => cases p <;> rfl
  | builtIn b => cases p <;> rfl
  | definition name document l h =>
    obtain ⟨-, -, hvalue⟩ := Definition.of_ofDocument h
    exact hvalue p

namespace Session

theorem value_language (s : Session) (p : Property) : s.language.value p = s.written p := by
  induction s with
  | start o => exact o.value_language p
  | assemble before ih => exact (before.language.assemble_value p).trans ih
  | write before t ih =>
    rw [language, written]
    by_cases hp : p = t.property
    · rw [if_pos hp, hp, Language.value_set_self]
    · rw [if_neg hp, Language.value_set_of_ne _ _ hp, ih]

/-- The table of spellings is the one that was made at the last assembly. -/
theorem spellings_language (s : Session) : s.language.spellings = Operator.table s.held := by
  induction s with
  | assemble before => rfl
  | write before t ih => exact (before.language.spellings_set t).trans ih
  | start o =>
    cases o with
    | blank name => rfl
    | builtIn b => rfl
    | definition name document l h =>
      obtain ⟨-, hassembled, -⟩ := Definition.of_ofDocument h
      exact congrArg Language.spellings hassembled.symm

theorem spelling_language (s : Session) (name : String) :
    s.language.spelling name = (Operator.ofName? name).bind s.held := by
  rw [Language.spelling, spellings_language, Operator.lookup_table]

/-- Only the operators have entries in the table. -/
theorem spelling_language_eq_some (s : Session) (name text : String) :
    s.language.spelling name = some text ↔ ∃ o, o.name = name ∧ s.held o = some text := by
  simp only [spelling_language, Option.bind_eq_some_iff, Operator.ofName?_eq_some]

theorem spelling_language_name (s : Session) (o : Operator) :
    s.language.spelling o.name = s.held o := by
  rw [spelling_language, Operator.ofName?_name, Option.bind_some]

theorem alias_assemble (s : Session) (o : Operator) :
    (s.assemble.language.alias o.name).map (Except.map PropertyValue.text) =
      some (s.assemble.language.read (.fragment (.operator o))) := by
  rw [language, Language.alias_eq (Language.assemble_assemble _), Operator.ofName?_name,
    Option.map_some, Option.map_some, Language.read, Language.assemble_value, Language.value,
    Language.assemble]
  cases s.language.fragment (.operator o) <;> rfl

theorem alias_language_eq_none (s : Session) {name : String} :
    s.language.alias name = none ↔ name ∉ Operator.all.map Operator.name := by
  rw [Language.alias_eq_none, and_iff_right_iff_imp]
  intro hname
  rw [spelling_language, Operator.ofName?_eq_none.mpr hname, Option.bind_none]

/-- In every session, a name has an alias if it is the name of an operator. The alias is what the
property of that operator held at the last assembly, whatever has been written to it since; if it
held nothing, or there has been no assembly, the property is reported. The table keeps the order of
the operators, a second assembly changes nothing, and right after an assembly the aliases are what
the properties read as. -/
theorem alias_at_last_assembly (s : Session) (name : String) :
    (s.language.alias name = none ↔ name ∉ Operator.all.map Operator.name) ∧
    (∀ text, s.language.alias name = some (.ok text) ↔
      ∃ o, o.name = name ∧ s.held o = some text) ∧
    (∀ p, s.language.alias name = some (.error p) ↔
      ∃ o, o.name = name ∧ s.held o = none ∧ p = .fragment (.operator o) ∧
        p.groupPath = "operators" ∧ p.field = o.field) ∧
    (∀ o text, (o.name, text) ∈ s.language.spellings ↔ s.held o = some text) ∧
    (s.language.spellings.map Prod.fst).Sublist (Operator.all.map Operator.name) ∧
    s.assemble.assemble.language = s.assemble.language ∧
    ∀ o, (s.assemble.language.alias o.name).map (Except.map PropertyValue.text) =
      some (s.assemble.language.read (.fragment (.operator o))) := by
  refine ⟨s.alias_language_eq_none, fun text => ?_, fun p => ?_, fun o text => ?_, ?_,
    Language.assemble_assemble _, s.alias_assemble⟩
  · rw [Language.alias_eq_ok, spelling_language_eq_some]
  · rw [Language.alias_eq_error, ← exists_and_left]
    refine exists_congr fun o => ?_
    constructor
    · rintro ⟨hnone, rfl, rfl⟩
      exact ⟨rfl, (s.spelling_language_name o).symm.trans hnone, rfl, rfl, rfl⟩
    · rintro ⟨rfl, hnone, rfl, -⟩
      exact ⟨(s.spelling_language_name o).trans hnone, rfl, rfl⟩
  · rw [spellings_language, Operator.mem_table]
    constructor
    · rintro ⟨o', hname, htext⟩
      exact Operator.name_injective hname ▸ htext
    · exact fun htext => ⟨o, rfl, htext⟩
  · rw [spellings_language]
    exact Operator.sublist_table s.held

theorem read_write_of_ne (s : Session) (t : Setting) {p : Property} (h : p ≠ t.property) :
    (s.write t).language.read p = s.language.read p := by
  rw [Language.read, Language.read, language, Language.value_set_of_ne _ _ h]

/-- In every session, the unset properties are listed once each and in the order of the schema,
where the properties of a group come before those of the groups nested in it. They are those that
cannot be read, each of which is reported by its own path; the others read as what was written to
them last. A language is complete if all of them can be read, and otherwise all that cannot are
reported. To write one property changes no other one, nor the table of spellings. -/
theorem unset_iff_unreadable (s : Session) :
    ((s.language.unset.map Property.path).Nodup ∧ s.language.unset.Sublist Property.all ∧
      s.language.unset.Pairwise fun p q => q.group.path <+: p.group.path → q.group = p.group) ∧
    (∀ p q, s.language.read p = .error q ↔
      p.path ∈ s.language.unset.map Property.path ∧ q.path = p.path) ∧
    (∀ p v, s.language.read p = .ok v ↔ s.written p = some v) ∧
    (s.language.validate = .ok () ↔ ∀ p, ∃ v, s.language.read p = .ok v) ∧
    (∀ e, s.language.validate = .error e ↔ (∃ p q, s.language.read p = .error q) ∧
      e = .incomplete s.language.name s.language.unset) ∧
    ∀ t, (∀ p, p.path ≠ t.property.path → (s.write t).language.read p = s.language.read p) ∧
      (s.write t).language.spellings = s.language.spellings := by
  have hnodup : (s.language.unset.map Property.path).Nodup :=
    s.language.nodup_unset.map Property.path_injective
  have hsublist : s.language.unset.Sublist Property.all := List.filter_sublist
  have hread (p v) : s.language.read p = .ok v ↔ s.written p = some v := by
    rw [Language.read_eq_ok, value_language]
  have hunread (p q) : s.language.read p = .error q ↔
      p.path ∈ s.language.unset.map Property.path ∧ q.path = p.path := by
    rw [Language.read_eq_error, ← Language.mem_unset,
      List.mem_map_of_injective Property.path_injective, Property.path_injective.eq_iff]
  refine ⟨⟨hnodup, hsublist, Property.own_first.sublist hsublist⟩, hunread, hread, ?_, ?_, ?_⟩
  · simp only [Language.validate_eq_ok, Language.unset_eq_nil, Language.read_eq_ok,
      Option.ne_none_iff_exists']
  · intro e
    have hsome : s.language.unset ≠ [] ↔ ∃ p q, s.language.read p = .error q := by
      simp [Language.read_eq_error, Language.unset_eq_nil]
    rw [Language.validate_eq_error, hsome]
  · intro t
    refine ⟨fun p hp => s.read_write_of_ne t ?_, s.language.spellings_set t⟩
    rintro rfl
    exact hp rfl

/-- A text is written, assembled and unset again; an empty one counts as set. -/
example :
    let plus : Fragment := .operator .plus
    let s := ((Session.start (.blank "sketch")).write (.fragment plus (some " + "))).assemble
    let t := (s.write (.fragment plus none)).write (.fragment .styleSemicolon (some ""))
    t.language.alias "plus" = some (.ok " + ") ∧ t.held .plus = some " + " ∧
      t.language.read (.fragment plus) = .error (.fragment plus) ∧
      t.language.read (.fragment .styleSemicolon) = .ok (.text "") :=
  ⟨rfl, rfl, rfl, rfl⟩

end Session

end Phrasebook
