import Mathlib.Data.List.Flatten
import Mathlib.Data.List.Nodup
import Phrasebook.BuiltIn

/-! The schema of properties: each is listed once, in its own group, and known by its path. What a
language leaves unset is therefore a list without repetitions, from which setting a property takes
just that property away. -/
namespace Phrasebook

theorem Property.mem_properties (p : Property) : p ∈ p.group.properties := by
  cases p with
  | fragment f =>
    cases f with
    | operator o => exact List.mem_map_of_mem (Operator.mem_all o)
    | _ => decide
  | policy p => cases p <;> decide
  | importStyle => decide

theorem Group.group_of_mem {g : Group} : ∀ p ∈ g.properties, p.group = g := by
  cases g <;> decide

theorem Group.nodup_fields (g : Group) : (g.properties.map Property.field).Nodup := by
  cases g <;> decide

theorem Group.nodup_paths : (Group.all.map fun g => Text.join "." g.path).Nodup := by
  decide

theorem Group.nodup_all : Group.all.Nodup :=
  .of_map _ nodup_paths

/-- No group comes after one that is nested in it. -/
theorem Group.outer_first : Group.all.Pairwise fun g h => h.path <+: g.path → h = g := by
  decide

namespace Property

theorem mem_all (p : Property) : p ∈ all :=
  List.mem_flatMap.mpr ⟨p.group, Group.mem_all _, p.mem_properties⟩

theorem nodup_all : all.Nodup := by
  rw [all, List.nodup_flatMap]
  refine ⟨fun g _ => .of_map _ g.nodup_fields, ?_⟩
  refine Group.nodup_all.pairwise_of_forall_ne fun g _ h _ hne p hg hh => hne ?_
  rw [← Group.group_of_mem p hg, Group.group_of_mem p hh]

/-- The properties of a group come before those of the groups nested in it. -/
theorem own_first :
    all.Pairwise fun p q => q.group.path <+: p.group.path → q.group = p.group := by
  rw [all, List.pairwise_flatMap]
  constructor
  · intro g _
    apply List.pairwise_of_forall_mem_list
    intro p hp q hq _
    rw [Group.group_of_mem p hp, Group.group_of_mem q hq]
  · refine Group.outer_first.imp fun {g h} hgh p hp q hq => ?_
    rw [Group.group_of_mem p hp, Group.group_of_mem q hq]
    exact hgh

end Property

namespace Text

def bytes (text : String) : List UInt8 :=
  text.toByteArray.data.toList

theorem bytes_append (s t : String) : bytes (s ++ t) = bytes s ++ bytes t := by
  simp [bytes, String.toByteArray_append]

theorem bytes_injective : Function.Injective bytes := by
  intro s t h
  have hdata := Array.toList_inj.mp h
  exact String.toByteArray_inj.mp (ByteArray.ext hdata)

end Text

theorem split_at_last {α : Type} {d : α} {xs ys f g : List α} (hf : d ∉ f) (hg : d ∉ g)
    (h : xs ++ d :: f = ys ++ d :: g) : xs = ys ∧ f = g := by
  rcases List.append_eq_append_iff.mp h with ⟨as, rfl, has⟩ | ⟨bs, rfl, hbs⟩
  · cases as with
    | nil => simpa using has
    | cons a as =>
      obtain ⟨-, rfl⟩ := List.cons.inj has
      simp at hf
  · cases bs with
    | nil => simpa [eq_comm] using hbs
    | cons b bs =>
      obtain ⟨-, rfl⟩ := List.cons.inj hbs
      simp at hg

namespace Property

def dot : UInt8 := 46

theorem dot_notMem_field (p : Property) : dot ∉ Text.bytes p.field := by
  have hall : all.all fun p => !(Text.bytes p.field).contains dot := by decide +kernel
  simpa using List.all_eq_true.mp hall p p.mem_all

theorem bytes_path (p : Property) :
    Text.bytes p.path = Text.bytes p.groupPath ++ dot :: Text.bytes p.field := by
  rw [path, Text.bytes_append, Text.bytes_append, List.append_assoc]
  rfl

theorem eq_of_field {p q : Property} (hgroup : p.group = q.group) (hfield : p.field = q.field) :
    p = q := by
  have hq : q ∈ p.group.properties := hgroup ▸ q.mem_properties
  exact List.inj_on_of_nodup_map p.group.nodup_fields p.mem_properties hq hfield

/-- What stands after the last dot is the field, and what stands before it the group. -/
theorem path_injective : Function.Injective path := by
  intro p q h
  have hbytes : Text.bytes p.groupPath ++ dot :: Text.bytes p.field =
      Text.bytes q.groupPath ++ dot :: Text.bytes q.field := by
    rw [← bytes_path, ← bytes_path, h]
  obtain ⟨hgroup, hfield⟩ := split_at_last p.dot_notMem_field q.dot_notMem_field hbytes
  have hg : p.group = q.group :=
    List.inj_on_of_nodup_map Group.nodup_paths (Group.mem_all _) (Group.mem_all _)
      (Text.bytes_injective hgroup)
  exact eq_of_field hg (Text.bytes_injective hfield)

end Property

namespace Language

variable {l : Language}

theorem mem_unset {p : Property} : p ∈ l.unset ↔ l.value p = none := by
  simp [unset, Property.mem_all]

theorem spellings_eq (h : l.assemble = l) :
    l.spellings = Operator.table fun o => l.fragment (.operator o) :=
  congrArg spellings h.symm

theorem spelling_eq (h : l.assemble = l) (name : String) :
    l.spelling name = (Operator.ofName? name).bind fun o => l.fragment (.operator o) := by
  rw [← assemble_spelling, h]

theorem spelling_eq_some (h : l.assemble = l) {name text : String} :
    l.spelling name = some text ↔ ∃ o, o.name = name ∧ l.fragment (.operator o) = some text := by
  simp only [spelling_eq h, Option.bind_eq_some_iff, Operator.ofName?_eq_some]

/-- In a language that is assembled, an operator is written as its property says, and no other name
is known. -/
theorem alias_eq (h : l.assemble = l) (name : String) :
    l.alias name = (Operator.ofName? name).map fun o =>
      (l.fragment (.operator o)).elim (.error (.fragment (.operator o))) .ok := by
  rw [«alias», spelling_eq h]
  cases Operator.ofName? name with
  | none => rfl
  | some o =>
    rw [Option.bind_some, Option.map_some, Option.map_some]
    cases l.fragment (.operator o) <;> rfl

theorem nodup_unset (l : Language) : l.unset.Nodup :=
  Property.nodup_all.filter _

theorem validate_eq_ok : l.validate = .ok () ↔ l.unset = [] := by
  rw [validate]
  cases l.unset <;> simp

theorem validate_eq_error {e : LanguageError} :
    l.validate = .error e ↔ l.unset ≠ [] ∧ e = .incomplete l.name l.unset := by
  rw [validate]
  cases l.unset <;> simp [eq_comm]

theorem unset_eq_nil : l.unset = [] ↔ ∀ p, l.value p ≠ none := by
  simp only [List.eq_nil_iff_forall_not_mem, mem_unset, ne_eq]

theorem value_ne_none_of_validate (h : l.validate = .ok ()) (p : Property) : l.value p ≠ none :=
  unset_eq_nil.mp (validate_eq_ok.mp h) p

/-- Once a property is set and the language assembled again, all but that property are unset that
were unset before. -/
theorem unset_set_assemble (l : Language) {s : Setting} (hs : s.value ≠ none) :
    (l.set s).assemble.unset = l.unset.erase s.property := by
  rw [l.nodup_unset.erase_eq_filter, unset, unset, List.filter_filter]
  apply List.filter_congr
  intro p _
  rw [assemble_value]
  by_cases hp : p = s.property
  · obtain ⟨v, hv⟩ := Option.ne_none_iff_exists'.mp hs
    rw [hp, value_set_self, hv]
    simp
  · rw [value_set_of_ne l s hp]
    simp [hp]

end Language

theorem BuiltIn.validate_language (b : BuiltIn) : b.language.validate = .ok () := by
  have hset : b.language.unset = [] := by
    rw [Language.unset, List.filter_eq_nil_iff]
    intro p _
    cases p <;> simp [Language.value, BuiltIn.language, Language.assemble]
  rw [Language.validate, hset]

end Phrasebook
