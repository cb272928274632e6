import Phrasebook.Language.Definition
import Phrasebook.Proofs.Outcome
import Phrasebook.Proofs.Schema

/-! Definitions are read exactly. A document is refused unless each of its keys is a group or a
property with a value of its kind; if it is not refused, the language sets just what the document
has; and if it is, the fault is the first one in the order of the groups and of the keys. Each group
is read by a step of its own, from tables that contain one another; no step undoes an earlier one,
because a group is read before those nested in it. -/
namespace Phrasebook

def PropertyValue.written : PropertyValue → Toml.Value
  | .text t => .string t
  | .flag b => .boolean b
  | .style s => .string s.name

namespace Definition

open Toml

def valueAt : List String → Table → Option Value
  | [], t => some (.table t)
  | [key], t => t.lookup key
  | key :: keys, t =>
    match t.lookup key with
    | some (.table t) => valueAt keys t
    | _ => none

def valueOf (document : Table) (p : Property) : Option Value :=
  valueAt (p.group.path ++ [p.field]) document

def Ordered (t : Table) : Prop :=
  t.Pairwise fun x y => x.1 < y.1

/-- What is taken for granted of a document that has been decoded: its tables are in order, no
property is given a date, and what is given for the case style is a string, a whole number or a
truth value. -/
structure Decoded (document : Table) : Prop where
  root : Ordered document
  tables : ∀ (g : Group) t, valueAt g.path document = some (.table t) → Ordered t
  dates : ∀ p v, valueOf document p = some v → v.kind ≠ "datetime"
  style : ∀ v, valueOf document .importStyle = some v → v.kind ∈ ["string", "integer", "boolean"]

instance (t : Table) : Decidable (Ordered t) :=
  inferInstanceAs (Decidable (List.Pairwise _ t))

def orderedIfTable : Option Value → Bool
  | some (.table t) => decide (Ordered t)
  | _ => true

instance (document : Table) : Decidable (Decoded document) :=
  decidable_of_iff
    (Ordered document ∧ (Group.all.all fun g => orderedIfTable (valueAt g.path document)) = true ∧
      (Property.all.all fun p => (valueOf document p).all (·.kind ≠ "datetime")) = true ∧
      ((valueOf document .importStyle).all
        (["string", "integer", "boolean"].contains ·.kind)) = true) <| by
    simp only [List.all_eq_true, Option.all_eq_true, decide_eq_true_eq, List.contains_iff_mem]
    constructor
    · rintro ⟨hroot, htables, hdates, hstyle⟩
      refine ⟨hroot, fun g t ht => ?_, fun p => hdates p p.mem_all, hstyle⟩
      have htable := htables g g.mem_all
      rw [ht] at htable
      exact of_decide_eq_true htable
    · rintro ⟨hroot, htables, hdates, hstyle⟩
      refine ⟨hroot, fun g _ => ?_, fun p _ => hdates p, hstyle⟩
      cases hv : valueAt g.path document with
      | none => rfl
      | some v =>
        cases v with
        | table t => exact decide_eq_true (htables g t hv)
        | _ => rfl

def Suits : Property → Value → Prop
  | .fragment _, v => ∃ text, v = .string text
  | .policy _, v => ∃ b, v = .boolean b
  | .importStyle, v => ∃ style : CaseStyle, v = .string style.name

def EntryFine (g : Group) (entry : String × Value) : Prop :=
  entry.1 ∈ g.nested ∨ ∃ p : Property, p.group = g ∧ p.field = entry.1 ∧ Suits p entry.2

structure GroupFine (document : Table) (g : Group) : Prop where
  table : ∀ v, valueAt g.path document = some v → ∃ t, v = .table t
  entries : ∀ t, valueAt g.path document = some (.table t) → ∀ entry ∈ t, EntryFine g entry

structure WellFormed (document : Table) : Prop where
  keys : ∀ entry ∈ document, ∃ g : Group, g.path = [entry.1]
  groups : ∀ g, GroupFine document g

inductive ValueFault : Property → Value → DefinitionFault → Prop
  | notText {f : Fragment} {v : Value} (h : ∀ text, v ≠ .string text) :
      ValueFault (.fragment f) v (.notText f v)
  | notFlag {p : Policy} {v : Value} (h : ∀ b, v ≠ .boolean b) :
      ValueFault (.policy p) v (.notFlag p v)
  | unknownStyle {name : String} (h : ∀ style : CaseStyle, style.name ≠ name) :
      ValueFault .importStyle (.string name) (.notStyle (.unknownName name))
  | notStyle {v : Value} (h : ∀ name, v ≠ .string name) :
      ValueFault .importStyle v (.notStyle .notName)

inductive EntryFault (g : Group) : String × Value → DefinitionFault → Prop
  | unknownField {entry : String × Value} (h : ∀ p : Property, p.group = g → p.field ≠ entry.1) :
      EntryFault g entry (.unknownField g entry.1)
  | value {entry : String × Value} {p : Property} {fault : DefinitionFault} (group : p.group = g)
      (field : p.field = entry.1) (h : ValueFault p entry.2 fault) : EntryFault g entry fault

inductive GroupFault (document : Table) (g : Group) : DefinitionFault → Prop
  | notTable {v : Value} (found : valueAt g.path document = some v) (h : ∀ t, v ≠ .table t) :
      GroupFault document g (.notTable g v)
  | entry {t : Table} {entry : String × Value} {fault : DefinitionFault}
      (found : valueAt g.path document = some (.table t)) (mem : entry ∈ t)
      (own : entry.1 ∉ g.nested) (h : EntryFault g entry fault)
      (first : ∀ other ∈ t, other.1 < entry.1 → EntryFine g other) : GroupFault document g fault

/-- What is said of a document that is not well-formed: the smallest key that is no group, or else
the fault of the first group that is not fine. -/
inductive FirstFault (document : Table) : DefinitionFault → Prop
  | unknownGroup {entry : String × Value} (mem : entry ∈ document)
      (h : ∀ g : Group, g.path ≠ [entry.1])
      (first : ∀ other ∈ document, other.1 < entry.1 → ∃ g : Group, g.path = [other.1]) :
      FirstFault document (.unknownGroup entry.1)
  | group {g : Group} {fault : DefinitionFault}
      (keys : ∀ entry ∈ document, ∃ g : Group, g.path = [entry.1])
      (first : ∀ h, Group.all.idxOf h < Group.all.idxOf g → GroupFine document h)
      (h : GroupFault document g fault) (place : fault.place = Text.join "." g.path) :
      FirstFault document fault

/-- The language sets what the document has, each property to the value at its own place, and every
entry of the document is a group or is set. -/
structure Describes (name : String) (document : Table) (l : Language) : Prop where
  name : l.name = name
  values : ∀ p, (l.value p).map PropertyValue.written = valueOf document p
  spellings : l.spellings = Operator.table fun o => l.fragment (.operator o)
  used : ∀ (g : Group) t, valueAt g.path document = some (.table t) → ∀ entry ∈ t,
    (∃ h : Group, h.path = g.path ++ [entry.1]) ∨
      ∃ p : Property, p.group = g ∧ p.field = entry.1 ∧
        (l.value p).map PropertyValue.written = some entry.2

section Places

variable {document : Table} {g : Group} {fault : DefinitionFault}

theorem ValueFault.place_eq {p : Property} {v : Value} (h : ValueFault p v fault) :
    fault.place = p.groupPath := by
  cases h <;> rfl

theorem EntryFault.place_eq {entry : String × Value} (h : EntryFault g entry fault) :
    fault.place = Text.join "." g.path := by
  cases h with
  | unknownField _ => rfl
  | value group _ h => rw [h.place_eq, Property.groupPath, group]

/-- Whatever is wrong with a group is put down to its own table. -/
theorem GroupFault.place_eq (h : GroupFault document g fault) :
    fault.place = Text.join "." g.path := by
  cases h with
  | notTable _ _ => rfl
  | entry _ _ _ h _ => exact h.place_eq

end Places

section Tables

variable {t : Table} {key : String} {v : Value}

theorem mem_of_lookup (h : t.lookup key = some v) : (key, v) ∈ t := by
  obtain ⟨before, after, rfl, -⟩ := List.lookup_eq_some_iff.mp h
  simp

theorem Ordered.lookup (ht : Ordered t) {entry : String × Value} (h : entry ∈ t) :
    t.lookup entry.1 = some entry.2 := by
  obtain ⟨before, after, rfl⟩ := List.append_of_mem h
  refine List.lookup_eq_some_iff.mpr ⟨before, after, rfl, fun other hother => ?_⟩
  have hlt : other.1 < entry.1 := (List.pairwise_append.mp ht).2.2 other hother entry (by simp)
  rw [bne_iff_ne]
  intro heq
  rw [heq] at hlt
  exact String.lt_irrefl _ hlt

def entryAt (key : String) : Value → Option Value
  | .table t => t.lookup key
  | _ => none

def asTable : Option Value → Except Value (Option Table)
  | none => .ok none
  | some (.table t) => .ok (some t)
  | some v => .error v

theorem valueAt_concat (path : List String) (key : String) (t : Table) :
    valueAt (path ++ [key]) t = (valueAt path t).bind (entryAt key) := by
  induction path generalizing t with
  | nil => rfl
  | cons k path ih =>
    cases path with
    | nil =>
      simp only [List.cons_append, List.nil_append, valueAt]
      cases t.lookup k with
      | none => rfl
      | some v => cases v <;> rfl
    | cons k' path =>
      simp only [List.cons_append, valueAt] at ih ⊢
      cases t.lookup k with
      | none => rfl
      | some v =>
        cases v with
        | table t' => exact ih t'
        | _ => rfl

theorem tableAt_singleton (key : String) (t : Table) :
    tableAt [key] t = asTable (valueAt [key] t) := by
  simp only [tableAt, valueAt]
  cases t.lookup key with
  | none => rfl
  | some v => cases v <;> rfl

theorem tableAt_concat (path : List String) (key : String) (t : Table) :
    tableAt (path ++ [key]) t = tableAt path t >>= fun found =>
      match found with
      | none => .ok none
      | some t' => tableAt [key] t' := by
  induction path generalizing t with
  | nil => rfl
  | cons k path ih =>
    simp only [List.cons_append, tableAt]
    cases t.lookup k with
    | none => rfl
    | some v =>
      cases v with
      | table t' => exact ih t'
      | _ => rfl

/-- If nothing but a table is in the way, the table at a path is the value there, if it is one. -/
theorem tableAt_of_prefix {path : List String} {t : Table}
    (h : tableAt path t = asTable (valueAt path t))
    (htable : ∀ v, valueAt path t = some v → ∃ t', v = .table t') (key : String) :
    tableAt (path ++ [key]) t = asTable (valueAt (path ++ [key]) t) := by
  rw [tableAt_concat, valueAt_concat, h]
  cases hv : valueAt path t with
  | none => rfl
  | some v =>
    obtain ⟨t', rfl⟩ := htable v hv
    exact tableAt_singleton key t'

theorem valueAt_of_tableAt {path : List String} {t : Table} {found : Option Table}
    (h : tableAt path t = .ok found) : valueAt path t = found.map .table := by
  induction path generalizing t with
  | nil =>
    obtain rfl := Except.ok.inj h
    rfl
  | cons key path ih =>
    rw [tableAt] at h
    cases hkey : t.lookup key with
    | none =>
      rw [hkey] at h
      obtain rfl := Except.ok.inj h
      cases path <;> simp [valueAt, hkey]
    | some v =>
      rw [hkey] at h
      cases v with
      | table t' =>
        cases path with
        | nil =>
          obtain rfl := Except.ok.inj h
          simpa [valueAt] using hkey
        | cons next path => simpa [valueAt, hkey] using ih h
      | _ => cases h

end Tables

inductive Judges {α : Type} (fine : Prop) (fault : DefinitionFault → Prop) :
    Except DefinitionFault α → Prop
  | fine (h : fine) (a : α) : Judges fine fault (.ok a)
  | faulty {f : DefinitionFault} (hfine : ¬fine) (h : fault f) : Judges fine fault (.error f)

namespace Judges

variable {α β : Type} {fine fine' : Prop} {fault fault' : DefinitionFault → Prop}
  {outcome : Except DefinitionFault α}

theorem exists_ok_iff (h : Judges fine fault outcome) : (∃ a, outcome = .ok a) ↔ fine := by
  cases h with
  | fine h a => simp [h]
  | faulty hfine h => simp [hfine]

theorem of_eq_error (h : Judges fine fault outcome) {f : DefinitionFault}
    (hf : outcome = .error f) : ¬fine ∧ fault f := by
  cases h with
  | fine h a => cases hf
  | faulty hfine h =>
    obtain rfl := Except.error.inj hf
    exact ⟨hfine, h⟩

theorem congr (h : Judges fine fault outcome) (hfine : fine ↔ fine')
    (hfault : ∀ f, fault f → fault' f) : Judges fine' fault' outcome := by
  cases h with
  | fine h a => exact .fine (hfine.mp h) a
  | faulty hnot h => exact .faulty (fun h' => hnot (hfine.mpr h')) (hfault _ h)

theorem map (h : Judges fine fault outcome) (f : α → β) :
    Judges fine fault (outcome >>= fun a => pure (f a)) := by
  cases h with
  | fine h a => exact .fine h (f a)
  | faulty hnot h => exact .faulty hnot h

/-- A table that is in order is decoded entry by entry, and fails at the smallest key that is not
fine. -/
theorem mapM {t : Table} (ht : Ordered t) {f : String × Value → Except DefinitionFault α}
    {fine : String × Value → Prop} {fault : String × Value → DefinitionFault → Prop}
    (h : ∀ entry ∈ t, Judges (fine entry) (fault entry) (f entry)) :
    Judges (∀ entry ∈ t, fine entry)
      (fun x => ∃ entry ∈ t, fault entry x ∧ ∀ other ∈ t, other.1 < entry.1 → fine other)
      (t.mapM f) := by
  induction t with
  | nil => exact .fine (by simp) []
  | cons entry t ih =>
    rw [List.forall_mem_cons] at h
    obtain ⟨hless, ht⟩ := List.pairwise_cons.mp ht
    rw [List.mapM_cons]
    cases hentry : f entry with
    | error x =>
      obtain ⟨hnot, hsaid⟩ := h.1.of_eq_error hentry
      refine .faulty (fun hall => hnot (hall entry (by simp))) ⟨entry, by simp, hsaid, ?_⟩
      intro other hother hlt
      rcases List.mem_cons.mp hother with rfl | hmem
      · exact absurd hlt (String.lt_irrefl _)
      · exact absurd hlt (String.lt_asymm (hless other hmem))
    | ok a =>
      have hfine : fine entry := h.1.exists_ok_iff.mp ⟨a, hentry⟩
      refine ((ih ht h.2).map (a :: ·)).congr ?_ ?_
      · rw [List.forall_mem_cons]
        exact (and_iff_right hfine).symm
      · rintro x ⟨e, he, hsaid, hfirst⟩
        refine ⟨e, by simp [he], hsaid, fun other hother hlt => ?_⟩
        rcases List.mem_cons.mp hother with rfl | hmem
        · exact hfine
        · exact hfirst other hmem hlt

end Judges

section Entries

theorem styleNamed_name (style : CaseStyle) : styleNamed style.name = .ok style := by
  cases style <;> rfl

theorem styleNamed_eq_ok {name : String} {style : CaseStyle} (h : styleNamed name = .ok style) :
    style.name = name := by
  rw [styleNamed] at h
  cases hs : CaseStyle.ofName? name with
  | none => simp [hs] at h
  | some s =>
    obtain rfl : s = style := by simpa [hs] using h
    simpa using List.find?_some hs

theorem styleNamed_eq_error {name : String} {fault : StyleFault}
    (h : styleNamed name = .error fault) :
    (∀ style : CaseStyle, style.name ≠ name) ∧ fault = .unknownName name := by
  constructor
  · intro style hname
    rw [← hname, styleNamed_name] at h
    cases h
  · rw [styleNamed] at h
    cases hs : CaseStyle.ofName? name with
    | none => simpa [hs, eq_comm] using h
    | some s => simp [hs] at h

theorem judges_value {p : Property} {v : Value} (hdate : v.kind ≠ "datetime")
    (hstyle : p = .importStyle → v.kind ∈ ["string", "integer", "boolean"]) :
    Judges (Suits p v) (ValueFault p v) (decodeValue p v) := by
  cases p with
  | fragment f =>
    cases v with
    | string text => exact .fine ⟨text, rfl⟩ _
    | datetime text => exact absurd rfl hdate
    | _ => exact .faulty (by simp [Suits]) (.notText (by simp))
  | policy q =>
    cases v with
    | boolean b => exact .fine ⟨b, rfl⟩ _
    | _ => exact .faulty (by simp [Suits]) (.notFlag (by simp))
  | importStyle =>
    cases v with
    | string name =>
      rw [decodeValue, readStyle]
      cases hs : styleNamed name with
      | ok style => exact .fine ⟨style, by rw [styleNamed_eq_ok hs]⟩ _
      | error fault =>
        obtain ⟨hnone, rfl⟩ := styleNamed_eq_error hs
        refine .faulty ?_ (.unknownStyle hnone)
        intro hsuits
        obtain ⟨style, hname⟩ := hsuits
        exact hnone style (Value.string.inj hname).symm
    | integer n => exact .faulty (by simp [Suits]) (.notStyle (by simp))
    | boolean b => exact .faulty (by simp [Suits]) (.notStyle (by simp))
    | _ => exact absurd (hstyle rfl) (by simp [Value.kind])

theorem fieldOf?_eq_some {g : Group} {key : String} {p : Property} (h : fieldOf? g key = some p) :
    p.group = g ∧ p.field = key := by
  refine ⟨Group.group_of_mem p (List.mem_of_find?_eq_some h), ?_⟩
  simpa using List.find?_some h

theorem fieldOf?_eq_none {g : Group} {key : String} (h : fieldOf? g key = none) (p : Property)
    (hp : p.group = g) : p.field ≠ key := by
  have hmem : p ∈ g.properties := hp ▸ p.mem_properties
  simpa using List.find?_eq_none.mp h p hmem

theorem judges_entry {g : Group} {entry : String × Value} (hown : entry.1 ∉ g.nested)
    (hvalue : ∀ p : Property, p.group = g → p.field = entry.1 →
      Judges (Suits p entry.2) (ValueFault p entry.2) (decodeValue p entry.2)) :
    Judges (EntryFine g entry) (EntryFault g entry) (decodeEntry g entry) := by
  rw [decodeEntry]
  cases hfield : fieldOf? g entry.1 with
  | none =>
    have hnone := fieldOf?_eq_none hfield
    refine .faulty (fun hfine => ?_) (.unknownField hnone)
    rcases hfine with h | ⟨p, hp, hp', -⟩
    · exact hown h
    · exact hnone p hp hp'
  | some p =>
    obtain ⟨hp, hp'⟩ := fieldOf?_eq_some hfield
    refine (hvalue p hp hp').congr ⟨fun h => .inr ⟨p, hp, hp', h⟩, fun hfine => ?_⟩
      fun fault h => .value hp hp' h
    rcases hfine with h | ⟨q, hq, hq', hsuits⟩
    · exact absurd h hown
    · obtain rfl : p = q := Property.eq_of_field (hp.trans hq.symm) (hp'.trans hq'.symm)
      exact hsuits

theorem mem_ownEntries {g : Group} {t : Table} {entry : String × Value} :
    entry ∈ ownEntries g t ↔ entry ∈ t ∧ entry.1 ∉ g.nested := by
  simp [ownEntries]

theorem Ordered.ownEntries {t : Table} (ht : Ordered t) (g : Group) : Ordered (ownEntries g t) :=
  ht.filter _

end Entries

section Groups

variable {document : Table} {g : Group}

/-- Where every group before is fine, nothing but tables is on the way to a group. -/
theorem tableAt_path (h : ∀ g', Group.all.idxOf g' < Group.all.idxOf g → GroupFine document g') :
    tableAt g.path document = asTable (valueAt g.path document) := by
  have hclasses := tableAt_singleton "classes" document
  cases g with
  | generics => exact tableAt_of_prefix hclasses (h .classes (by decide)).table "generics"
  | members => exact tableAt_of_prefix hclasses (h .classes (by decide)).table "members"
  | memberVariables =>
    have hmembers := tableAt_of_prefix hclasses (h .classes (by decide)).table "members"
    exact tableAt_of_prefix hmembers (h .members (by decide)).table "variables"
  | _ => exact tableAt_singleton _ document

theorem valueOf_eq {t : Table} (ht : valueAt g.path document = some (.table t)) {p : Property}
    (hp : p.group = g) : valueOf document p = t.lookup p.field := by
  rw [valueOf, valueAt_concat, hp, ht]
  rfl

theorem table_of_valueOf {p : Property} {v : Value} (h : valueOf document p = some v) :
    ∃ t, valueAt p.group.path document = some (.table t) ∧ (p.field, v) ∈ t := by
  rw [valueOf, valueAt_concat] at h
  obtain ⟨found, hfound, hentry⟩ := Option.bind_eq_some_iff.mp h
  cases found with
  | table t => exact ⟨t, hfound, mem_of_lookup hentry⟩
  | _ => cases hentry

/-- The step for a group, where every group before it is fine. -/
theorem judges_group (hdoc : Decoded document)
    (h : ∀ g', Group.all.idxOf g' < Group.all.idxOf g → GroupFine document g') :
    Judges (GroupFine document g) (GroupFault document g) (generate document g) := by
  rw [generate, tableAt_path h]
  cases hv : valueAt g.path document with
  | none => exact .fine ⟨by simp [hv], by simp [hv]⟩ _
  | some v =>
    cases v with
    | table t =>
      have ht := hdoc.tables g t hv
      have hentries : ∀ entry ∈ ownEntries g t,
          Judges (EntryFine g entry) (EntryFault g entry) (decodeEntry g entry) := by
        intro entry hentry
        obtain ⟨hmem, hown⟩ := mem_ownEntries.mp hentry
        refine judges_entry hown fun p hp hfield => ?_
        have hvalue : valueOf document p = some entry.2 := by
          rw [valueOf_eq hv hp, hfield, ht.lookup hmem]
        refine judges_value (hdoc.dates p _ hvalue) fun hstyle => ?_
        rw [hstyle] at hvalue
        exact hdoc.style _ hvalue
      -- The entries that the step takes out are groups of their own, and so they are fine here.
      have hall {P : String × Value → Prop} (hfine : ∀ entry ∈ ownEntries g t, P entry →
          EntryFine g entry) : ∀ entry ∈ t, P entry → EntryFine g entry := by
        intro entry hentry hP
        by_cases hown : entry.1 ∈ g.nested
        · exact .inl hown
        · exact hfine entry (mem_ownEntries.mpr ⟨hentry, hown⟩) hP
      refine ((Judges.mapM (ht.ownEntries g) hentries).map _).congr ⟨fun hfine => ⟨?_, ?_⟩, ?_⟩ ?_
      · simp [hv]
      · intro t' ht' entry hentry
        obtain rfl : t = t' := by simpa [hv] using ht'
        exact hall (P := fun _ => True) (fun e he _ => hfine e he) entry hentry trivial
      · exact fun hfine entry hentry => hfine.entries t hv entry (mem_ownEntries.mp hentry).1
      · rintro fault ⟨entry, hentry, hsaid, hfirst⟩
        obtain ⟨hmem, hown⟩ := mem_ownEntries.mp hentry
        exact .entry hv hmem hown hsaid (hall hfirst)
    | _ =>
      refine .faulty (fun hfine => ?_) (.notTable hv (by simp))
      obtain ⟨t, ht⟩ := hfine.table _ hv
      cases ht

theorem mem_of_idxOf_lt {before after : List Group} {g g' : Group}
    (hall : Group.all = before ++ g :: after) (h : Group.all.idxOf g' < Group.all.idxOf g) :
    g' ∈ before := by
  by_contra hmem
  rw [hall, List.idxOf_append_of_notMem hmem] at h
  have hle : (before ++ g :: after).idxOf g ≤ before.length := by
    rw [List.idxOf_append]
    split
    · next hg => exact Nat.le_of_lt (List.idxOf_lt_length_of_mem hg)
    · simp
  omega

/-- The steps from some group on, where those before have found every group fine. -/
theorem judges_generateAll (hdoc : Decoded document) {before gs : List Group}
    (hall : Group.all = before ++ gs) (hbefore : ∀ g ∈ before, GroupFine document g)
    (l : Language) :
    Judges (∀ g ∈ gs, GroupFine document g)
      (fun fault => ∃ g, (∀ g', Group.all.idxOf g' < Group.all.idxOf g → GroupFine document g') ∧
        GroupFault document g fault)
      (generateAll document gs l) := by
  induction gs generalizing before l with
  | nil => exact .fine (by simp) l
  | cons g gs ih =>
    have hfirst : ∀ g', Group.all.idxOf g' < Group.all.idxOf g → GroupFine document g' :=
      fun g' hlt => hbefore g' (mem_of_idxOf_lt hall hlt)
    have hg := judges_group hdoc hfirst
    rw [generateAll]
    cases hstep : generate document g with
    | error fault =>
      obtain ⟨hnot, hsaid⟩ := hg.of_eq_error hstep
      exact .faulty (fun hfine => hnot (hfine g (by simp))) ⟨g, hfirst, hsaid⟩
    | ok record =>
      have hfine : GroupFine document g := hg.exists_ok_iff.mp ⟨record, hstep⟩
      have hbefore' : ∀ g' ∈ before ++ [g], GroupFine document g' := by
        simpa [or_imp, forall_and, hfine] using hbefore
      refine (ih (by simpa using hall) hbefore' (l.put record)).congr ?_ fun _ h => h
      rw [List.forall_mem_cons]
      exact (and_iff_right hfine).symm

theorem judges_checkGroups (hroot : Ordered document) :
    Judges (∀ entry ∈ document, ∃ g : Group, g.path = [entry.1]) (FirstFault document)
      (checkGroups document) := by
  have hany (entry : String × Value) :
      (!Group.all.any (·.path = [entry.1])) = true ↔ ∀ g : Group, g.path ≠ [entry.1] := by
    simp [Group.mem_all]
  rw [checkGroups]
  cases hfind : document.find? fun entry => !Group.all.any (·.path = [entry.1]) with
  | none =>
    refine .fine (fun entry hentry => ?_) ()
    have hnone := List.find?_eq_none.mp hfind entry hentry
    rw [hany] at hnone
    simpa using hnone
  | some entry =>
    obtain ⟨hnone, before, after, rfl, hbefore⟩ := List.find?_eq_some_iff_append.mp hfind
    rw [hany] at hnone
    refine .faulty (fun hfine => ?_) (.unknownGroup (by simp) hnone fun other hother hlt => ?_)
    · obtain ⟨g, hg⟩ := hfine entry (by simp)
      exact hnone g hg
    · have hmem : other ∈ before := by
        have hrest := (List.pairwise_cons.mp (List.pairwise_append.mp hroot).2.1).1
        rcases List.mem_append.mp hother with hmem | hmem
        · exact hmem
        · rcases List.mem_cons.mp hmem with rfl | hmem
          · exact absurd hlt (String.lt_irrefl _)
          · exact absurd hlt (String.lt_asymm (hrest other hmem))
      have hknown := hbefore other hmem
      rw [Bool.not_eq_true', ← Bool.not_eq_true, hany] at hknown
      simpa using hknown

end Groups

theorem field_notMem_nested (p : Property) : p.field ∉ p.group.nested := by
  have hall : Property.all.all fun p => !p.group.nested.contains p.field := by decide +kernel
  simpa using List.all_eq_true.mp hall p p.mem_all

def readAs : Property → Value → Option PropertyValue
  | .fragment _, v => (asText? v).map .text
  | .policy _, v => (asFlag? v).map .flag
  | .importStyle, v => (readStyle v).toOption.map .style

section Steps

variable {document t : Table} {g : Group} {l l' : Language} {p : Property} {record : GroupRecord}
  {fields : List Setting} {s : Setting}

theorem decodeValue_eq_ok {v : Value} (h : decodeValue p v = .ok s) :
    s.property = p ∧ s.value = readAs p v := by
  cases p with
  | fragment f =>
    rw [decodeValue] at h
    cases hv : asText? v with
    | none => simp [hv] at h
    | some text =>
      obtain rfl : Setting.fragment f (some text) = s := by simpa [hv] using h
      exact ⟨rfl, by simp [Setting.value, readAs, hv]⟩
  | policy q =>
    rw [decodeValue] at h
    cases hv : asFlag? v with
    | none => simp [hv] at h
    | some b =>
      obtain rfl : Setting.policy q (some b) = s := by simpa [hv] using h
      exact ⟨rfl, by simp [Setting.value, readAs, hv]⟩
  | importStyle =>
    rw [decodeValue] at h
    cases hv : readStyle v with
    | error fault => simp [hv] at h
    | ok style =>
      obtain rfl : Setting.importStyle (some style) = s := by simpa [hv] using h
      exact ⟨rfl, by simp [Setting.value, readAs, hv, Except.toOption]⟩

theorem decodeEntry_eq_ok {entry : String × Value} (h : decodeEntry g entry = .ok s) :
    s.property.group = g ∧ s.property.field = entry.1 ∧
      s.value = readAs s.property entry.2 := by
  rw [decodeEntry] at h
  cases hfield : fieldOf? g entry.1 with
  | none => simp [hfield] at h
  | some q =>
    obtain ⟨hgroup, hkey⟩ := fieldOf?_eq_some hfield
    obtain ⟨rfl, hvalue⟩ := decodeValue_eq_ok (by simpa [hfield] using h)
    exact ⟨hgroup, hkey, hvalue⟩

theorem group_of_mem_fields (h : t.mapM (decodeEntry g) = .ok fields) :
    ∀ s ∈ fields, s.property.group = g := by
  induction t generalizing fields with
  | nil =>
    obtain rfl := Except.ok.inj h
    simp
  | cons entry t ih =>
    rw [List.mapM_cons, bind_eq_ok] at h
    obtain ⟨s, hs, h⟩ := h
    obtain ⟨rest, hrest, h⟩ := bind_eq_ok.mp h
    obtain rfl := Except.ok.inj h
    exact List.forall_mem_cons.mpr ⟨(decodeEntry_eq_ok hs).1, ih hrest⟩

theorem value_foldr_set_of_ne (h : ∀ s ∈ fields, s.property ≠ p) :
    (fields.foldr (fun s l => l.set s) l).value p = l.value p := by
  induction fields with
  | nil => rfl
  | cons s fields ih =>
    rw [List.forall_mem_cons] at h
    rw [List.foldr_cons, Language.value_set_of_ne _ _ h.1.symm, ih h.2]

/-- The entries of a table set what the table has for a property of its group. -/
theorem value_foldr_set (h : t.mapM (decodeEntry g) = .ok fields) (hp : p.group = g)
    (hl : l.value p = none) :
    (fields.foldr (fun s l => l.set s) l).value p = (t.lookup p.field).bind (readAs p) := by
  induction t generalizing fields with
  | nil =>
    obtain rfl := Except.ok.inj h
    exact hl
  | cons entry t ih =>
    rw [List.mapM_cons, bind_eq_ok] at h
    obtain ⟨s, hs, h⟩ := h
    obtain ⟨rest, hrest, h⟩ := bind_eq_ok.mp h
    obtain rfl := Except.ok.inj h
    obtain ⟨hgroup, hkey, hvalue⟩ := decodeEntry_eq_ok hs
    rw [List.foldr_cons, List.lookup_cons]
    by_cases hsame : p = s.property
    · have hfound : (p.field == entry.1) = true := by rw [hsame, hkey, beq_self_eq_true]
      rw [hfound, hsame, Language.value_set_self, hvalue]
      rfl
    · have hother : (p.field == entry.1) = false := by
        rw [beq_eq_false_iff_ne, ← hkey]
        exact fun hfield => hsame (Property.eq_of_field (hp.trans hgroup.symm) hfield)
      rw [hother, Language.value_set_of_ne _ _ hsame, ih hrest]

theorem lookup_ownEntries {key : String} (hkey : key ∉ g.nested) :
    (ownEntries g t).lookup key = t.lookup key := by
  induction t with
  | nil => rfl
  | cons entry t ih =>
    by_cases hentry : key = entry.1
    · have hown : (!g.nested.contains entry.1) = true := by simpa [← hentry] using hkey
      rw [ownEntries, List.filter_cons, if_pos hown, List.lookup_cons, List.lookup_cons, hentry,
        beq_self_eq_true]
    · have hbeq : (key == entry.1) = false := by simpa using hentry
      rw [List.lookup_cons, hbeq, ← ih, ownEntries, List.filter_cons]
      split
      · rw [List.lookup_cons, hbeq]
        rfl
      · rfl

theorem holds_iff : g.holds p = true ↔ g.path <+: p.group.path :=
  List.isPrefixOf_iff_prefix

theorem value_reset (l : Language) (g : Group) (p : Property) :
    (l.reset g).value p = if g.holds p then none else l.value p := by
  cases p <;> simp only [Language.reset, Language.value] <;> split <;> rfl

/-- What a step comes to: nothing for a group that the document does not have, and otherwise the
entries of the group's table, decoded one by one. -/
theorem generate_eq_ok (h : generate document g = .ok record) :
    (valueAt g.path document = none ∧ record = ⟨g, []⟩) ∨
      ∃ t fields, valueAt g.path document = some (.table t) ∧
        (ownEntries g t).mapM (decodeEntry g) = .ok fields ∧ record = ⟨g, fields⟩ := by
  rw [generate] at h
  cases ht : tableAt g.path document with
  | error v => simp [ht] at h
  | ok found =>
    have hvalue := valueAt_of_tableAt ht
    cases found with
    | none =>
      obtain rfl : ⟨g, []⟩ = record := by simpa [ht] using h
      exact .inl ⟨hvalue, rfl⟩
    | some t =>
      rw [ht] at h
      obtain ⟨fields, hfields, h⟩ := bind_eq_ok.mp h
      obtain rfl := Except.ok.inj h
      exact .inr ⟨t, fields, hvalue, hfields, rfl⟩

/-- The step for its own group sets each property to what the document has at its place. -/
theorem value_put (h : generate document g = .ok record) (hp : p.group = g) :
    (l.put record).value p = (valueOf document p).bind (readAs p) := by
  have hreset : (l.reset g).value p = none := by
    rw [value_reset, if_pos (holds_iff.mpr (hp ▸ List.prefix_rfl))]
  rcases generate_eq_ok h with ⟨habsent, rfl⟩ | ⟨t, fields, ht, hfields, rfl⟩
  · rw [valueOf, valueAt_concat, hp, habsent]
    exact hreset
  · rw [Language.put, value_foldr_set hfields hp hreset, valueOf_eq ht hp,
      lookup_ownEntries (hp ▸ field_notMem_nested p)]

/-- All that is neither in the group nor in one nested in it stays as it is. -/
theorem value_put_of_not_holds (h : generate document g = .ok record) (hp : ¬g.holds p = true) :
    (l.put record).value p = l.value p := by
  have hne : p.group ≠ g := by
    rintro rfl
    exact hp (holds_iff.mpr List.prefix_rfl)
  have hreset : (l.reset g).value p = l.value p := by rw [value_reset, if_neg hp]
  rcases generate_eq_ok h with ⟨-, rfl⟩ | ⟨t, fields, -, hfields, rfl⟩
  · exact hreset
  · rw [Language.put, value_foldr_set_of_ne, hreset]
    rintro s hs rfl
    exact hne (group_of_mem_fields hfields s hs)

theorem name_put (l : Language) (record : GroupRecord) : (l.put record).name = l.name := by
  have hset (fields : List Setting) :
      (fields.foldr (fun s l => l.set s) (l.reset record.group)).name = l.name := by
    induction fields with
    | nil => rfl
    | cons s fields ih => rw [List.foldr_cons, Language.name_set, ih]
  exact hset record.fields

theorem generateAll_cons_eq_ok {gs : List Group} :
    generateAll document (g :: gs) l = .ok l' ↔
      ∃ record, generate document g = .ok record ∧
        generateAll document gs (l.put record) = .ok l' := by
  rw [generateAll, bind_eq_ok]

theorem name_generateAll {gs : List Group} (h : generateAll document gs l = .ok l') :
    l'.name = l.name := by
  induction gs generalizing l with
  | nil =>
    obtain rfl := Except.ok.inj h
    rfl
  | cons g gs ih =>
    obtain ⟨record, -, h⟩ := generateAll_cons_eq_ok.mp h
    rw [ih h, name_put]

theorem value_generateAll_of_not_holds {gs : List Group} (hp : ∀ g ∈ gs, ¬g.holds p = true)
    (h : generateAll document gs l = .ok l') : l'.value p = l.value p := by
  induction gs generalizing l with
  | nil =>
    obtain rfl := Except.ok.inj h
    rfl
  | cons g gs ih =>
    rw [List.forall_mem_cons] at hp
    obtain ⟨record, hstep, h⟩ := generateAll_cons_eq_ok.mp h
    rw [ih hp.2 h, value_put_of_not_holds hstep hp.1]

/-- After the steps each property of their groups is what the document has at its place. Later steps
do not undo this, as long as no group comes after one that is nested in it. -/
theorem value_generateAll {gs : List Group} (hgs : gs.Pairwise fun g h => ¬h.path <+: g.path)
    (hp : p.group ∈ gs) (h : generateAll document gs l = .ok l') :
    l'.value p = (valueOf document p).bind (readAs p) := by
  induction gs generalizing l with
  | nil => simp at hp
  | cons g gs ih =>
    obtain ⟨hlater, hgs⟩ := List.pairwise_cons.mp hgs
    obtain ⟨record, hstep, h⟩ := generateAll_cons_eq_ok.mp h
    by_cases hmem : p.group ∈ gs
    · exact ih hgs hmem h
    · have hown : p.group = g := (List.mem_cons.mp hp).resolve_right hmem
      have hkept : ∀ g' ∈ gs, ¬g'.holds p = true := fun g' hg' =>
        mt holds_iff.mp (hown ▸ hlater g' hg')
      rw [value_generateAll_of_not_holds hkept h, value_put hstep hown]

end Steps

section Languages

variable {document : Table} {name : String} {l : Language}

theorem Suits.read {p : Property} {v : Value} (h : Suits p v) :
    ∃ w, readAs p v = some w ∧ w.written = v := by
  cases p with
  | fragment f =>
    obtain ⟨text, rfl⟩ := h
    exact ⟨.text text, rfl, rfl⟩
  | policy q =>
    obtain ⟨b, rfl⟩ := h
    exact ⟨.flag b, rfl, rfl⟩
  | importStyle =>
    obtain ⟨style, rfl⟩ := h
    refine ⟨.style style, ?_, rfl⟩
    simp [readAs, readStyle, styleNamed_name, Except.toOption]

theorem path_of_mem_nested {g : Group} {key : String} (h : key ∈ g.nested) :
    ∃ g' : Group, g'.path = g.path ++ [key] := by
  cases g with
  | classes =>
    rcases List.mem_pair.mp h with rfl | rfl
    · exact ⟨.generics, rfl⟩
    · exact ⟨.members, rfl⟩
  | members =>
    obtain rfl := List.mem_singleton.mp h
    exact ⟨.memberVariables, rfl⟩
  | _ => simp [Group.nested] at h

/-- In a well-formed document whatever stands at the place of a property is of its kind. -/
theorem WellFormed.suits (h : WellFormed document) {p : Property} {v : Value}
    (hv : valueOf document p = some v) : Suits p v := by
  obtain ⟨t, ht, hmem⟩ := table_of_valueOf hv
  rcases (h.groups p.group).entries t ht _ hmem with hnested | ⟨q, hq, hq', hsuits⟩
  · exact absurd hnested (field_notMem_nested p)
  · obtain rfl : q = p := Property.eq_of_field hq hq'
    exact hsuits

theorem ofDocument_eq_ok : ofDocument name document = .ok l ↔
    checkGroups document = .ok () ∧
      ∃ l', generateAll document Group.all (.blank name) = .ok l' ∧ l'.assemble = l := by
  rw [ofDocument]
  cases checkGroups document with
  | error fault => simp [Except.map, Except.mapError, bind, Except.bind]
  | ok u =>
    cases generateAll document Group.all (.blank name) with
    | error fault => simp [Except.map, Except.mapError, bind, Except.bind]
    | ok l' => simp [Except.map, Except.mapError, bind, Except.bind]

theorem ofDocument_eq_error {e : LanguageError} (h : ofDocument name document = .error e) :
    ∃ fault, e = .invalidGroup name fault ∧
      (checkGroups document = .error fault ∨ checkGroups document = .ok () ∧
        generateAll document Group.all (.blank name) = .error fault) := by
  rw [ofDocument] at h
  cases hcheck : checkGroups document with
  | error fault =>
    rw [hcheck] at h
    exact ⟨fault, (Except.error.inj h).symm, .inl rfl⟩
  | ok u =>
    rw [hcheck] at h
    cases hall : generateAll document Group.all (.blank name) with
    | ok l' => simp [hall, Except.map, Except.mapError, bind, Except.bind] at h
    | error fault =>
      refine ⟨fault, ?_, .inr ⟨rfl, rfl⟩⟩
      simpa [hall, Except.map, Except.mapError, bind, Except.bind, eq_comm] using h

/-- No group is read before one that it is nested in, nor twice. -/
theorem pairwise_groups : Group.all.Pairwise fun g h => ¬h.path <+: g.path := by
  refine (Group.outer_first.and Group.nodup_all).imp fun {g h} hgh hprefix => ?_
  exact hgh.2 (hgh.1 hprefix).symm

theorem of_ofDocument (h : ofDocument name document = .ok l) :
    l.name = name ∧ l.assemble = l ∧ ∀ p, l.value p = (valueOf document p).bind (readAs p) := by
  obtain ⟨-, l', hl', rfl⟩ := ofDocument_eq_ok.mp h
  refine ⟨name_generateAll hl', Language.assemble_assemble _, fun p => ?_⟩
  rw [Language.assemble_value, value_generateAll pairwise_groups p.group.mem_all hl']

theorem exists_ofDocument_iff (hdoc : Decoded document) :
    (∃ l, ofDocument name document = .ok l) ↔ WellFormed document := by
  have hroot := (judges_checkGroups hdoc.root).exists_ok_iff
  have hgroups := (judges_generateAll hdoc (List.nil_append _).symm (by simp)
    (.blank name)).exists_ok_iff
  constructor
  · rintro ⟨l, hl⟩
    obtain ⟨hcheck, l', hl', -⟩ := ofDocument_eq_ok.mp hl
    exact ⟨hroot.mp ⟨(), hcheck⟩, fun g => hgroups.mp ⟨l', hl'⟩ g g.mem_all⟩
  · intro hfine
    obtain ⟨u, hcheck⟩ := hroot.mpr hfine.keys
    obtain ⟨l', hl'⟩ := hgroups.mpr fun g _ => hfine.groups g
    exact ⟨_, ofDocument_eq_ok.mpr ⟨hcheck, l', hl', rfl⟩⟩

theorem firstFault_of_ofDocument (hdoc : Decoded document) {e : LanguageError}
    (h : ofDocument name document = .error e) :
    ∃ fault, e = .invalidGroup name fault ∧ FirstFault document fault := by
  have hroot := judges_checkGroups hdoc.root
  obtain ⟨fault, rfl, hcheck | ⟨hcheck, hall⟩⟩ := ofDocument_eq_error h
  · exact ⟨fault, rfl, (hroot.of_eq_error hcheck).2⟩
  · obtain ⟨-, g, hfirst, hsaid⟩ :=
      (judges_generateAll hdoc (List.nil_append _).symm (by simp) _).of_eq_error hall
    exact ⟨fault, rfl, .group (hroot.exists_ok_iff.mp ⟨(), hcheck⟩) hfirst hsaid hsaid.place_eq⟩

theorem describes_of_ofDocument (hdoc : Decoded document) (h : ofDocument name document = .ok l) :
    Describes name document l := by
  have hfine : WellFormed document := (exists_ofDocument_iff hdoc).mp ⟨l, h⟩
  obtain ⟨hname, hassembled, hread⟩ := of_ofDocument h
  have hvalues (p : Property) : (l.value p).map PropertyValue.written = valueOf document p := by
    rw [hread]
    cases hv : valueOf document p with
    | none => rfl
    | some v =>
      obtain ⟨w, hw, hwritten⟩ := (hfine.suits hv).read
      rw [Option.bind_some, hw, Option.map_some, hwritten]
  refine ⟨hname, hvalues, Language.spellings_eq hassembled, fun g t ht entry hentry => ?_⟩
  rcases (hfine.groups g).entries t ht entry hentry with hnested | ⟨p, hp, hp', -⟩
  · exact .inl (path_of_mem_nested hnested)
  · refine .inr ⟨p, hp, hp', ?_⟩
    rw [hvalues, valueOf_eq ht hp, hp', (hdoc.tables g t ht).lookup hentry]

end Languages

/-- Whatever decodes its text, a definition makes a language exactly if its document is well-formed.
Then the language sets what the document has and nothing else, each property to the value at its own
place, and otherwise the error is the first fault of the document. -/
theorem ofToml_exact {decode : String → Option Table} {source : String} {document : Table}
    (hsource : decode source = some document) (h : Decoded document) (name : String) :
    ((∃ l, Language.ofToml decode name source = .ok l) ↔ WellFormed document) ∧
    (∀ l, Language.ofToml decode name source = .ok l → Describes name document l) ∧
    ∀ e, Language.ofToml decode name source = .error e →
      ∃ fault, e = .invalidGroup name fault ∧ FirstFault document fault := by
  rw [Language.ofToml, hsource]
  exact ⟨exists_ofDocument_iff h, fun l => describes_of_ofDocument h,
    fun e => firstFault_of_ofDocument h⟩

example : (Group.all.filter fun g => g.path.length = 1).length = 20 := rfl

/-- A document with groups in groups and a case style is read, the inner groups after the outer
ones; in the other one, which has a key too many and a number for a table besides, the number given
for a text comes first. -/
theorem ofToml_exact_sketch :
    let good : Table :=
      [("classes", .table [("define_start", .string "class "),
        ("generics", .table [("used", .boolean true)]),
        ("members", .table [("variables", .table [("access", .string ".")])])]),
       ("imports", .table [("case", .string "snake")])]
    let bad : Table :=
      [("comments", .table [("block_end", .integer 1), ("shape", .string "x")]),
       ("style", .integer 3)]
    let decode (source : String) : Option Table := if source = "good" then some good else some bad
    Decoded good ∧ Decoded bad ∧ WellFormed good ∧
    (∃ l, Language.ofToml decode "sketch" "good" = .ok l ∧ Describes "sketch" good l ∧
      l.fragment .classDefineStart = some "class " ∧ l.policy .genericUsed = some true ∧
      l.fragment .memberVariableAccess = some "." ∧ l.importStyle = some .snake) ∧
    ¬WellFormed bad ∧ FirstFault bad (.notText .commentBlockEnd (.integer 1)) := by
  intro good bad decode
  have hgood : Decoded good := by
    dsimp only [good]
    decide +kernel
  have hbad : Decoded bad := by
    dsimp only [bad]
    decide +kernel
  have hdecode : decode "good" = some good := rfl
  have hdecode' : decode "bad" = some bad := rfl
  have herror : Language.ofToml decode "sketch" "bad" =
      .error (.invalidGroup "sketch" (.notText .commentBlockEnd (.integer 1))) := by
    dsimp only [decode, bad]
    rfl
  obtain ⟨hwell, hdescribes, -⟩ := ofToml_exact hdecode hgood "sketch"
  obtain ⟨hwell', -, hfaults⟩ := ofToml_exact hdecode' hbad "sketch"
  obtain ⟨l, hl⟩ : ∃ l, Language.ofToml decode "sketch" "good" = .ok l ∧
      l.fragment .classDefineStart = some "class " ∧ l.policy .genericUsed = some true ∧
      l.fragment .memberVariableAccess = some "." ∧ l.importStyle = some .snake := by
    dsimp only [decode, good]
    exact ⟨_, rfl, rfl, rfl, rfl, rfl⟩
  have hill : ¬WellFormed bad := fun hfine => by
    obtain ⟨l', hl'⟩ := hwell'.mpr hfine
    rw [herror] at hl'
    cases hl'
  obtain ⟨fault, hfault, hfirst⟩ := hfaults _ herror
  obtain rfl := (LanguageError.invalidGroup.inj hfault).2
  exact ⟨hgood, hbad, hwell.mp ⟨l, hl.1⟩, ⟨l, hl.1, hdescribes l hl.1, hl.2⟩, hill, hfirst⟩

end Definition

end Phrasebook
