import Phrasebook.BuiltIn
import Phrasebook.Proofs.Arity
import Phrasebook.Proofs.Evaluation

/-! Imports of several items. A language has a form for imports, and whether it has one does not
depend on what is imported. Where every item has a line of its own, the lines of several items are
those of each of them, one after another; elsewhere the items are imported as if they were one. -/
namespace Phrasebook

open Text Script Catalog

structure ImportForm where
  itemsFirst : Bool
  left : String
  middle : String
  right : String

def ImportForm.line (form : ImportForm) (package items : String) : String :=
  if form.itemsFirst then form.left ++ items ++ form.middle ++ package ++ form.right
  else form.left ++ package ++ form.middle ++ items ++ form.right

def ImportForm.rendering (form : ImportForm) (explicitly : Bool) (package : String)
    (items : List String) : Rendering :=
  if explicitly then ⟨items.map fun item => ⟨form.line package item, 0⟩, false⟩
  else .line (form.line package (join ", " items))

structure Language.WritesImports (l : Language) (form : ImportForm) : Prop where
  itemsFirst : l.policy .importItemsBeforePackage = some form.itemsFirst
  left : l.fragment .importLeft = some form.left
  middle : l.fragment .importMiddle = some form.middle
  right : l.fragment .importRight = some form.right

def Language.forImport {α : Type} (l : Language) (p : Property) (value : Option α) :
    Except RenderError α :=
  value.elim (.error (.incomplete l.name Command.importItems.name p)) .ok

def Language.importForm (l : Language) : Except RenderError ImportForm := do
  let flag (p : Policy) := l.forImport (.policy p) (l.policy p)
  let text (f : Fragment) := l.forImport (.fragment f) (l.fragment f)
  return ⟨← flag .importItemsBeforePackage, ← text .importLeft, ← text .importMiddle,
    ← text .importRight⟩

def Language.importPlan (l : Language) : Except RenderError (Bool × ImportForm) := do
  return (← l.forImport (.policy .importExplicitLines) (l.policy .importExplicitLines),
    ← l.importForm)

section Evaluation

variable {n : Nat} {l : Language} {given : List String}
  {help : (c : Command) → c.rank < n → List String → Except RenderError String}
  {items : List String}

theorem eval_importLine (package items : String) :
    (importLine package items : Script n String).eval l .importItems given help =
      l.importForm.map fun form => form.line package items := by
  simp only [importLine, Language.importForm, Language.forImport, eval_bind, eval_flag, eval_text,
    eval_ite, eval_phrase_cons, eval_phrase_nil, eval_pure]
  -- Whatever the order of package and items is, the properties are read in the same order.
  cases l.policy .importItemsBeforePackage with
  | none => rfl
  | some itemsFirst =>
    cases l.fragment .importLeft with
    | none => cases itemsFirst <;> rfl
    | some left =>
      cases l.fragment .importMiddle with
      | none => cases itemsFirst <;> rfl
      | some middle =>
        cases l.fragment .importRight with
        | none => cases itemsFirst <;> rfl
        | some right =>
          cases itemsFirst <;>
            simp [ImportForm.line, Except.map, pure, Except.pure, String.append_assoc]

/-- The loop over the items fails at the first of them or not at all. -/
theorem eval_importLines (package : String) (h : items ≠ []) :
    (importLines package items : Script n (List Line)).eval l .importItems given help =
      l.importForm.map fun form => items.map fun item => ⟨form.line package item, 0⟩ := by
  cases hform : l.importForm with
  | error e =>
    obtain ⟨item, rest, rfl⟩ := List.exists_cons_of_ne_nil h
    rw [importLines, eval_bind, eval_importLine, hform]
    rfl
  | ok form =>
    clear h
    induction items with
    | nil => rfl
    | cons item items ih => simp [importLines, eval_importLine, hform, ih, Except.map]

end Evaluation

section Runs

variable {l : Language} {items : List String} {form : ImportForm} {explicitly : Bool}
  {e : RenderError}

/-- The items make no difference to what is read of the language, and to whether it can be read. -/
theorem run_importItems (package : String) (h : items ≠ []) :
    Command.importItems.run l (package :: items) =
      l.importPlan.map fun plan => plan.2.rendering plan.1 package items := by
  have hcheck : Command.importItems.signature.check (package :: items).length = .ok () := by
    rw [Signature.check_eq_ok Command.importItems.regular, List.length_cons, Nat.add_comm,
      ← Nat.mul_one items.length]
    exact .cons (.required rfl) (Command.fills_atLeastOne (List.length_pos_iff.mpr h))
  have hscript : script .importItems = importItems := rfl
  rw [Command.run_of_check hcheck, hscript]
  simp only [importItems, eval_bind, eval_arg, eval_args, eval_flag, eval_ite, eval_importLine,
    eval_importLines package h, eval_pure, ok_bind, List.getD_cons_zero, List.drop_one,
    List.tail_cons, Language.importPlan, Language.forImport]
  cases l.policy .importExplicitLines with
  | none => rfl
  | some explicitly => cases explicitly <;> cases l.importForm <;> rfl

theorem importForm_eq_ok : l.importForm = .ok form ↔ l.WritesImports form := by
  simp only [Language.importForm, Language.forImport, bind_eq_ok, elim_eq_ok]
  constructor
  · rintro ⟨_, hfirst, _, hleft, _, hmiddle, _, hright, h⟩
    obtain rfl := Except.ok.inj h
    exact ⟨hfirst, hleft, hmiddle, hright⟩
  · rintro ⟨hfirst, hleft, hmiddle, hright⟩
    exact ⟨_, hfirst, _, hleft, _, hmiddle, _, hright, rfl⟩

theorem importPlan_eq_ok : l.importPlan = .ok (explicitly, form) ↔
    l.policy .importExplicitLines = some explicitly ∧ l.importForm = .ok form := by
  simp only [Language.importPlan, Language.forImport, bind_eq_ok, elim_eq_ok]
  constructor
  · rintro ⟨_, hlines, _, hform, h⟩
    obtain ⟨rfl, rfl⟩ := Prod.mk.inj (Except.ok.inj h)
    exact ⟨hlines, hform⟩
  · rintro ⟨hlines, hform⟩
    exact ⟨_, hlines, _, hform, rfl⟩

theorem unset_of_forImport {α : Type} {p : Property} {value : Option α}
    (hvalue : value = none → l.value p = none) (h : l.forImport p value = .error e) :
    ∃ p, l.value p = none ∧ e = .incomplete l.name "import" p := by
  cases value with
  | some a => cases h
  | none => exact ⟨p, hvalue rfl, (Except.error.inj h).symm⟩

/-- There is no plan only if one of the properties for imports is not set. -/
theorem importPlan_eq_error (h : l.importPlan = .error e) :
    ∃ p, l.value p = none ∧ e = .incomplete l.name "import" p := by
  have hflag (p : Policy) (hp : l.policy p = none) : l.value (.policy p) = none := by
    rw [Language.value, hp, Option.map_none]
  have htext (f : Fragment) (hf : l.fragment f = none) : l.value (.fragment f) = none := by
    rw [Language.value, hf, Option.map_none]
  simp only [Language.importPlan, Language.importForm, bind_eq_error] at h
  rcases h with h | ⟨_, -, (h | ⟨_, -, h | ⟨_, -, h | ⟨_, -, h | ⟨_, -, h⟩⟩⟩⟩) | ⟨_, -, h⟩⟩
  · exact unset_of_forImport (hflag _) h
  · exact unset_of_forImport (hflag _) h
  · exact unset_of_forImport (htext _) h
  · exact unset_of_forImport (htext _) h
  · exact unset_of_forImport (htext _) h
  · cases h
  · cases h

theorem lineCount_rendering (explicitly : Bool) (package : String) (items : List String) :
    (form.rendering explicitly package items).lineCount =
      if explicitly then items.length else 1 := by
  cases explicitly with
  | true => simp [ImportForm.rendering, Rendering.lineCount, Line.isMarker, List.filter_map]
  | false =>
    simp [ImportForm.rendering, Rendering.lineCount, Line.isMarker, Rendering.line,
      Rendering.single]

/-- Where every item has an import of its own, the imports of several items are those of each. -/
theorem run_importItems_explicit (package : String) (h : items ≠ [])
    (hlines : l.policy .importExplicitLines = some true) :
    Command.importItems.run l (package :: items) =
      (items.mapM fun item => Command.importItems.run l [package, item]).map
        fun rs => ⟨rs.flatMap (·.lines), false⟩ := by
  have hsingle (item : String) : Command.importItems.run l [package, item] =
      l.importPlan.map fun plan => plan.2.rendering plan.1 package [item] :=
    run_importItems package (List.cons_ne_nil item [])
  simp only [run_importItems package h, hsingle]
  cases hplan : l.importPlan with
  | error e =>
    obtain ⟨item, rest, rfl⟩ := List.exists_cons_of_ne_nil h
    rw [List.mapM_cons]
    rfl
  | ok plan =>
    obtain ⟨explicitly, form⟩ := plan
    obtain rfl : explicitly = true := by
      simpa [hlines] using (importPlan_eq_ok.mp hplan).1.symm
    have hall : (items.mapM fun item =>
        (.ok (form.rendering true package [item]) : Except RenderError Rendering)) =
        .ok (items.map fun item => form.rendering true package [item]) :=
      List.mapM_pure
    simp only [Except.map]
    rw [hall]
    simp only [ImportForm.rendering, if_true, List.flatMap_map, List.map_cons, List.map_nil]
    rw [List.map_eq_flatMap]

/-- Elsewhere several items are imported as one, which is all of them with commas in between. -/
theorem run_importItems_joined (package : String) (h : items ≠ [])
    (hlines : l.policy .importExplicitLines = some false) :
    Command.importItems.run l (package :: items) =
      Command.importItems.run l [package, join ", " items] := by
  rw [run_importItems package h, run_importItems package (List.cons_ne_nil _ [])]
  cases hplan : l.importPlan with
  | error e => rfl
  | ok plan =>
    obtain ⟨explicitly, form⟩ := plan
    obtain rfl : explicitly = false := by
      simpa [hlines] using (importPlan_eq_ok.mp hplan).1.symm
    rfl

theorem run_importItems_eq_ok (package : String) (h : items ≠ []) {r : Rendering} :
    Command.importItems.run l (package :: items) = .ok r ↔
      ∃ explicitly form, l.policy .importExplicitLines = some explicitly ∧
        l.importForm = .ok form ∧ form.rendering explicitly package items = r := by
  simp only [run_importItems package h, map_eq_ok, Prod.exists, importPlan_eq_ok, and_assoc]

end Runs

/-- Imports of several items come to this. Where each item has a line of its own, they are the
imports of the items one by one, in order, and each line has the package and one item in the order
that the language asks for. Elsewhere they are one import of the items with commas between them,
and one line. Whether they fail, and with what, does not depend on the items: a property that the
language does not set is missing for one item already. -/
theorem run_import_each (l : Language) (package : String) {items : List String}
    (h : items ≠ []) :
    (l.policy .importExplicitLines = some true →
      Command.importItems.run l (package :: items) =
        (items.mapM fun item => Command.importItems.run l [package, item]).map
          (fun rs => ⟨rs.flatMap (·.lines), false⟩) ∧
      ∀ r, Command.importItems.run l (package :: items) = .ok r →
        r.lineCount = items.length ∧ ∃ form : ImportForm, l.WritesImports form ∧
          r.lines = items.map fun item => ⟨form.line package item, 0⟩) ∧
    (l.policy .importExplicitLines = some false →
      Command.importItems.run l (package :: items) =
        Command.importItems.run l [package, join ", " items] ∧
      ∀ r, Command.importItems.run l (package :: items) = .ok r →
        r.lineCount = 1 ∧ ∃ form : ImportForm, l.WritesImports form ∧
          r.lines = [⟨form.line package (join ", " items), 0⟩]) ∧
    (∀ item e, Command.importItems.run l (package :: items) = .error e ↔
      Command.importItems.run l [package, item] = .error e) ∧
    ∀ e, Command.importItems.run l (package :: items) = .error e →
      ∃ p, l.value p = none ∧ e = .incomplete l.name "import" p := by
  refine ⟨fun hlines => ⟨run_importItems_explicit package h hlines, fun r hr => ?_⟩,
    fun hlines => ⟨run_importItems_joined package h hlines, fun r hr => ?_⟩,
    fun item e => ?_, fun e he => ?_⟩
  · obtain ⟨explicitly, form, hexplicitly, hform, rfl⟩ := (run_importItems_eq_ok package h).mp hr
    obtain rfl : explicitly = true := by simpa [hlines] using hexplicitly.symm
    exact ⟨lineCount_rendering true package items, form, importForm_eq_ok.mp hform, rfl⟩
  · obtain ⟨explicitly, form, hexplicitly, hform, rfl⟩ := (run_importItems_eq_ok package h).mp hr
    obtain rfl : explicitly = false := by simpa [hlines] using hexplicitly.symm
    exact ⟨lineCount_rendering false package items, form, importForm_eq_ok.mp hform, rfl⟩
  · rw [run_importItems package h, run_importItems package (List.cons_ne_nil item []), map_eq_error,
      map_eq_error]
  · rw [run_importItems package h, map_eq_error] at he
    exact importPlan_eq_error he

/-- Lines without any text are lines nevertheless, and there is one for each item. In a language
that joins the items, two of them are imported in one line, as if they were one. -/
theorem run_import_each_empty :
    let form : ImportForm := ⟨true, "", "", ""⟩
    let l := [Setting.policy .importExplicitLines (some true),
      .policy .importItemsBeforePackage (some form.itemsFirst),
      .fragment .importLeft (some form.left), .fragment .importMiddle (some form.middle),
      .fragment .importRight (some form.right)].foldl Language.set (.blank "sketch")
    let python := BuiltIn.python.language
    Command.importItems.run l ["", "", "Math"] = .ok ⟨[⟨"", 0⟩, ⟨"Math", 0⟩], false⟩ ∧
    Rendering.lineCount ⟨[⟨"", 0⟩, ⟨"Math", 0⟩], false⟩ = 2 ∧
    Command.importItems.run (l.set (.fragment .importMiddle none)) ["", "", "Math"] =
      .error (.incomplete "sketch" "import" (.fragment .importMiddle)) ∧
    Command.importItems.run python ["os", "path", "sep"] = .ok (.line "from os import path, sep") ∧
    Rendering.lineCount (.line "from os import path, sep") = 1 := by
  intro form l python
  have hrun : Command.importItems.run l ["", "", "Math"] =
      .ok ⟨[⟨"", 0⟩, ⟨"Math", 0⟩], false⟩ := rfl
  have hsingle : Command.importItems.run (l.set (.fragment .importMiddle none)) ["", ""] =
      .error (.incomplete "sketch" "import" (.fragment .importMiddle)) := rfl
  have hone : Command.importItems.run python ["os", "path, sep"] =
      .ok (.line "from os import path, sep") := rfl
  have hlines : l.policy .importExplicitLines = some true := rfl
  have hjoins : python.policy .importExplicitLines = some false := rfl
  obtain ⟨hexplicit, -⟩ := run_import_each l "" (List.cons_ne_nil "" ["Math"])
  obtain ⟨-, -, herror, -⟩ := run_import_each (l.set (.fragment .importMiddle none)) ""
    (List.cons_ne_nil "" ["Math"])
  obtain ⟨-, hjoined, -⟩ := run_import_each python "os" (List.cons_ne_nil "path" ["sep"])
  have hboth := (hjoined hjoins).1.trans hone
  exact ⟨hrun, ((hexplicit hlines).2 _ hrun).1, (herror "" _).mpr hsingle, hboth,
    ((hjoined hjoins).2 _ hboth).1⟩

end Phrasebook
