import Phrasebook.Layout
import Phrasebook.Proofs.Profile
import Phrasebook.Proofs.Progress

/-! Balance of a unit, which can be told from its commands alone. Layout keeps a level beside the
lines it has written, and the level goes by the changes that the signatures declare, whatever the
language makes of them. -/
namespace Phrasebook

def Dips (ds : List Int) : Prop :=
  ∃ k, total (ds.take k) < 0

def changeLevel (level d : Int) : Option Int :=
  if level + d < 0 then none else some (level + d)

def levelAfter? (start : Int) (ds : List Int) : Option Int :=
  ds.foldlM changeLevel start

def commandsOf (us : List Invocation) : List Command :=
  us.filterMap fun i => Command.ofName? i.name

def declared (us : List Invocation) : List Int :=
  (commandsOf us).flatMap (·.signature.indentation)

section Levels

theorem levelAfter?_append (start : Int) (ds es : List Int) :
    levelAfter? start (ds ++ es) = (levelAfter? start ds).bind fun level => levelAfter? level es :=
  List.foldlM_append

theorem levelAfter?_cons (start d : Int) (ds : List Int) :
    levelAfter? start (d :: ds) = (changeLevel start d).bind fun level => levelAfter? level ds :=
  List.foldlM_cons

theorem changeLevel_eq_some {level d after : Int} :
    changeLevel level d = some after ↔ 0 ≤ after ∧ after = level + d := by
  rw [changeLevel]
  split
  · simp only [reduceCtorEq, false_iff]
    omega
  · simp only [Option.some.injEq]
    omega

theorem levelAfter?_eq_some {start after : Int} {ds : List Int} (hs : 0 ≤ start)
    (h : levelAfter? start ds = some after) : 0 ≤ after ∧ after = start + total ds := by
  induction ds generalizing start with
  | nil =>
    obtain rfl : start = after := by simpa [levelAfter?] using h
    exact ⟨hs, by simp⟩
  | cons d ds ih =>
    rw [levelAfter?_cons] at h
    obtain ⟨level, hlevel, hrest⟩ := Option.bind_eq_some_iff.mp h
    obtain ⟨hnonneg, hsum⟩ := changeLevel_eq_some.mp hlevel
    obtain ⟨hafter, heq⟩ := ih hnonneg hrest
    rw [total_cons]
    exact ⟨hafter, by omega⟩

/-- The level falls below zero exactly if some of the changes from the first on do so together. -/
theorem levelAfter?_eq_none {start : Int} (hs : 0 ≤ start) (ds : List Int) :
    levelAfter? start ds = none ↔ ∃ k, start + total (ds.take k) < 0 := by
  induction ds generalizing start with
  | nil =>
    have hnil : ¬start + total [] < 0 := by
      simp only [total_nil]
      omega
    simpa [levelAfter?] using hnil
  | cons d ds ih =>
    rw [levelAfter?_cons, changeLevel]
    by_cases hd : start + d < 0
    · simp only [hd, if_true, Option.bind_none, true_iff]
      refine ⟨1, ?_⟩
      simp only [List.take_succ_cons, List.take_zero, total_cons]
      simpa using hd
    · simp only [hd, if_false, Option.bind_some]
      rw [ih (by omega)]
      constructor
      · intro h
        obtain ⟨k, hk⟩ := h
        refine ⟨k + 1, ?_⟩
        rw [List.take_succ_cons, total_cons]
        omega
      · intro h
        obtain ⟨k, hk⟩ := h
        cases k with
        | zero =>
          simp only [List.take_zero, total_nil] at hk
          omega
        | succ k =>
          rw [List.take_succ_cons, total_cons] at hk
          exact ⟨k, by omega⟩

theorem levelAfter?_zero_eq_none (ds : List Int) : levelAfter? 0 ds = none ↔ Dips ds := by
  rw [levelAfter?_eq_none (Int.le_refl 0), Dips]
  simp only [Int.zero_add]

instance (ds : List Int) : Decidable (Dips ds) :=
  decidable_of_iff _ (levelAfter?_zero_eq_none ds)

/-- Lines that keep the level do not matter to it. -/
theorem levelAfter?_changes {start : Int} (hs : 0 ≤ start) (ls : List Line) :
    levelAfter? start (changes ls) = levelAfter? start (ls.map (·.delta)) := by
  induction ls generalizing start with
  | nil => rfl
  | cons l ls ih =>
    rw [changes_cons, List.map_cons, levelAfter?_cons]
    by_cases hd : l.delta = 0
    · have hsame : changeLevel start 0 = some start := changeLevel_eq_some.mpr ⟨hs, by omega⟩
      rw [if_pos hd, hd, hsame]
      exact ih hs
    · rw [if_neg hd, levelAfter?_cons]
      cases hlevel : changeLevel start l.delta with
      | none => rfl
      | some level => exact ih (changeLevel_eq_some.mp hlevel).1

end Levels

inductive Follows : Except RenderError Page → Option Int → Prop
  | page (page : Page) : Follows (.ok page) (some page.level)
  | unbalanced (line : Nat) : Follows (.error (.unbalanced line)) none

namespace Follows

variable {outcome : Except RenderError Page} {level : Option Int}

theorem eq_ok (h : Follows outcome level) (hlevel : level ≠ none) :
    ∃ page, outcome = .ok page ∧ level = some page.level := by
  cases h with
  | page page => exact ⟨page, rfl, rfl⟩
  | unbalanced line => exact absurd rfl hlevel

theorem eq_error (h : Follows outcome level) (hlevel : level = none) :
    ∃ line, outcome = .error (.unbalanced line) := by
  cases h with
  | page page => cases hlevel
  | unbalanced line => exact ⟨line, rfl⟩

theorem level_eq {page : Page} (h : Follows (.ok page) level) : level = some page.level := by
  cases h with
  | page => rfl

theorem bind {f : Page → Except RenderError Page} {g : Int → Option Int}
    (h : Follows outcome level)
    (hf : ∀ page, level = some page.level → Follows (f page) (g page.level)) :
    Follows (outcome >>= f) (level.bind g) := by
  cases h with
  | page page => exact hf page rfl
  | unbalanced line => exact .unbalanced line

end Follows

/-- If every step follows its changes, a run follows those of all its steps. -/
theorem follows_foldlM {α : Type} {f : Page → α → Except RenderError Page} {δ : α → List Int}
    {as : List α} (hf : ∀ a ∈ as, ∀ page : Page, 0 ≤ page.level →
      Follows (f page a) (levelAfter? page.level (δ a))) {page : Page} (hpage : 0 ≤ page.level) :
    Follows (as.foldlM f page) (levelAfter? page.level (as.flatMap δ)) := by
  induction as generalizing page with
  | nil => exact .page page
  | cons a as ih =>
    rw [List.forall_mem_cons] at hf
    rw [List.foldlM_cons, List.flatMap_cons, levelAfter?_append]
    refine (hf.1 page hpage).bind fun next hnext => ?_
    exact ih hf.2 (levelAfter?_eq_some hpage hnext).1

theorem follows_place (unit : String) (page : Page) (l : Line) :
    Follows (page.place unit l) (levelAfter? page.level [l.delta]) := by
  have hone : levelAfter? page.level [l.delta] = changeLevel page.level l.delta := by
    rw [levelAfter?_cons]
    exact Option.bind_fun_some _
  rw [hone, Page.place, changeLevel]
  split
  · exact .unbalanced _
  · exact .page _

theorem map_delta_terminate (ending : String) (ls : List Line) :
    (terminate ending ls).map (·.delta) = ls.map (·.delta) := by
  induction ls with
  | nil => rfl
  | cons l ls ih =>
    rw [terminate]
    split
    · rw [List.map_cons, List.map_cons, ih]
    · rfl

theorem Command.ofName?_eq_some {name : String} {c : Command} :
    ofName? name = some c ↔ c.name = Text.trim name := by
  rw [← named_eq_ok, named]
  cases ofName? name <;> simp

/-- A rendered invocation names a command, and changes the level as the command declares. -/
theorem changes_of_render {l : Language} {i : Invocation} {r : Rendering}
    (h : i.render l = .ok r) : changes r.lines = declared [i] := by
  rw [Invocation.render, perform_eq_ok] at h
  obtain ⟨-, c, hname, texts, -, hrun⟩ := h
  have hc : Command.ofName? i.name = some c := Command.ofName?_eq_some.mpr hname
  have hdeclared : declared [i] = c.signature.indentation := by
    simp [declared, commandsOf, hc]
  rw [hdeclared, c.indentation_eq, (run_shape hrun).changes_eq]

theorem follows_add {l : Language} {i : Invocation} {r : Rendering} {ending : String}
    (hr : i.render l = .ok r) (he : terminator l i r = .ok ending) (unit : String) {page : Page}
    (hpage : 0 ≤ page.level) :
    Follows (Page.add l unit page i) (levelAfter? page.level (declared [i])) := by
  have hadd : Page.add l unit page i =
      (terminate ending r.lines).foldlM (Page.place unit) page := by
    rw [Page.add, hr, ok_bind, he, ok_bind]
  have hdeltas : (terminate ending r.lines).flatMap (fun line => [line.delta]) =
      r.lines.map (·.delta) := by
    rw [← List.map_eq_flatMap, map_delta_terminate]
  have hrun := follows_foldlM (fun line (_ : line ∈ terminate ending r.lines) page _ =>
    follows_place unit page line) hpage
  rwa [hdeltas, ← levelAfter?_changes hpage, changes_of_render hr, ← hadd] at hrun

theorem flatMap_declared (us : List Invocation) :
    us.flatMap (fun i => declared [i]) = declared us := by
  induction us with
  | nil => rfl
  | cons i us ih =>
    rw [List.flatMap_cons, ih]
    cases hc : Command.ofName? i.name <;> simp [declared, commandsOf, hc]

structure Language.Renders (l : Language) (us : List Invocation) : Prop where
  indentation : ∃ unit, l.fragment .generalIndentation = some unit
  semicolon : ∃ ending, l.fragment .styleSemicolon = some ending
  invocations : ∀ i ∈ us, ∃ r, i.render l = .ok r

def Unbalanced (l : Language) (us : List Invocation) : Prop :=
  ∃ line, renderUnit l us = .error (.unbalanced line)

theorem Language.Renders.terminator {l : Language} {us : List Invocation} (h : l.Renders us)
    (i : Invocation) (r : Rendering) : ∃ ending, terminator l i r = .ok ending := by
  obtain ⟨semicolon, hs⟩ := h.semicolon
  by_cases hr : r.isStatement = true
  · exact ⟨semicolon, by rw [Phrasebook.terminator, if_pos hr, hs]⟩
  · exact ⟨"", by rw [Phrasebook.terminator, if_neg hr]⟩

theorem Language.Renders.follows {l : Language} {us : List Invocation} (h : l.Renders us)
    {unit : String} {page : Page} (hpage : 0 ≤ page.level) :
    Follows (us.foldlM (Page.add l unit) page) (levelAfter? page.level (declared us)) := by
  rw [← flatMap_declared]
  refine follows_foldlM (fun i hi page hpage => ?_) hpage
  obtain ⟨r, hr⟩ := h.invocations i hi
  obtain ⟨ending, he⟩ := h.terminator i r
  exact follows_add hr he unit hpage

theorem renderUnit_eq {l : Language} {unit : String}
    (h : l.fragment .generalIndentation = some unit) (us : List Invocation) :
    renderUnit l us = (us.foldlM (Page.add l unit) Page.start).map Page.lines := by
  rw [renderUnit, h]
  simp only
  cases us.foldlM (Page.add l unit) Page.start <;> rfl

/-- The verdict goes by what the commands declare, in which the language has no part. -/
theorem Language.Renders.verdict {l : Language} {us : List Invocation} (h : l.Renders us) :
    (Unbalanced l us ↔ Dips (declared us)) ∧
      ((∃ lines, renderUnit l us = .ok lines) ↔ ¬Dips (declared us)) := by
  obtain ⟨unit, hunit⟩ := h.indentation
  have hrun : Follows (us.foldlM (Page.add l unit) Page.start) (levelAfter? 0 (declared us)) :=
    h.follows (Int.le_refl 0)
  rw [← levelAfter?_zero_eq_none, Unbalanced, renderUnit_eq hunit]
  by_cases hlevel : levelAfter? 0 (declared us) = none
  · obtain ⟨line, hline⟩ := hrun.eq_error hlevel
    simp [hline, hlevel, Except.map]
  · obtain ⟨page, hpage, -⟩ := hrun.eq_ok hlevel
    simp [hpage, hlevel, Except.map]

/-- Where every invocation of a unit renders, the unit is unbalanced exactly if the changes that its
commands declare fall below zero somewhere, and is written otherwise. Hence any two languages agree
on it, however they write the blocks. -/
theorem renderUnit_balance (us : List Invocation) :
    (∀ l : Language, l.Renders us →
      (Unbalanced l us ↔ ∃ k, total ((declared us).take k) < 0) ∧
      ((¬∃ k, total ((declared us).take k) < 0) → ∃ lines, renderUnit l us = .ok lines)) ∧
    ∀ l m : Language, l.Renders us → m.Renders us →
      (Unbalanced l us ↔ Unbalanced m us) ∧
      ((∃ lines, renderUnit l us = .ok lines) ↔ ∃ lines, renderUnit m us = .ok lines) := by
  refine ⟨fun l hl => ⟨hl.verdict.1, hl.verdict.2.mpr⟩, fun l m hl hm => ⟨?_, ?_⟩⟩
  · rw [hl.verdict.1, hm.verdict.1]
  · rw [hl.verdict.2, hm.verdict.2]

/-- A branch with an alternative is balanced and one end more is not: with braces on lines of their
own, and with blocks that have no end at all. -/
theorem renderUnit_balance_branch :
    let us : List Invocation :=
      [⟨"if start", [.literal "x"]⟩, ⟨"print", [.literal "y"]⟩, ⟨"else start", []⟩, ⟨"if end", []⟩]
    let vs : List Invocation := us ++ [⟨"if end", []⟩]
    declared vs = [1, -1, 1, -1, -1] ∧
    BuiltIn.csharp.language.Renders vs ∧ BuiltIn.python.language.Renders vs ∧
    (∃ lines, renderUnit BuiltIn.python.language us = .ok lines) ∧
    Unbalanced BuiltIn.csharp.language vs ∧ Unbalanced BuiltIn.python.language vs := by
  intro us vs
  have hdeclared : declared vs = [1, -1, 1, -1, -1] := by
    dsimp only [vs, us]
    rfl
  have hcsharp : BuiltIn.csharp.language.Renders vs := by
    refine ⟨⟨_, rfl⟩, ⟨_, rfl⟩, ?_⟩
    simp only [vs, us, List.cons_append, List.nil_append, List.forall_mem_cons]
    exact ⟨⟨_, rfl⟩, ⟨_, rfl⟩, ⟨_, rfl⟩, ⟨_, rfl⟩, ⟨_, rfl⟩, nofun⟩
  have hpython : BuiltIn.python.language.Renders vs := by
    refine ⟨⟨_, rfl⟩, ⟨_, rfl⟩, ?_⟩
    simp only [vs, us, List.cons_append, List.nil_append, List.forall_mem_cons]
    exact ⟨⟨_, rfl⟩, ⟨_, rfl⟩, ⟨_, rfl⟩, ⟨_, rfl⟩, ⟨_, rfl⟩, nofun⟩
  have hbranch : BuiltIn.python.language.Renders us :=
    ⟨hpython.indentation, hpython.semicolon,
      fun i hi => hpython.invocations i (List.mem_append_left _ hi)⟩
  have hdips : ∃ k, total ((declared vs).take k) < 0 := by
    rw [hdeclared]
    exact ⟨5, by decide⟩
  have hlevel : ¬Dips (declared us) := by
    dsimp only [us]
    decide
  have hunbalanced : Unbalanced BuiltIn.csharp.language vs :=
    ((renderUnit_balance vs).1 _ hcsharp).1.mpr hdips
  refine ⟨hdeclared, hcsharp, hpython, ?_, hunbalanced, ?_⟩
  · exact ((renderUnit_balance us).1 _ hbranch).2 hlevel
  · exact (((renderUnit_balance vs).2 _ _ hcsharp hpython).1).mp hunbalanced

end Phrasebook
