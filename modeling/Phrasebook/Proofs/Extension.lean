import Phrasebook.Layout
import Phrasebook.Proofs.Outcome
import Phrasebook.Proofs.Schema
import Phrasebook.Proofs.Tree

/-! Languages of which one sets more than the other. An outcome under the smaller one either stands
under the larger one too, or it is an error that names a property which the smaller one lacks. -/
namespace Phrasebook

def Language.Extends (m l : Language) : Prop :=
  ∀ p v, l.value p = some v → m.value p = some v

namespace Language.Extends

variable {l m : Language}

theorem refl (l : Language) : l.Extends l :=
  fun _ _ h => h

theorem of_unset (l : Language) {s : Setting} (hs : s.value = none) :
    l.Extends (l.set s).assemble := by
  intro p v hv
  rw [assemble_value] at hv
  by_cases hp : p = s.property
  · rw [hp, value_set_self, hs] at hv
    cases hv
  · rwa [value_set_of_ne l s hp] at hv

theorem fragment (h : m.Extends l) {f : Fragment} {t : String} (ht : l.fragment f = some t) :
    m.fragment f = some t := by
  simpa [value] using h (.fragment f) (.text t) (by simp [value, ht])

theorem policy (h : m.Extends l) {p : Policy} {b : Bool} (hb : l.policy p = some b) :
    m.policy p = some b := by
  simpa [value] using h (.policy p) (.flag b) (by simp [value, hb])

theorem importStyle (h : m.Extends l) {s : CaseStyle} (hs : l.importStyle = some s) :
    m.importStyle = some s := by
  simpa [value] using h .importStyle (.style s) (by simp [value, hs])

end Language.Extends

namespace RenderError

def Settled (e : RenderError) : Prop :=
  ∀ language reader p, e.rootCause ≠ .incomplete language reader p

def Lacking (l : Language) (e : RenderError) : Prop :=
  ∃ reader, ∃ p ∈ l.unset, e.rootCause = .incomplete l.name reader p

theorem Lacking.not_settled {l : Language} {e : RenderError} (h : e.Lacking l) : ¬e.Settled := by
  obtain ⟨reader, p, -, he⟩ := h
  exact fun hs => hs _ _ _ he

end RenderError

/-- How an outcome under a language goes with the one under a language that extends it. -/
inductive Carries (l : Language) {α : Type} :
    Except RenderError α → Except RenderError α → Prop
  | ok (a : α) : Carries l (.ok a) (.ok a)
  | settled {e : RenderError} (h : e.Settled) : Carries l (.error e) (.error e)
  | lacking {e : RenderError} (h : e.Lacking l) (y : Except RenderError α) :
      Carries l (.error e) y

namespace Carries

variable {l m : Language} {α β γ : Type} {x y : Except RenderError α}

theorem eq_ok (h : Carries l x y) {a : α} (hx : x = .ok a) : y = .ok a := by
  cases h with
  | ok b => exact hx
  | settled _ => cases hx
  | lacking _ _ => cases hx

theorem eq_error (h : Carries l x y) {e : RenderError} (hx : x = .error e) :
    e.Settled ∧ y = .error e ∨ e.Lacking l := by
  cases h with
  | ok b => cases hx
  | settled he =>
    cases hx
    exact .inl ⟨he, rfl⟩
  | lacking he _ =>
    cases hx
    exact .inr he

theorem bind {f g : α → Except RenderError β} (h : Carries l x y)
    (hfg : ∀ a, Carries l (f a) (g a)) : Carries l (x >>= f) (y >>= g) := by
  cases h with
  | ok a => exact hfg a
  | settled h => exact .settled h
  | lacking h y => exact .lacking h _

theorem map (f : α → β) (h : Carries l x y) : Carries l (x.map f) (y.map f) := by
  cases h with
  | ok a => exact .ok (f a)
  | settled h => exact .settled h
  | lacking h y => exact .lacking h _

theorem nested (c : Command) (position : Nat) (h : Carries l x y) :
    Carries l (x.mapError (.nested c position)) (y.mapError (.nested c position)) := by
  cases h with
  | ok a => exact .ok a
  | settled h => exact .settled h
  | lacking h y => exact .lacking (e := .nested c position _) h _

theorem unset {p : Property} (hp : l.value p = none) (reader : String)
    (y : Except RenderError α) : Carries l (.error (.incomplete l.name reader p)) y :=
  .lacking ⟨reader, p, Language.mem_unset.mpr hp, rfl⟩ y

theorem foldlM {f g : β → α → Except RenderError β} (h : ∀ b a, Carries l (f b a) (g b a))
    (as : List α) (b : β) : Carries l (as.foldlM f b) (as.foldlM g b) := by
  induction as generalizing b with
  | nil => exact .ok b
  | cons a as ih => exact (h b a).bind ih

end Carries

theorem Script.eval_compose {n : Nat} {α : Type} {l : Language} {reader : Command}
    {given : List String}
    {help : (c : Command) → c.rank < n → List String → Except RenderError String} {c : Command}
    {lower : c.rank < n} {as : List String} {next : String → Script n α} :
    (compose c lower as next).eval l reader given help =
      help c lower as >>= fun t => (next t).eval l reader given help := by
  rw [Script.eval]
  cases help c lower as <;> rfl

section

variable {l m : Language} (hl : l.assemble = l) (hm : m.assemble = m) (h : m.Extends l)
include hl hm h

theorem carries_eval {n : Nat} {α : Type} {reader : Command} {given : List String}
    {help help' : (c : Command) → c.rank < n → List String → Except RenderError String}
    (hhelp : ∀ c lower as, Carries l (help c lower as) (help' c lower as)) (s : Script n α) :
    Carries l (s.eval l reader given help) (s.eval m reader given help') := by
  induction s with
  | done a => exact .ok a
  | refuse v word => exact .settled nofun
  | argument i next ih => exact ih _
  | optional i next ih => exact ih _
  | arguments i next ih => exact ih _
  | pairs i next ih => exact ih _
  | fragment f next ih =>
    rw [Script.eval, Script.eval]
    cases hf : l.fragment f with
    | none => exact .unset (by simp [Language.value, hf]) _ _
    | some t =>
      rw [h.fragment hf]
      exact ih t
  | policy p next ih =>
    rw [Script.eval, Script.eval]
    cases hp : l.policy p with
    | none => exact .unset (by simp [Language.value, hp]) _ _
    | some b =>
      rw [h.policy hp]
      exact ih b
  | importStyle next ih =>
    rw [Script.eval, Script.eval]
    cases hs : l.importStyle with
    | none => exact .unset (by simp [Language.value, hs]) _ _
    | some s =>
      rw [h.importStyle hs]
      exact ih s
  | spelling name next ih =>
    -- Both languages are assembled, so that a spelling is a fragment under another name.
    rw [Script.eval, Script.eval, Language.alias_eq hl, Language.alias_eq hm]
    cases Operator.ofName? name with
    | none => exact ih none
    | some o =>
      cases hf : l.fragment (.operator o) with
      | none =>
        have hunset : l.value (.fragment (.operator o)) = none := by simp [Language.value, hf]
        rw [Option.map_some, hf]
        exact .unset hunset _ _
      | some t =>
        rw [Option.map_some, Option.map_some, hf, h.fragment hf]
        exact ih (some t)
  | compose c lower as next ih =>
    rw [Script.eval_compose, Script.eval_compose]
    exact (hhelp c lower as).bind ih

theorem carries_runBelow {n : Nat} {c : Command} (lower : c.rank < n) (given : List String) :
    Carries l (runBelow l n c lower given) (runBelow m n c lower given) := by
  induction n generalizing c given with
  | zero => exact absurd lower (Nat.not_lt_zero _)
  | succ n ih =>
    rw [runBelow, runBelow]
    cases c.signature.check given.length with
    | error e => exact .settled nofun
    | ok _ => exact carries_eval hl hm h (fun d _ as => (ih _ as).map _) _

theorem carries_run (c : Command) (given : List String) :
    Carries l (c.run l given) (c.run m given) :=
  carries_runBelow hl hm h _ given

theorem carries_perform {depth : Nat} {name : String}
    {f g : Command → Except RenderError (List String)} (hfg : ∀ c, Carries l (f c) (g c)) :
    Carries l (perform l depth name f) (perform m depth name g) := by
  rw [perform, perform]
  split
  · exact .settled nofun
  · have hnamed : Carries l (Command.named name) (Command.named name) := by
      rw [Command.named]
      cases Command.ofName? name with
      | none => exact .settled nofun
      | some c => exact .ok c
    exact hnamed.bind fun c => (hfg c).bind fun texts => carries_run hl hm h c texts

omit hl hm h in
theorem carries_resolveAll {as : List Argument} {depth : Nat}
    (has : ∀ a ∈ as, Carries l (a.resolve l depth) (a.resolve m depth)) (c : Command)
    (position : Nat) :
    Carries l (resolveAll l depth c position as) (resolveAll m depth c position as) := by
  induction as generalizing position with
  | nil =>
    rw [resolveAll, resolveAll]
    exact .ok []
  | cons a as ih =>
    rw [List.forall_mem_cons] at has
    rw [resolveAll, resolveAll]
    exact (has.1.nested c position).bind fun text => (ih has.2 _).bind fun texts => .ok _

theorem carries_resolve (a : Argument) (depth : Nat) :
    Carries l (a.resolve l depth) (a.resolve m depth) := by
  induction a generalizing depth with
  | literal text =>
    rw [Argument.resolve, Argument.resolve]
    exact .ok text
  | nested name as ih =>
    rw [Argument.resolve, Argument.resolve]
    refine (carries_perform hl hm h fun c => ?_).map _
    exact carries_resolveAll (fun a ha => ih a ha _) c 0

theorem carries_render (i : Invocation) : Carries l (i.render l) (i.render m) :=
  carries_perform hl hm h fun c =>
    carries_resolveAll (fun a _ => carries_resolve hl hm h a _) c 0

omit hl hm in
theorem carries_terminator (i : Invocation) (r : Rendering) :
    Carries l (terminator l i r) (terminator m i r) := by
  rw [terminator, terminator]
  split
  · cases hf : l.fragment .styleSemicolon with
    | none => exact .unset (by simp [Language.value, hf]) _ _
    | some ending =>
      rw [h.fragment hf]
      exact .ok ending
  · exact .ok ""

omit hl hm h in
theorem carries_place (unit : String) (page : Page) (line : Line) :
    Carries l (page.place unit line) (page.place unit line) := by
  rw [Page.place]
  split
  · exact .settled nofun
  · exact .ok _

theorem carries_renderUnit (us : List Invocation) :
    Carries l (renderUnit l us) (renderUnit m us) := by
  rw [renderUnit, renderUnit]
  cases hf : l.fragment .generalIndentation with
  | none => exact .unset (by simp [Language.value, hf]) _ _
  | some indentation =>
    rw [h.fragment hf]
    refine (Carries.foldlM (fun page i => ?_) us _).bind fun page => .ok _
    rw [Page.add, Page.add]
    refine (carries_render hl hm h i).bind fun r => (carries_terminator h i r).bind fun ending => ?_
    exact Carries.foldlM (carries_place indentation) _ page

end

/-- Of two assembled languages let one extend the other. What a unit renders to under the smaller
one, or the error it comes to, is the same under the larger one, unless the error is that a property
is missing. -/
theorem renderUnit_of_extends {l m : Language} (hl : l.assemble = l) (hm : m.assemble = m)
    (h : m.Extends l) (us : List Invocation) :
    (∀ lines, renderUnit l us = .ok lines → renderUnit m us = .ok lines) ∧
    ∀ e, renderUnit l us = .error e →
      (∀ language reader p, e.rootCause ≠ .incomplete language reader p) →
        renderUnit m us = .error e := by
  have hcarries := carries_renderUnit hl hm h us
  refine ⟨fun lines hlines => hcarries.eq_ok hlines, fun e he hsettled => ?_⟩
  rcases hcarries.eq_error he with ⟨-, hsame⟩ | hlacking
  · exact hsame
  · exact absurd hsettled hlacking.not_settled

/-- Without a semicolon a block that holds no statement is written as before, and closing it twice
is refused as before. -/
theorem renderUnit_of_extends_semicolon :
    let m := BuiltIn.csharp.language
    let l := (m.set (.fragment .styleSemicolon none)).assemble
    let us : List Invocation :=
      [⟨"if start", [.literal "x"]⟩, ⟨"comment line", [.literal "y"]⟩, ⟨"if end", []⟩]
    m.Extends l ∧
    renderUnit l us = .ok ["if (x)", "\x7b", "    // y", "\x7d"] ∧
    renderUnit m us = .ok ["if (x)", "\x7b", "    // y", "\x7d"] ∧
    renderUnit l (us ++ [⟨"if end", []⟩]) = .error (.unbalanced 4) ∧
    renderUnit m (us ++ [⟨"if end", []⟩]) = .error (.unbalanced 4) := by
  intro m l us
  have hextends : m.Extends l := .of_unset m rfl
  have hok : renderUnit l us = .ok ["if (x)", "\x7b", "    // y", "\x7d"] := by
    dsimp only [l, m, us]
    rfl
  have herror : renderUnit l (us ++ [⟨"if end", []⟩]) = .error (.unbalanced 4) := by
    dsimp only [l, m, us]
    rfl
  refine ⟨hextends, hok, ?_, herror, ?_⟩
  · exact (renderUnit_of_extends rfl rfl hextends us).1 _ hok
  · exact (renderUnit_of_extends rfl rfl hextends _).2 _ herror nofun

end Phrasebook
