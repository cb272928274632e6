import Phrasebook.BuiltIn
import Phrasebook.Proofs.Evaluation

/-! Type erasure. A language that states no types writes none: a command renders alike on arguments
that differ in types only. Several commands hand types on to others, so that this goes by the ranks
of the commands. -/
namespace Phrasebook

open Catalog Script

def Policy.typing : List Policy :=
  [.variableExplicitTypes, .variableCastsRequired, .functionExplicitReturnTypes, .genericUsed,
   .exceptionCatchTypes, .arrayInitializeTyped, .listTypedInitialization,
   .dictionaryTypedInitialization]

def Language.Untyped (l : Language) : Prop :=
  ∀ p ∈ Policy.typing, l.policy p = some false

instance (l : Language) : Decidable l.Untyped :=
  inferInstanceAs (Decidable (∀ p ∈ Policy.typing, l.policy p = some false))

namespace Command

def typeSlot : Command → Nat → Bool
  | .arrayInitialize, k | .cast, k | .catchStart, k | .listNew, k => k = 0
  | .dictionaryNew, k => k = 0 || k = 1
  | .variableDeclaration, k | .variableInline, k => k = 1
  | .foreachStart, k => k = 2
  | .foreachPairStart, k => k = 3 || k = 5
  | .genericType, k => 1 ≤ k
  | .functionStart, k => k = 1 || 3 ≤ k && k % 2 = 1
  | .lambda, k => k = 0 || 3 ≤ k && k % 2 = 1
  | _, _ => false

structure Alike (c : Command) (as bs : List String) : Prop where
  length : as.length = bs.length
  same : ∀ k, c.typeSlot k = false → as[k]? = bs[k]?

instance (c : Command) (as bs : List String) : Decidable (c.Alike as bs) :=
  decidable_of_iff (as.length = bs.length ∧
      ∀ k < as.length, c.typeSlot k = false → as[k]? = bs[k]?) <| by
    constructor
    · rintro ⟨hlength, hsame⟩
      refine ⟨hlength, fun k hk => ?_⟩
      by_cases hlt : k < as.length
      · exact hsame k hlt hk
      · rw [List.getElem?_eq_none (by omega), List.getElem?_eq_none (by omega)]
    · rintro ⟨hlength, hsame⟩
      exact ⟨hlength, fun k _ => hsame k⟩

theorem Alike.drop {c : Command} {as bs : List String} (h : c.Alike as bs) {i : Nat}
    (hi : ∀ k, i ≤ k → c.typeSlot k = false) : as.drop i = bs.drop i := by
  apply List.ext_getElem?
  intro k
  rw [List.getElem?_drop, List.getElem?_drop]
  exact h.same _ (hi _ (Nat.le_add_right i k))

theorem Alike.eq {c : Command} {as bs : List String} (h : c.Alike as bs)
    (hc : ∀ k, c.typeSlot k = false) : as = bs :=
  h.drop (i := 0) fun k _ => hc k

theorem alike_variableInline (name t u : String) :
    variableInline.Alike [name, t] [name, u] := by
  refine ⟨rfl, fun k hk => ?_⟩
  match k with
  | 0 | k + 2 => rfl
  | 1 => cases hk

theorem alike_parameter (name : String) {t u : Option String} (h : t.isSome = u.isSome) :
    variableInline.Alike (name :: t.toList) (name :: u.toList) := by
  cases t with
  | none =>
    obtain rfl : u = none := by simpa using h
    exact ⟨rfl, fun _ _ => rfl⟩
  | some t =>
    obtain ⟨u, rfl⟩ := Option.isSome_iff_exists.mp h.symm
    exact alike_variableInline name t u

theorem alike_variableDeclaration (name t u value : String) :
    variableDeclaration.Alike [name, t, value] [name, u, value] := by
  refine ⟨rfl, fun k hk => ?_⟩
  match k with
  | 0 | k + 2 => rfl
  | 1 => cases hk

theorem alike_genericType (name t t' u u' : String) :
    genericType.Alike [name, t, t'] [name, u, u'] := by
  refine ⟨rfl, fun k hk => ?_⟩
  match k with
  | 0 => rfl
  | k + 1 => simp [typeSlot] at hk

end Command

def SameNames (ps qs : List (String × Option String)) : Prop :=
  ps.map (fun q => (q.1, q.2.isSome)) = qs.map fun q => (q.1, q.2.isSome)

theorem sameNames_pairUp : ∀ {as bs : List String}, as.length = bs.length →
    (∀ k, as[2 * k]? = bs[2 * k]?) → SameNames (pairUp as) (pairUp bs)
  | [], [], _, _ => rfl
  | [a], [b], _, h => by
    obtain rfl : a = b := by simpa using h 0
    rfl
  | a :: b :: as, c :: d :: bs, hlength, h => by
    have hfirst : a = c := by simpa using h 0
    have hrest := sameNames_pairUp (by simpa using hlength) fun k => h (k + 1)
    exact List.cons_eq_cons.mpr ⟨by simp [hfirst], hrest⟩

def HelpsAlike {n : Nat}
    (help : (c : Command) → c.rank < n → List String → Except RenderError String) : Prop :=
  ∀ c lower as bs, c.Alike as bs → help c lower as = help c lower bs

section Plain

variable {n : Nat} {l : Language} (hl : l.Untyped) {reader : Command} {as bs : List String}
  {help : (c : Command) → c.rank < n → List String → Except RenderError String}
include hl

theorem cast_alike (h : Command.cast.Alike as bs) :
    (Catalog.cast : Script n Rendering).eval l reader as help =
      (Catalog.cast : Script n Rendering).eval l reader bs help := by
  have hcasts : l.policy .variableCastsRequired = some false := hl _ (by decide)
  simp [Catalog.cast, hcasts, h.same 1 rfl]

theorem catchStart_alike (h : Command.catchStart.Alike as bs) :
    (catchStart : Script n Rendering).eval l reader as help =
      (catchStart : Script n Rendering).eval l reader bs help := by
  have htypes : l.policy .exceptionCatchTypes = some false := hl _ (by decide)
  simp [catchStart, continueBlock, htypes, h.same 1 rfl]

theorem variableInline_alike (h : Command.variableInline.Alike as bs) :
    (variableInline : Script n Rendering).eval l reader as help =
      (variableInline : Script n Rendering).eval l reader bs help := by
  have htypes : l.policy .variableExplicitTypes = some false := hl _ (by decide)
  simp [variableInline, htypes, h.same 0 rfl]

theorem genericType_alike (h : Command.genericType.Alike as bs) :
    (genericType : Script n Rendering).eval l reader as help =
      (genericType : Script n Rendering).eval l reader bs help := by
  have hgenerics : l.policy .genericUsed = some false := hl _ (by decide)
  simp [genericType, hgenerics, h.same 0 rfl]

end Plain

section Composed

variable {l : Language} (hl : l.Untyped) {reader : Command} {as bs : List String}
  {help : (c : Command) → c.rank < 1 → List String → Except RenderError String}
  (hhelp : HelpsAlike help)

include hl in
theorem arrayInitialize_alike (h : Command.arrayInitialize.Alike as bs) :
    arrayInitialize.eval l reader as help = arrayInitialize.eval l reader bs help := by
  have htyped : l.policy .arrayInitializeTyped = some false := hl _ (by decide)
  have hitems : as.drop 1 = bs.drop 1 := h.drop fun k hk => by
    simp only [Command.typeSlot, decide_eq_false_iff_not]
    omega
  simp [arrayInitialize, listed, htyped, hitems]

include hl in
theorem dictionaryNew_alike :
    dictionaryNew.eval l reader as help = dictionaryNew.eval l reader bs help := by
  have htyped : l.policy .dictionaryTypedInitialization = some false := hl _ (by decide)
  simp [dictionaryNew, htyped]

include hl in
theorem listNew_alike : listNew.eval l reader as help = listNew.eval l reader bs help := by
  have htyped : l.policy .listTypedInitialization = some false := hl _ (by decide)
  simp [listNew, htyped]

include hhelp

theorem typedName_alike (name t u : String) :
    (typedName name t).eval l reader as help = (typedName name u).eval l reader bs help := by
  rw [typedName, eval_take, typedName, eval_take]
  exact hhelp _ _ _ _ (Command.alike_variableInline name t u)

theorem typedNames_alike {ps qs : List (String × Option String)} (h : SameNames ps qs) :
    (typedNames ps).eval l reader as help = (typedNames qs).eval l reader bs help := by
  induction ps generalizing qs with
  | nil =>
    obtain rfl : qs = [] := by simpa [SameNames] using h.symm
    rfl
  | cons p ps ih =>
    cases qs with
    | nil => simp [SameNames] at h
    | cons q qs =>
      obtain ⟨hfirst, hrest⟩ := List.cons.inj h
      obtain ⟨hname, htype⟩ := Prod.mk.inj hfirst
      simp only [typedNames, eval_bind, eval_pure, eval_take]
      rw [hhelp _ _ _ _ (Command.alike_parameter p.1 htype), hname, ih hrest]

/-- A list of parameters that starts at an even position has its names at even ones. -/
theorem parameterList_alike {c : Command} (h : c.Alike as bs)
    (hc : ∀ k, c.typeSlot (2 + 2 * k) = false) :
    (parameterList 2).eval l reader as help = (parameterList 2).eval l reader bs help := by
  have hnames : SameNames (pairUp (as.drop 2)) (pairUp (bs.drop 2)) := by
    apply sameNames_pairUp
    · rw [List.length_drop, List.length_drop, h.length]
    · intro k
      rw [List.getElem?_drop, List.getElem?_drop]
      exact h.same _ (hc k)
  simp only [parameterList, eval_bind, eval_argPairs, ok_bind, eval_pure]
  rw [typedNames_alike hhelp hnames]

theorem variableDeclaration_alike (h : Command.variableDeclaration.Alike as bs) :
    variableDeclaration.eval l reader as help = variableDeclaration.eval l reader bs help := by
  have htyped (name : String) : (typedName name (as[1]?.getD "")).eval l reader as help =
      (typedName name (bs[1]?.getD "")).eval l reader bs help := typedName_alike hhelp _ _ _
  have hvalue := h.same 2 rfl
  cases hv : bs[2]? with
  | none => simp [variableDeclaration, h.same 0 rfl, htyped, hvalue, hv]
  | some value => simp [variableDeclaration, h.same 0 rfl, htyped, hvalue, hv]

theorem foreachStart_alike (h : Command.foreachStart.Alike as bs) :
    foreachStart.eval l reader as help = foreachStart.eval l reader bs help := by
  have htyped (name : String) : (typedName name (as[2]?.getD "")).eval l reader as help =
      (typedName name (bs[2]?.getD "")).eval l reader bs help := typedName_alike hhelp _ _ _
  simp [foreachStart, conditionHeader, openBlock, h.same 0 rfl, h.same 1 rfl, htyped]

include hl in
theorem functionStart_alike (h : Command.functionStart.Alike as bs) :
    functionStart.eval l reader as help = functionStart.eval l reader bs help := by
  have hreturns : l.policy .functionExplicitReturnTypes = some false := hl _ (by decide)
  have hparameters : (parameterList 2).eval l reader as help =
      (parameterList 2).eval l reader bs help :=
    parameterList_alike hhelp h fun k => by
      have hone : 2 + 2 * k ≠ 1 := by omega
      simp [Command.typeSlot, hone]
  simp [functionStart, openBlock, hreturns, hparameters, h.same 0 rfl]

include hl in
theorem lambda_alike (h : Command.lambda.Alike as bs) :
    Catalog.lambda.eval l reader as help = Catalog.lambda.eval l reader bs help := by
  have hreturns : l.policy .functionExplicitReturnTypes = some false := hl _ (by decide)
  have hparameters : (parameterList 2).eval l reader as help =
      (parameterList 2).eval l reader bs help :=
    parameterList_alike hhelp h fun k => by simp [Command.typeSlot]
  simp [Catalog.lambda, hreturns, hparameters, h.same 1 rfl]

end Composed

section PairLoop

variable (l : Language) (reader : Command) (as bs : List String)
  {help : (c : Command) → c.rank < 2 → List String → Except RenderError String}
  (hhelp : HelpsAlike help)
include hhelp

theorem binding_alike (p : PairLoop) (t u : String) (declared asPair asKeys : Bool) :
    (p.binding declared asPair asKeys).eval l reader as help =
      (PairLoop.binding { p with keyType := t, valueType := u } declared asPair asKeys).eval
        l reader bs help := by
  have htyped (name : String) :=
    hhelp _ (by decide) _ _ (Command.alike_variableInline name p.keyType t)
  have hgeneric (name : String) :=
    hhelp _ (by decide) _ _ (Command.alike_genericType name p.keyType p.valueType t u)
  cases declared with
  | false => simp [PairLoop.binding]
  | true =>
    cases asPair with
    | false => simp [PairLoop.binding, PairLoop.iterated, htyped]
    | true => simp [PairLoop.binding, PairLoop.iterated, hgeneric]

theorem extraction_alike (p : PairLoop) (t u : String) (declared asPair asKeys : Bool) :
    (p.extraction declared asPair asKeys).eval l reader as help =
      (PairLoop.extraction { p with keyType := t, valueType := u } declared asPair asKeys).eval
        l reader bs help := by
  have hkey (value : String) :=
    hhelp _ (by decide) _ _ (Command.alike_variableDeclaration p.keyName p.keyType t value)
  have hvalue (value : String) :=
    hhelp _ (by decide) _ _ (Command.alike_variableDeclaration p.valueName p.valueType u value)
  simp [PairLoop.extraction, declarationLine, hkey, hvalue]

theorem foreachPairStart_alike (h : Command.foreachPairStart.Alike as bs) :
    foreachPairStart.eval l reader as help = foreachPairStart.eval l reader bs help := by
  have hbinding (container pairName keyName valueName : String) :=
    binding_alike l reader as bs hhelp
      ⟨container, pairName, keyName, as[3]?.getD "", valueName, as[5]?.getD ""⟩
      (bs[3]?.getD "") (bs[5]?.getD "")
  have hextraction (container pairName keyName valueName : String) :=
    extraction_alike l reader as bs hhelp
      ⟨container, pairName, keyName, as[3]?.getD "", valueName, as[5]?.getD ""⟩
      (bs[3]?.getD "") (bs[5]?.getD "")
  simp only [foreachPairStart, conditionHeader, openBlock, eval_bind, eval_arg, eval_flag,
    eval_text, eval_ite, eval_phrase_cons, eval_phrase_nil, eval_pure, ok_bind,
    List.getD_eq_getElem?_getD, h.same 0 rfl, h.same 1 rfl, h.same 2 rfl, h.same 4 rfl, hbinding,
    hextraction]

end PairLoop

/-- One command, if the commands it takes help from leave types out. -/
theorem script_alike {l : Language} (hl : l.Untyped) {c : Command}
    {help : (d : Command) → d.rank < c.rank → List String → Except RenderError String}
    (hhelp : HelpsAlike help) {as bs : List String} (h : c.Alike as bs) :
    (script c).eval l c as help = (script c).eval l c bs help := by
  cases c
  case arrayInitialize => exact arrayInitialize_alike hl h
  case cast => exact cast_alike hl h
  case catchStart => exact catchStart_alike hl h
  case dictionaryNew => exact dictionaryNew_alike hl
  case foreachPairStart => exact foreachPairStart_alike l _ as bs hhelp h
  case foreachStart => exact foreachStart_alike hhelp h
  case functionStart => exact functionStart_alike hl hhelp h
  case genericType => exact genericType_alike hl h
  case lambda => exact lambda_alike hl hhelp h
  case listNew => exact listNew_alike hl
  case variableDeclaration => exact variableDeclaration_alike hhelp h
  case variableInline => exact variableInline_alike hl h
  -- The others take no types, so that all their arguments are the same.
  all_goals rw [h.eq fun _ => rfl]

/-- In a language that states no types, a command comes to the same on arguments that differ in
types only, be it a rendering or an error. -/
theorem run_of_alike {l : Language} (hl : l.Untyped) {c : Command} {as bs : List String}
    (h : c.Alike as bs) : c.run l as = c.run l bs := by
  induction c using Command.rank_induction generalizing as bs with
  | h c ih =>
    have hhelp : HelpsAlike fun (d : Command) (_ : d.rank < c.rank) as => d.inline l as := by
      intro d lower as bs hd
      exact congrArg (Except.map Rendering.firstText) (ih d lower hd)
    rw [Command.run_eq, Command.run_eq, h.length, script_alike hl hhelp h]

/-- Types that a loop hands on to a generic type, a name and two declarations; types of parameters;
and an argument too few. -/
theorem run_of_alike_javascript :
    let l := BuiltIn.javascript.language.set (.policy .loopForeachPairsAsPair (some true))
    l.Untyped ∧
    Command.foreachPairStart.run l ["ages", "pair", "name", "Name", "age", "Age"] =
      .ok ⟨[⟨"for (let name in ages) \x7b", 1⟩, ⟨"let name = pair[0];", 0⟩,
        ⟨"let age = pair[1];", 0⟩], false⟩ ∧
    Command.functionStart.run l ["add", "int", "a", "int", "b", "int"] =
      Command.functionStart.run l ["add", "sum", "a", "left", "b", "right"] ∧
    Command.functionStart.run l ["add", "int", "a"] =
      Command.functionStart.run l ["add", "sum", "a"] := by
  intro l
  have hl : l.Untyped := by
    dsimp only [l]
    decide
  have hloop : Command.foreachPairStart.run l ["ages", "pair", "name", "string", "age", "int"] =
      .ok ⟨[⟨"for (let name in ages) \x7b", 1⟩, ⟨"let name = pair[0];", 0⟩,
        ⟨"let age = pair[1];", 0⟩], false⟩ := by
    dsimp only [l]
    rfl
  refine ⟨hl, ?_, run_of_alike hl (by decide), run_of_alike hl (by decide)⟩
  rw [← hloop]
  exact run_of_alike hl (by decide)

end Phrasebook
