import Mathlib.Logic.Basic
import Phrasebook.BuiltIn
import Phrasebook.Proofs.Evaluation
import Phrasebook.Proofs.Lines

/-! Loops over the pairs of a container. Four policies decide what such a loop looks like. They are
laid out as a table here: what the loop binds, and what its first lines take out of that. The main
statement says that the command follows the table in every language, letter by letter. -/
namespace Phrasebook

open Text Script Catalog

namespace Catalog.PairLoop

def arguments (p : PairLoop) : List String :=
  [p.container, p.pairName, p.keyName, p.keyType, p.valueName, p.valueType]

inductive Types (l : Language) (p : PairLoop) : (asPair : Bool) → String → Prop
  | pair {pairClass type : String} (hclass : l.fragment .loopForeachPairClass = some pairClass)
      (htype : Command.genericType.inline l [pairClass, p.keyType, p.valueType] = .ok type) :
      Types l p true type
  | key : Types l p false p.keyType

inductive Binds (l : Language) (p : PairLoop) : (declared asPair asKeys : Bool) → String → Prop
  | declared {asPair asKeys : Bool} {type declaration typed : String}
      (htype : p.Types l asPair type)
      (hdeclaration : l.fragment .variableDeclaration = some declaration)
      (htyped : Command.variableInline.inline l
        [if asKeys then p.keyName else p.pairName, type] = .ok typed) :
      Binds l p true asPair asKeys (declaration ++ typed)
  | key {asKeys : Bool} : Binds l p false true asKeys p.keyName
  | keyAndValue {asKeys : Bool} : Binds l p false false asKeys (p.keyName ++ ", " ++ p.valueName)

def Declares (l : Language) (name type value line : String) : Prop :=
  ∃ declaration semicolon,
    Command.variableDeclaration.inline l [name, type, value] = .ok declaration ∧
    l.fragment .styleSemicolon = some semicolon ∧ line = declaration ++ semicolon

inductive Extracts (l : Language) (p : PairLoop) :
    (declared asPair asKeys : Bool) → List String → Prop
  | pair {asKeys : Bool} {retrieveKey retrieveValue key value : String}
      (hretrieveKey : l.fragment .loopForeachPairsRetrieveKey = some retrieveKey)
      (hretrieveValue : l.fragment .loopForeachPairsRetrieveValue = some retrieveValue)
      (hkey : Declares l p.keyName p.keyType (p.pairName ++ retrieveKey) key)
      (hvalue : Declares l p.valueName p.valueType (p.pairName ++ retrieveValue) value) :
      Extracts l p true true asKeys [key, value]
  | entry {declared asPair : Bool} {entry value : String} (hpair : (declared && asPair) = false)
      (hentry : Command.dictionaryIndex.inline l [p.container, p.keyName] = .ok entry)
      (hvalue : Declares l p.valueName p.valueType entry value) :
      Extracts l p declared asPair true [value]
  | nothing {declared asPair : Bool} (hpair : (declared && asPair) = false) :
      Extracts l p declared asPair false []

def Heads (l : Language) (p : PairLoop) (binding header : String) : Prop :=
  ∃ keyword left middle getPairs right closing,
    [Fragment.loopForeachKeyword, .conditionalStartLeft, .loopForeachPairsMiddle,
      .loopForeachGetPairs, .loopForeachRight, .conditionalStartRight].map l.fragment =
      [keyword, left, middle, getPairs, right, closing].map some ∧
    header = keyword ++ left ++ binding ++ middle ++ p.container ++ getPairs ++ right ++ closing

section Evaluation

variable {l : Language} {reader : Command} {given : List String} {p : PairLoop}

theorem binding_eq_ok {declared asPair asKeys : Bool} {binding : String} :
    (p.binding declared asPair asKeys).eval l reader given (fun d _ as => d.inline l as) =
      .ok binding ↔ p.Binds l declared asPair asKeys binding := by
  cases declared with
  | false =>
    have hplain : (p.binding false asPair asKeys).eval l reader given
        (fun d _ as => d.inline l as) =
        .ok (if asPair then p.keyName else p.keyName ++ ", " ++ p.valueName) := rfl
    rw [hplain, Except.ok.injEq]
    constructor
    · rintro rfl
      cases asPair with
      | false => exact .keyAndValue
      | true => exact .key
    · intro h
      cases h <;> rfl
  | true =>
    cases asPair with
    | false =>
      simp only [PairLoop.binding, if_true, Bool.false_eq_true, if_false, eval_bind_eq_ok,
        eval_text_eq_ok, eval_take, eval_pure, Except.ok.injEq, exists_eq_left']
      constructor
      · rintro ⟨declaration, hd, typed, ht, rfl⟩
        exact .declared .key hd ht
      · rintro ⟨⟨⟩, hd, ht⟩
        exact ⟨_, hd, _, ht, rfl⟩
    | true =>
      simp only [PairLoop.binding, if_true, eval_bind_eq_ok, eval_text_eq_ok, eval_take, eval_pure,
        Except.ok.injEq]
      constructor
      · rintro ⟨pairClass, hc, type, htype, declaration, hd, typed, ht, rfl⟩
        exact .declared (.pair hc htype) hd ht
      · rintro ⟨⟨hc, htype⟩, hd, ht⟩
        exact ⟨_, hc, _, htype, _, hd, _, ht, rfl⟩

theorem declarationLine_eq_ok {name type value line : String} :
    (declarationLine name type value).eval l reader given (fun d _ as => d.inline l as) =
      .ok line ↔ Declares l name type value line := by
  simp only [declarationLine, eval_bind_eq_ok, eval_take, eval_text_eq_ok, eval_pure,
    Except.ok.injEq]
  constructor
  · rintro ⟨declaration, hd, semicolon, hs, rfl⟩
    exact ⟨declaration, semicolon, hd, hs, rfl⟩
  · rintro ⟨declaration, semicolon, hd, hs, rfl⟩
    exact ⟨declaration, hd, semicolon, hs, rfl⟩

theorem extraction_eq_ok {declared asPair asKeys : Bool} {lines : List String} :
    (p.extraction declared asPair asKeys).eval l reader given (fun d _ as => d.inline l as) =
      .ok lines ↔ p.Extracts l declared asPair asKeys lines := by
  cases hpair : declared && asPair with
  | true =>
    obtain ⟨rfl, rfl⟩ := Bool.and_eq_true_iff.mp hpair
    simp only [PairLoop.extraction, Bool.and_self, if_true, eval_bind_eq_ok, eval_phrase_cons_eq_ok,
      eval_phrase_nil, eval_text_eq_ok, eval_pure, declarationLine_eq_ok, Except.ok.injEq,
      exists_eq_left', exists_eq_right, exists_exists_and_eq_and, String.append_empty]
    constructor
    · rintro ⟨retrieveKey, hk, retrieveValue, hv, key, hkey, value, hvalue, rfl⟩
      exact .pair hk hv hkey hvalue
    · intro h
      cases h with
      | pair hk hv hkey hvalue => exact ⟨_, hk, _, hv, _, hkey, _, hvalue, rfl⟩
      | entry hpair => cases hpair
      | nothing hpair => cases hpair
  | false =>
    simp only [PairLoop.extraction, hpair, Bool.false_eq_true, if_false]
    cases asKeys with
    | false =>
      simp only [Bool.false_eq_true, if_false, eval_pure, Except.ok.injEq]
      constructor
      · rintro rfl
        exact .nothing hpair
      · intro h
        cases h with
        | pair => cases hpair
        | nothing => rfl
    | true =>
      simp only [if_true, eval_bind_eq_ok, eval_take, declarationLine_eq_ok, eval_pure,
        Except.ok.injEq]
      constructor
      · rintro ⟨entry, hentry, value, hvalue, rfl⟩
        exact .entry hpair hentry hvalue
      · intro h
        cases h with
        | pair => cases hpair
        | entry _ hentry hvalue => exact ⟨_, hentry, _, hvalue, rfl⟩

/-- The steps by which the text of the header is put together. -/
theorem heads_iff {binding header : String}
    {help : (c : Command) → c.rank < 2 → List String → Except RenderError String} :
    p.Heads l binding header ↔ ∃ range, (phrase [text .loopForeachPairsMiddle, pure p.container,
        text .loopForeachGetPairs, text .loopForeachRight]).eval l reader given help = .ok range ∧
      ∃ keyword, l.fragment .loopForeachKeyword = some keyword ∧
        (conditionHeader keyword (binding ++ range)).eval l reader given help = .ok header := by
  simp only [Heads, conditionHeader, eval_phrase_cons_eq_ok, eval_phrase_nil, eval_text_eq_ok,
    eval_pure, Except.ok.injEq, exists_eq_left', exists_eq_right, exists_exists_and_eq_and,
    String.append_empty]
  constructor
  · rintro ⟨keyword, left, middle, getPairs, right, closing, hfragments, rfl⟩
    simp only [List.map_cons, List.map_nil, List.cons.injEq, and_true] at hfragments
    obtain ⟨hkeyword, hleft, hmiddle, hpairs, hright, hclosing⟩ := hfragments
    refine ⟨_, ⟨middle, hmiddle, _, ⟨getPairs, hpairs, right, hright, rfl⟩, rfl⟩, keyword, hkeyword,
      _, ⟨left, hleft, closing, hclosing, rfl⟩, ?_⟩
    simp only [String.append_assoc]
  · rintro ⟨_, ⟨middle, hmiddle, _, ⟨getPairs, hpairs, right, hright, rfl⟩, rfl⟩, keyword, hkeyword,
      _, ⟨left, hleft, closing, hclosing, rfl⟩, rfl⟩
    refine ⟨keyword, left, middle, getPairs, right, closing, ?_, ?_⟩
    · simp [hkeyword, hleft, hmiddle, hpairs, hright, hclosing]
    · simp only [String.append_assoc]

end Evaluation

end Catalog.PairLoop

theorem openBlock_eq_ok {n : Nat} {l : Language} {reader : Command} {given : List String}
    {help : (c : Command) → c.rank < n → List String → Except RenderError String} {header : String}
    {r : Rendering} :
    (openBlock header).eval l reader given help = .ok r ↔
      ∃ blockStart, l.fragment .styleBlockStart = some blockStart ∧
        ⟨Rendering.linesOf 1 ((splitLines blockStart).modifyHead (header ++ ·)), false⟩ = r := by
  simp only [openBlock, eval_bind_eq_ok, eval_text_eq_ok, eval_pure, Except.ok.injEq,
    Rendering.line_close]

structure Language.PairShape (l : Language) (declared asPair asKeys : Bool) : Prop where
  declared : l.policy .variableDeclarationRequired = some declared
  asPair : l.policy .loopForeachPairsAsPair = some asPair
  asKeys : l.policy .loopForeachPairsAsKeys = some asKeys

section Scripts

variable {l : Language} {reader : Command} {given : List String} {p : PairLoop} {r : Rendering}

theorem foreachPairStart_asMethod
    {help : (c : Command) → c.rank < 2 → List String → Except RenderError String}
    (h : foreachPairStart.eval l reader given help = .ok r) :
    ∃ asMethod, l.policy .loopForeachAsMethod = some asMethod := by
  simp only [foreachPairStart, eval_bind_eq_ok, eval_arg, eval_flag_eq_ok, Except.ok.injEq,
    exists_eq_left'] at h
  obtain ⟨asMethod, hm, -⟩ := h
  exact ⟨asMethod, hm⟩

theorem foreachPairStart_method (hm : l.policy .loopForeachAsMethod = some true)
    {help : (c : Command) → c.rank < 2 → List String → Except RenderError String} :
    foreachPairStart.eval l reader p.arguments help = .ok r ↔
      ∃ getPairs right, l.fragment .loopForeachGetPairs = some getPairs ∧
        l.fragment .loopForeachRight = some right ∧
        r = .single (p.container ++ getPairs ++ p.keyName ++ ", " ++ p.valueName ++ right) 1 := by
  simp only [foreachPairStart, eval_bind_eq_ok, eval_arg, PairLoop.arguments, List.getD_cons_zero,
    List.getD_cons_succ, Except.ok.injEq, exists_eq_left', eval_flag_eq_ok, hm, Option.some.injEq,
    if_true, eval_phrase_cons_eq_ok, eval_phrase_nil, eval_text_eq_ok, eval_pure, exists_eq_right,
    exists_exists_and_eq_and, String.append_empty]
  constructor
  · intro h
    obtain ⟨_, ⟨getPairs, hpairs, right, hright, rfl⟩, rfl⟩ := h
    refine ⟨getPairs, right, hpairs, hright, ?_⟩
    simp only [String.append_assoc]
  · intro h
    obtain ⟨getPairs, right, hpairs, hright, rfl⟩ := h
    refine ⟨_, ⟨getPairs, hpairs, right, hright, rfl⟩, ?_⟩
    simp only [String.append_assoc]

theorem foreachPairStart_block (hm : l.policy .loopForeachAsMethod = some false) :
    foreachPairStart.eval l reader p.arguments (fun d _ as => d.inline l as) = .ok r ↔
      ∃ declared asPair asKeys, l.PairShape declared asPair asKeys ∧
        ∃ binding header blockStart inside, p.Binds l declared asPair asKeys binding ∧
          p.Heads l binding header ∧ l.fragment .styleBlockStart = some blockStart ∧
          p.Extracts l declared asPair asKeys inside ∧
          r = ⟨Rendering.linesOf 1 ((splitLines blockStart).modifyHead (header ++ ·)) ++
            Rendering.linesOf 0 inside, false⟩ := by
  simp only [foreachPairStart, eval_bind_eq_ok, eval_arg, PairLoop.arguments, List.getD_cons_zero,
    List.getD_cons_succ, Except.ok.injEq, exists_eq_left', eval_flag_eq_ok, hm, Option.some.injEq,
    Bool.false_eq_true, if_false, eval_pure, PairLoop.binding_eq_ok, PairLoop.extraction_eq_ok,
    openBlock_eq_ok, eval_text_eq_ok, Rendering.foldl_push]
  constructor
  · intro h
    obtain ⟨declared, hd, asPair, hp, asKeys, hk, binding, hbinding, range, hrange, keyword,
      hkeyword, header, hheader, _, ⟨blockStart, hs, rfl⟩, inside, hinside, rfl⟩ := h
    have hheads := PairLoop.heads_iff.mpr ⟨range, hrange, keyword, hkeyword, hheader⟩
    exact ⟨declared, asPair, asKeys, ⟨hd, hp, hk⟩, binding, header, blockStart, inside, hbinding,
      hheads, hs, hinside, rfl⟩
  · intro h
    obtain ⟨declared, asPair, asKeys, ⟨hd, hp, hk⟩, binding, header, blockStart, inside, hbinding,
      hheads, hs, hinside, rfl⟩ := h
    obtain ⟨range, hrange, keyword, hkeyword, hheader⟩ := PairLoop.heads_iff.mp hheads
    exact ⟨declared, hd, asPair, hp, asKeys, hk, binding, hbinding, range, hrange, keyword,
      hkeyword, header, hheader, _, ⟨blockStart, hs, rfl⟩, inside, hinside, rfl⟩

theorem run_foreachPairStart_eq (l : Language) (p : PairLoop) :
    Command.foreachPairStart.run l p.arguments =
      foreachPairStart.eval l .foreachPairStart p.arguments fun d _ as => d.inline l as :=
  Command.run_of_check rfl

end Scripts

/-- The loop is written as a method of the container, whatever else the language may have to say, or
else as a block. Then the header stands before the text that opens the block, only the last line of
both changes the level, and the lines that take key and value out of the pairs come after it. -/
theorem run_foreachPairStart_eq_ok (l : Language) (p : PairLoop) (r : Rendering) :
    Command.foreachPairStart.run l p.arguments = .ok r ↔
      (l.policy .loopForeachAsMethod = some true ∧
        ∃ getPairs right, l.fragment .loopForeachGetPairs = some getPairs ∧
          l.fragment .loopForeachRight = some right ∧
          r = .single (p.container ++ getPairs ++ p.keyName ++ ", " ++ p.valueName ++ right) 1) ∨
      (l.policy .loopForeachAsMethod = some false ∧
        ∃ declared asPair asKeys, l.policy .variableDeclarationRequired = some declared ∧
          l.policy .loopForeachPairsAsPair = some asPair ∧
          l.policy .loopForeachPairsAsKeys = some asKeys ∧
        ∃ binding header blockStart opening inside, p.Binds l declared asPair asKeys binding ∧
          p.Heads l binding header ∧ l.fragment .styleBlockStart = some blockStart ∧
          join "\n" opening = header ++ blockStart ∧
          opening = (splitLines blockStart).modifyHead (header ++ ·) ∧
          p.Extracts l declared asPair asKeys inside ∧
          r = ⟨Rendering.linesOf 1 opening ++ Rendering.linesOf 0 inside, false⟩) := by
  rw [run_foreachPairStart_eq]
  constructor
  · intro h
    obtain ⟨asMethod, hm⟩ := foreachPairStart_asMethod h
    cases asMethod with
    | true => exact .inl ⟨hm, (foreachPairStart_method hm).mp h⟩
    | false =>
      obtain ⟨declared, asPair, asKeys, hshape, binding, header, blockStart, inside, hbinding,
        hheads, hs, hinside, rfl⟩ := (foreachPairStart_block hm).mp h
      refine .inr ⟨hm, declared, asPair, asKeys, hshape.declared, hshape.asPair, hshape.asKeys,
        binding, header, blockStart, _, inside, hbinding, hheads, hs, ?_, rfl, hinside, rfl⟩
      rw [join_modifyHead (splitLines_ne_nil _), join_splitLines]
  · intro h
    rcases h with ⟨hm, hmethod⟩ | ⟨hm, declared, asPair, asKeys, hd, hp, hk, binding, header,
      blockStart, _, inside, hbinding, hheads, hs, -, rfl, hinside, rfl⟩
    · exact (foreachPairStart_method hm).mpr hmethod
    · exact (foreachPairStart_block hm).mpr ⟨declared, asPair, asKeys, ⟨hd, hp, hk⟩, binding,
        header, blockStart, inside, hbinding, hheads, hs, hinside, rfl⟩

/-- A language that goes over the keys and declares the value to each of them. -/
theorem run_foreachPairStart_eq_ok_keys :
    Command.foreachPairStart.run BuiltIn.javascript.language
        ["ages", "pair", "name", "string", "age", "int"] =
      .ok ⟨[⟨"for (let name in ages) \x7b", 1⟩, ⟨"let age = ages[name];", 0⟩], false⟩ := by
  have hdeclaration : BuiltIn.javascript.language.fragment .variableDeclaration = some "let " := rfl
  have htyped : Command.variableInline.inline BuiltIn.javascript.language ["name", "string"] =
      .ok "name" := rfl
  have hentry : Command.dictionaryIndex.inline BuiltIn.javascript.language ["ages", "name"] =
      .ok "ages[name]" := rfl
  refine (run_foreachPairStart_eq_ok BuiltIn.javascript.language
    ⟨"ages", "pair", "name", "string", "age", "int"⟩ _).mpr (.inr ⟨rfl, true, false, true, rfl, rfl,
      rfl, "let " ++ "name", "for (let name in ages)", " \x7b", ["for (let name in ages) \x7b"],
      ["let age = ages[name];"], .declared .key hdeclaration htyped, ?_, rfl, rfl, rfl, ?_, rfl⟩)
  · exact ⟨"for", " (", " in ", "", "", ")", rfl, rfl⟩
  · exact .entry rfl hentry ⟨"let age = ages[name]", ";", rfl, rfl, rfl⟩

end Phrasebook
