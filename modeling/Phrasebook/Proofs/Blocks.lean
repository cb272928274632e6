import Phrasebook.Proofs.Arity
import Phrasebook.Proofs.Layout
import Phrasebook.Proofs.PairLoop
import Phrasebook.Proofs.Profile
import Phrasebook.Proofs.Progress
import Phrasebook.Proofs.Unbroken

/-! Blocks on a page. Each command that opens a block, or goes on with another one, has a header,
and the headers are laid out as a table of phrases here. The main statement says which texts such a
command writes and at which level they land, whatever texts the language opens, continues and ends
its blocks with. -/
namespace Phrasebook

open Text Script Catalog Rendering

namespace Text

/-- A text that is put after another one goes on with its last line. -/
theorem splitLines_append {text ender last first : String} {before rest : List String}
    (ht : splitLines text = before ++ [last]) (he : splitLines ender = first :: rest) :
    splitLines (text ++ ender) = before ++ (last ++ first) :: rest := by
  have hjoin : join "\n" (before ++ (last ++ first) :: rest) = text ++ ender := by
    rw [join_glue, ← ht, ← he, join_splitLines, join_splitLines]
  have hbefore : ∀ line ∈ before ++ [last], Unbroken line := by
    intro line hline
    exact unbroken_of_mem_splitLines (ht ▸ hline)
  have hrest : ∀ line ∈ first :: rest, Unbroken line := by
    intro line hline
    exact unbroken_of_mem_splitLines (he ▸ hline)
  rw [← hjoin]
  apply splitLines_join (by simp)
  intro line hline
  rw [List.mem_append, List.mem_cons] at hline
  rcases hline with h | rfl | h
  · exact hbefore line (List.mem_append_left _ h)
  · exact unbroken_append.mpr ⟨hbefore last (by simp), hrest first (by simp)⟩
  · exact hrest line (List.mem_cons_of_mem _ h)

end Text

namespace Rendering

/-- Lines that a text has been divided into go on with another text as if it had been there before
they were divided. -/
theorem appendText_splitLines (text ender : String) (ls : List Line) :
    appendText ender (ls ++ linesOf 0 (splitLines text)) =
      ls ++ linesOf 0 (splitLines (text ++ ender)) := by
  obtain ⟨first, rest, he⟩ := List.exists_cons_of_ne_nil (splitLines_ne_nil ender)
  obtain ⟨before, last, ht⟩ : ∃ before last, splitLines text = before ++ [last] :=
    ⟨_, _, (List.dropLast_concat_getLast (splitLines_ne_nil text)).symm⟩
  rw [ht, appendText_concat he, splitLines_append ht he]

theorem close_splitLines (text ender : String) (ls : List Line) (isStatement : Bool) (d : Int) :
    (⟨ls ++ linesOf 0 (splitLines text), isStatement⟩ : Rendering).close ender d =
      ⟨ls ++ linesOf d (splitLines (text ++ ender)), isStatement⟩ := by
  have hne := splitLines_ne_nil (text ++ ender)
  rw [close, appendText_splitLines, shiftLast_append d ls (linesOf_ne_nil hne 0),
    shiftLast_linesOf hne]

end Rendering

namespace Catalog

section Headers

variable {n : Nat}

def conditional (keyword : Fragment) : Script n String :=
  phrase [text keyword, text .conditionalStartLeft, arg 0, text .conditionalStartRight]

def catchHeader : Script n String :=
  phrase
    [text .exceptionCatchKeyword, text .exceptionCatchLeft,
     (do
      if ← flag .exceptionCatchTypes then phrase [arg 0, text .exceptionCatchMiddle]
      else pure ""),
     arg 1, text .exceptionCatchRight]

def classHeader : Script n String := do
  let parent ← arg? 1
  phrase
    [text .classDefineStart, arg 0,
     match parent with
     | some parent => phrase [text .classExtendsLeft, pure parent, text .classExtendsRight]
     | none => pure ""]

def functionHeader : Script 1 String := do
  let explicit ← flag .functionExplicitReturnTypes
  let after ← flag .variableTypesAfterName
  phrase
    [text .functionDefineStart,
     if explicit && !after then phrase [arg 1, text .variableTypeRight] else pure "",
     arg 0, text .functionParametersLeft, parameterList 2, text .functionParametersRight,
     if explicit && after then phrase [text .functionReturnTypeMiddle, arg 1] else pure ""]

def rangeHeader (binding : Script n String) (container : String) (middle values : Fragment) :
    Script n String :=
  phrase
    [text .loopForeachKeyword, text .conditionalStartLeft, binding, text middle, pure container,
     text values, text .loopForeachRight, text .conditionalStartRight]

def valueBinding : Script 1 String := do
  if ← flag .variableDeclarationRequired then
    phrase [text .variableDeclaration, do typedName (← arg 1) (← arg 2)]
  else
    arg 1

def foreachHeader : Script 1 String := do
  if ← flag .loopForeachAsMethod then
    phrase [arg 0, text .loopForeachGetValues, arg 1, text .loopForeachRight]
  else
    rangeHeader valueBinding (← arg 0) .loopForeachMiddle .loopForeachGetValues

def PairLoop.header (p : PairLoop) : Script 2 String := do
  if ← flag .loopForeachAsMethod then
    phrase
      [pure p.container, text .loopForeachGetPairs, pure p.keyName, pure ", ", pure p.valueName,
       text .loopForeachRight]
  else
    let binding := do
      p.binding (← flag .variableDeclarationRequired) (← flag .loopForeachPairsAsPair)
        (← flag .loopForeachPairsAsKeys)
    rangeHeader binding p.container .loopForeachPairsMiddle .loopForeachGetPairs

def header : (c : Command) → Script c.rank String
  | .ifStart => conditional .conditionalIfKeyword
  | .elseIfStart => conditional .conditionalElseIfKeyword
  | .whileStart => conditional .loopWhileKeyword
  | .elseStart => text .conditionalElseKeyword
  | .tryStart => text .exceptionTryKeyword
  | .finallyStart => text .exceptionFinallyKeyword
  | .enumStart => phrase [text .enumStartLeft, arg 0, text .enumStartRight]
  | .catchStart => catchHeader
  | .classStart => classHeader
  | .functionStart => functionHeader
  | .foreachStart => foreachHeader
  | .foreachPairStart => do
    PairLoop.header ⟨← arg 0, ← arg 1, ← arg 2, ← arg 3, ← arg 4, ← arg 5⟩
  | _ => pure ""

end Headers

end Catalog

def Command.AsMethod (l : Language) (c : Command) : Prop :=
  (c = .foreachStart ∨ c = .foreachPairStart) ∧ l.policy .loopForeachAsMethod = some true

def Command.Inside (l : Language) (c : Command) (given lines : List String) : Prop :=
  match c with
  | .foreachPairStart =>
    ∃ (p : PairLoop) (declared asPair asKeys : Bool), given = p.arguments ∧
      l.PairShape declared asPair asKeys ∧ p.Extracts l declared asPair asKeys lines
  | _ => lines = []

def Command.Heads (l : Language) (c : Command) (given : List String) (header : String) : Prop :=
  (Catalog.header c).eval l c given (fun d _ as => d.inline l as) = .ok header

inductive Command.Opens (l : Language) (c : Command) (given : List String) :
    List String → List String → Prop
  | method {header : String} (hmethod : c.AsMethod l) (hheader : c.Heads l given header) :
      Opens l c given [header] []
  | block {header blockStart : String} {inside : List String} (hblock : ¬c.AsMethod l)
      (hheader : c.Heads l given header) (hstart : l.fragment .styleBlockStart = some blockStart)
      (hinside : c.Inside l given inside) :
      Opens l c given ((splitLines blockStart).modifyHead (header ++ ·)) inside

section Scripts

variable {n : Nat} {l : Language} {reader : Command} {given : List String} {r : Rendering}

theorem continueBlock_eq_ok {header : String}
    {help : (c : Command) → c.rank < n → List String → Except RenderError String} :
    (continueBlock header).eval l reader given help = .ok r ↔
      ∃ left blockStart, l.fragment .styleBlockContinueLeft = some left ∧
        l.fragment .styleBlockStart = some blockStart ∧
        ⟨⟨"", -1⟩ :: linesOf 1 (splitLines (left ++ header ++ blockStart)), false⟩ = r := by
  have hclose (left ender : String) :
      (((Rendering.empty false).marker (-1)).pushText (left ++ header) 0).close ender 1 =
        ⟨⟨"", -1⟩ :: linesOf 1 (splitLines (left ++ header ++ ender)), false⟩ :=
    close_splitLines (left ++ header) ender [⟨"", -1⟩] false 1
  simp only [continueBlock, eval_bind_eq_ok, eval_text_eq_ok, eval_pure, Except.ok.injEq, hclose,
    exists_and_left]

theorem closeBlock_eq_ok
    {help : (c : Command) → c.rank < n → List String → Except RenderError String} :
    closeBlock.eval l reader given help = .ok r ↔
      ∃ ending, l.fragment .styleBlockEnd = some ending ∧
        ⟨⟨"", -1⟩ :: linesOf 0 (if ending = "" then [] else [ending]), false⟩ = r := by
  simp only [closeBlock, eval_bind_eq_ok, eval_text_eq_ok, eval_pure, Except.ok.injEq]
  refine exists_congr fun ending => and_congr_right fun _ => ?_
  by_cases h : ending = ""
  · simp [h, Rendering.empty, marker, push, linesOf]
  · simp [h, Rendering.empty, marker, push]

def Script.LedBy (s : Script n Rendering) (heading : Script n String)
    (next : String → Script n Rendering) : Prop :=
  ∀ (l : Language) (reader : Command) (given : List String)
    (help : (c : Command) → c.rank < n → List String → Except RenderError String),
    s.eval l reader given help =
      heading.eval l reader given help >>= fun text => (next text).eval l reader given help

theorem ifStart_ledBy :
    (ifStart : Script n Rendering).LedBy (conditional .conditionalIfKeyword) openBlock := by
  simp [LedBy, ifStart, conditional, conditionHeader]

theorem whileStart_ledBy :
    (whileStart : Script n Rendering).LedBy (conditional .loopWhileKeyword) openBlock := by
  simp [LedBy, whileStart, conditional, conditionHeader]

theorem elseIfStart_ledBy :
    (elseIfStart : Script n Rendering).LedBy (conditional .conditionalElseIfKeyword)
      continueBlock := by
  simp [LedBy, elseIfStart, conditional, conditionHeader]

theorem catchStart_ledBy :
    (catchStart : Script n Rendering).LedBy catchHeader continueBlock := by
  intro l reader given help
  cases htypes : l.policy .exceptionCatchTypes with
  | none => simp [catchStart, catchHeader, htypes]
  | some types => cases types <;> simp [catchStart, catchHeader, htypes, String.append_assoc]

theorem classStart_ledBy : (classStart : Script n Rendering).LedBy classHeader openBlock := by
  intro l reader given help
  cases h : given[1]? with
  | none => simp [classStart, classHeader, h]
  | some parent => simp [classStart, classHeader, h, String.append_assoc]

theorem functionStart_ledBy : functionStart.LedBy functionHeader openBlock := by
  intro l reader given help
  cases hexplicit : l.policy .functionExplicitReturnTypes with
  | none => simp [functionStart, functionHeader, hexplicit]
  | some explicit =>
    cases hafter : l.policy .variableTypesAfterName with
    | none => simp [functionStart, functionHeader, hexplicit, hafter]
    | some after =>
      cases explicit <;> cases after <;>
        simp [functionStart, functionHeader, hexplicit, hafter, String.append_assoc]

theorem opener_ledBy {c : Command} (hk : c.kind = .opener)
    (hc : ¬(c = .foreachStart ∨ c = .foreachPairStart)) :
    (script c).LedBy (header c) openBlock := by
  cases c <;> cases hk
  case classStart => exact classStart_ledBy
  case functionStart => exact functionStart_ledBy
  case ifStart => exact ifStart_ledBy
  case whileStart => exact whileStart_ledBy
  case foreachStart | foreachPairStart => simp at hc
  case enumStart | tryStart => exact fun _ _ _ _ => eval_bind ..

theorem continuer_ledBy {c : Command} (hk : c.kind = .continuer) :
    (script c).LedBy (header c) continueBlock := by
  cases c <;> cases hk
  case catchStart => exact catchStart_ledBy
  case elseIfStart => exact elseIfStart_ledBy
  case elseStart | finallyStart => exact fun _ _ _ _ => eval_bind ..

theorem script_closer {c : Command} (hk : c.kind = .closer) : script c = closeBlock := by
  cases c <;> cases hk <;> rfl

theorem rangeHeader_eq_ok
    {help : (c : Command) → c.rank < n → List String → Except RenderError String}
    {binding : Script n String} {container header : String} {middle values : Fragment} :
    (rangeHeader binding container middle values).eval l reader given help = .ok header ↔
      ∃ bound, binding.eval l reader given help = .ok bound ∧
        ∃ range, (phrase [text middle, pure container, text values, text .loopForeachRight]).eval l
            reader given help = .ok range ∧
          ∃ keyword, l.fragment .loopForeachKeyword = some keyword ∧
            (conditionHeader keyword (bound ++ range)).eval l reader given help = .ok header := by
  -- On the right the texts are read inside out, as the scripts read them, on the left in order.
  simp only [rangeHeader, conditionHeader, eval_phrase_cons_eq_ok, eval_phrase_nil, eval_text_eq_ok,
    eval_pure, Except.ok.injEq, exists_eq_left', exists_eq_right, exists_exists_and_eq_and,
    String.append_empty]
  constructor
  · intro h
    obtain ⟨keyword, hkeyword, _, ⟨left, hleft, _, ⟨bound, hbound, _, ⟨before, hbefore, _,
      ⟨taken, htaken, _, ⟨right, hright, closing, hclosing, rfl⟩, rfl⟩, rfl⟩, rfl⟩, rfl⟩, rfl⟩ := h
    refine ⟨bound, hbound, _, ⟨before, hbefore, _, ⟨taken, htaken, right, hright, rfl⟩, rfl⟩,
      keyword, hkeyword, _, ⟨left, hleft, closing, hclosing, rfl⟩, ?_⟩
    simp only [String.append_assoc]
  · intro h
    obtain ⟨bound, hbound, _, ⟨before, hbefore, _, ⟨taken, htaken, right, hright, rfl⟩, rfl⟩,
      keyword, hkeyword, _, ⟨left, hleft, closing, hclosing, rfl⟩, rfl⟩ := h
    refine ⟨keyword, hkeyword, _, ⟨left, hleft, _, ⟨bound, hbound, _, ⟨before, hbefore, _,
      ⟨taken, htaken, _, ⟨right, hright, closing, hclosing, rfl⟩, rfl⟩, rfl⟩, rfl⟩, rfl⟩, ?_⟩
    simp only [String.append_assoc]

theorem foreachStart_block (hm : l.policy .loopForeachAsMethod = some false)
    (help : (c : Command) → c.rank < 1 → List String → Except RenderError String) :
    foreachStart.eval l reader given help = valueBinding.eval l reader given help >>= fun bound =>
      Script.eval l reader given help (do
        let keyword ← text .loopForeachKeyword
        let range ← phrase
          [text .loopForeachMiddle, pure (given.getD 0 ""), text .loopForeachGetValues,
           text .loopForeachRight]
        openBlock (← conditionHeader keyword (bound ++ range))) := by
  cases hd : l.policy .variableDeclarationRequired with
  | none => simp [foreachStart, valueBinding, hm, hd]
  | some declared => cases declared <;> simp [foreachStart, valueBinding, hm, hd]

theorem foreachStart_headed
    {help : (c : Command) → c.rank < 1 → List String → Except RenderError String}
    (h : foreachStart.eval l reader given help = .ok r) :
    ∃ header, foreachHeader.eval l reader given help = .ok header ∧
      ((l.policy .loopForeachAsMethod = some true ∧ r = .single header 1) ∨
        (l.policy .loopForeachAsMethod = some false ∧
          (openBlock header).eval l reader given help = .ok r)) := by
  cases hm : l.policy .loopForeachAsMethod with
  | none => simp [foreachStart, hm] at h
  | some asMethod =>
    cases asMethod with
    | true =>
      simp only [foreachStart, eval_bind_eq_ok, eval_arg, eval_flag_eq_ok, hm, Option.some.injEq,
        Except.ok.injEq, exists_eq_left', if_true, eval_pure] at h
      obtain ⟨header, hheader, rfl⟩ := h
      exact ⟨header, by simpa [foreachHeader, hm] using hheader, .inl ⟨rfl, rfl⟩⟩
    | false =>
      simp only [foreachStart_block hm, bind_eq_ok, eval_bind_eq_ok, eval_text_eq_ok] at h
      obtain ⟨bound, hbound, keyword, hkeyword, range, hrange, header, hheader, hr⟩ := h
      refine ⟨header, ?_, .inr ⟨rfl, hr⟩⟩
      simp only [foreachHeader, eval_bind_eq_ok, eval_arg, eval_flag_eq_ok, hm, Option.some.injEq,
        Except.ok.injEq, exists_eq_left', Bool.false_eq_true, if_false, rangeHeader_eq_ok]
      exact ⟨bound, hbound, range, hrange, keyword, hkeyword, hheader⟩

theorem PairLoop.header_method {p : PairLoop} {getPairs right : String}
    {help : (c : Command) → c.rank < 2 → List String → Except RenderError String}
    (hm : l.policy .loopForeachAsMethod = some true)
    (hpairs : l.fragment .loopForeachGetPairs = some getPairs)
    (hright : l.fragment .loopForeachRight = some right) :
    p.header.eval l reader given help =
      .ok (p.container ++ getPairs ++ p.keyName ++ ", " ++ p.valueName ++ right) := by
  simp [PairLoop.header, hm, hpairs, hright, String.append_assoc]

theorem PairLoop.header_eq_ok {p : PairLoop} (hm : l.policy .loopForeachAsMethod = some false)
    {header : String} :
    p.header.eval l reader given (fun d _ as => d.inline l as) = .ok header ↔
      ∃ declared asPair asKeys, l.PairShape declared asPair asKeys ∧
        ∃ binding, p.Binds l declared asPair asKeys binding ∧ p.Heads l binding header := by
  simp only [PairLoop.header, hm, rangeHeader_eq_ok, ← PairLoop.heads_iff, eval_bind_eq_ok,
    eval_flag_eq_ok, PairLoop.binding_eq_ok, Option.some.injEq, exists_eq_left', Bool.false_eq_true,
    if_false]
  constructor
  · intro h
    obtain ⟨binding, ⟨declared, hd, asPair, hp, asKeys, hk, hbinding⟩, hheads⟩ := h
    exact ⟨declared, asPair, asKeys, ⟨hd, hp, hk⟩, binding, hbinding, hheads⟩
  · intro h
    obtain ⟨declared, asPair, asKeys, ⟨hd, hp, hk⟩, binding, hbinding, hheads⟩ := h
    exact ⟨binding, ⟨declared, hd, asPair, hp, asKeys, hk, hbinding⟩, hheads⟩

/-- The command takes as many arguments as the loop has. -/
theorem PairLoop.of_check (h : Command.foreachPairStart.signature.check given.length = .ok ()) :
    ∃ p : PairLoop, given = p.arguments := by
  have hfills := (Signature.check_eq_ok Command.foreachPairStart.regular).mp h
  have hlength : given.length = 6 := by
    simpa [Command.signature, Parameter.required, fills_required, fills_nil] using hfills
  rcases given with _ | ⟨container, _ | ⟨pairName, _ | ⟨keyName, _ | ⟨keyType, _ | ⟨valueName,
    _ | ⟨valueType, _ | ⟨_, _⟩⟩⟩⟩⟩⟩⟩ <;> simp at hlength
  exact ⟨⟨container, pairName, keyName, keyType, valueName, valueType⟩, rfl⟩

/-- An opener that writes one text, and nothing inside the block. -/
theorem Command.opens_of_openBlock {c : Command} (hm : ¬c.AsMethod l) (hc : c ≠ .foreachPairStart)
    {header : String} (hheader : c.Heads l given header)
    (h : (openBlock header : Script c.rank Rendering).eval l c given
      (fun d _ as => d.inline l as) = .ok r) :
    ∃ opening inside, c.Opens l given opening inside ∧
      r = ⟨linesOf 1 opening ++ linesOf 0 inside, false⟩ := by
  obtain ⟨blockStart, hstart, rfl⟩ := openBlock_eq_ok.mp h
  have hinside : c.Inside l given [] := by
    cases c <;> first | rfl | exact absurd rfl hc
  exact ⟨_, [], .block hm hheader hstart hinside, by simp [linesOf]⟩

theorem foreachPairStart_opens {p : PairLoop}
    (h : foreachPairStart.eval l .foreachPairStart p.arguments (fun d _ as => d.inline l as) =
      .ok r) :
    ∃ opening inside, Command.foreachPairStart.Opens l p.arguments opening inside ∧
      r = ⟨linesOf 1 opening ++ linesOf 0 inside, false⟩ := by
  obtain ⟨asMethod, hm⟩ := foreachPairStart_asMethod h
  cases asMethod with
  | true =>
    obtain ⟨getPairs, right, hpairs, hright, rfl⟩ := (foreachPairStart_method hm).mp h
    exact ⟨_, [], .method ⟨.inr rfl, hm⟩ (PairLoop.header_method hm hpairs hright), rfl⟩
  | false =>
    obtain ⟨declared, asPair, asKeys, hshape, binding, header, blockStart, inside, hbinding,
      hheads, hstart, hinside, rfl⟩ := (foreachPairStart_block hm).mp h
    have hheader : Command.foreachPairStart.Heads l p.arguments header :=
      (PairLoop.header_eq_ok hm).mpr ⟨declared, asPair, asKeys, hshape, binding, hbinding, hheads⟩
    exact ⟨_, inside, .block (by simp [Command.AsMethod, hm]) hheader hstart
      ⟨p, declared, asPair, asKeys, rfl, hshape, hinside⟩, rfl⟩

theorem Command.opens_of_eval {c : Command} (hk : c.kind = .opener)
    (hcheck : c.signature.check given.length = .ok ())
    (h : (script c).eval l c given (fun d _ as => d.inline l as) = .ok r) :
    ∃ opening inside, c.Opens l given opening inside ∧
      r = ⟨linesOf 1 opening ++ linesOf 0 inside, false⟩ := by
  by_cases hc : c = .foreachStart ∨ c = .foreachPairStart
  · rcases hc with rfl | rfl
    · obtain ⟨header, hheader, hm | hm⟩ := foreachStart_headed h
      · obtain ⟨hm, rfl⟩ := hm
        exact ⟨_, [], .method ⟨.inl rfl, hm⟩ hheader, rfl⟩
      · exact opens_of_openBlock (by simp [AsMethod, hm.1]) (by simp) hheader hm.2
    · obtain ⟨p, rfl⟩ := PairLoop.of_check hcheck
      exact foreachPairStart_opens h
  · rw [opener_ledBy hk hc, bind_eq_ok] at h
    obtain ⟨header, hheader, h⟩ := h
    exact opens_of_openBlock (fun hm => hc hm.1) (fun heq => hc (.inr heq)) hheader h

end Scripts

def shown : List String → List String
  | [] => []
  | [text] => if text = "" then [] else [text]
  | text :: next :: rest => text :: shown (next :: rest)

namespace Page

variable (unit : String) {page : Page}

theorem place_level (hpage : 0 ≤ page.level) (text : String) :
    page.place unit ⟨text, 0⟩ =
      .ok ⟨page.lines ++ [indented unit page.level text], page.level⟩ := by
  have hlevel : ¬page.level + 0 < 0 := by omega
  simp only [place, if_neg hlevel, Line.isMarker]
  simp

theorem place_marker {d : Int} (hd : d ≠ 0) (hpage : 0 ≤ page.level + d) :
    page.place unit ⟨"", d⟩ = .ok ⟨page.lines, page.level + d⟩ := by
  have hlevel : ¬page.level + d < 0 := by omega
  simp [place, hlevel, Line.isMarker, hd]

theorem places_level (hpage : 0 ≤ page.level) (texts : List String) :
    (linesOf 0 texts).foldlM (Page.place unit) page =
      .ok ⟨page.lines ++ texts.map (indented unit page.level), page.level⟩ := by
  rw [linesOf_zero]
  induction texts generalizing page with
  | nil => simp [pure, Except.pure]
  | cons text texts ih =>
    rw [List.map_cons, List.foldlM_cons, place_level unit hpage, ok_bind, ih]
    · simp
    · exact hpage

theorem places_opening (hpage : 0 ≤ page.level) {texts : List String} (hne : texts ≠ []) :
    (linesOf 1 texts).foldlM (Page.place unit) page =
      .ok ⟨page.lines ++ (shown texts).map (indented unit page.level), page.level + 1⟩ := by
  induction texts generalizing page with
  | nil => exact absurd rfl hne
  | cons text texts ih =>
    cases texts with
    | nil =>
      have hlevel : ¬page.level + 1 < 0 := by omega
      by_cases h : text = ""
      · simp [h, shown, place, Line.isMarker, hlevel, pure, Except.pure]
      · simp [h, shown, place, Line.isMarker, hlevel, pure, Except.pure]
    | cons next rest =>
      rw [linesOf, List.foldlM_cons, place_level unit hpage, ok_bind, ih _ (by simp), shown]
      · simp
      · exact hpage

theorem add_of_render {l : Language} {i : Invocation} {r : Rendering} (hr : i.render l = .ok r)
    (hs : r.isStatement = false) :
    Page.add l unit page i = r.lines.foldlM (Page.place unit) page := by
  simp [Page.add, hr, terminator, hs, terminate_empty]

end Page

section Blocks

variable {l : Language} {unit : String} {page : Page} {i : Invocation} {c : Command}
  {given : List String} {r : Rendering}

theorem Invocation.eval_of_render (hname : c.name = Text.trim i.name) (hr : i.render l = .ok r) :
    ∃ given, i.arguments.map (Argument.resolve l 1) = given.map .ok ∧
      c.signature.check given.length = .ok () ∧
      (script c).eval l c given (fun d _ as => d.inline l as) = .ok r := by
  obtain ⟨-, d, hd, given, hgiven, hrun⟩ := perform_eq_ok.mp hr
  obtain rfl : d = c :=
    Except.ok.inj ((Command.named_eq_ok.mpr hd).symm.trans (Command.named_eq_ok.mpr hname))
  rw [Command.run_eq, bind_eq_ok] at hrun
  obtain ⟨_, hcheck, heval⟩ := hrun
  refine ⟨given, resolveAll_eq_ok.mp hgiven, ?_, heval⟩
  cases h : d.signature.check given.length with
  | error e => simp [h, Except.mapError] at hcheck
  | ok _ => rfl

theorem Command.Opens.ne_nil {opening inside : List String} (h : c.Opens l given opening inside) :
    opening ≠ [] := by
  cases h with
  | method => simp
  | block =>
    intro hnil
    simp [List.modifyHead_eq_nil_iff, splitLines_ne_nil] at hnil

theorem Page.add_opening (hpage : 0 ≤ page.level) (hr : i.render l = .ok r)
    {opening inside : List String} (hne : opening ≠ [])
    (hlines : r = ⟨linesOf 1 opening ++ linesOf 0 inside, false⟩) :
    Page.add l unit page i =
      .ok ⟨page.lines ++ (shown opening).map (indented unit page.level) ++
        inside.map (indented unit (page.level + 1)), page.level + 1⟩ := by
  subst hlines
  rw [add_of_render unit hr rfl, List.foldlM_append, places_opening unit hpage hne, ok_bind,
    places_level]
  simp only
  omega

theorem Page.add_continuing (hpage : 1 ≤ page.level) (hr : i.render l = .ok r)
    {texts : List String} (hne : texts ≠ []) (hlines : r = ⟨⟨"", -1⟩ :: linesOf 1 texts, false⟩) :
    Page.add l unit page i =
      .ok ⟨page.lines ++ (shown texts).map (indented unit (page.level - 1)), page.level⟩ := by
  subst hlines
  rw [add_of_render unit hr rfl, List.foldlM_cons, place_marker unit (by decide) (by omega),
    ok_bind, places_opening unit _ hne]
  · simp [← Int.sub_eq_add_neg]
  · simp only
    omega

theorem Page.add_closing (hpage : 1 ≤ page.level) (hr : i.render l = .ok r)
    {texts : List String} (hlines : r = ⟨⟨"", -1⟩ :: linesOf 0 texts, false⟩) :
    Page.add l unit page i =
      .ok ⟨page.lines ++ texts.map (indented unit (page.level - 1)), page.level - 1⟩ := by
  subst hlines
  rw [add_of_render unit hr rfl, List.foldlM_cons, place_marker unit (by decide) (by omega),
    ok_bind, places_level]
  · simp [← Int.sub_eq_add_neg]
  · simp only
    omega

theorem Kind.of_changes {k : Kind} :
    (k.changes = [1] → k = .opener) ∧ (k.changes = [-1, 1] → k = .continuer) ∧
      (k.changes = [-1] → k = .closer) := by
  cases k <;> simp [Kind.changes]

/-- Where the lines of a block land. A command that opens a block writes what it opens it with at
the level it stands at, and what takes a pair apart inside the block. One that goes on with another
block, or closes the block, writes everything one level further out: the marker that comes first
stays a marker. -/
theorem Page.add_block (l : Language) (unit : String) (page : Page) (i : Invocation) (c : Command)
    (r : Rendering) (hname : c.name = Text.trim i.name) (hr : i.render l = .ok r) :
    ∃ given, i.arguments.map (Argument.resolve l 1) = given.map .ok ∧
      (c.signature.indentation = [1] → 0 ≤ page.level →
        ∃ opening inside, c.Opens l given opening inside ∧
          Page.add l unit page i =
            .ok ⟨page.lines ++ (shown opening).map (indented unit page.level) ++
              inside.map (indented unit (page.level + 1)), page.level + 1⟩) ∧
      (c.signature.indentation = [-1, 1] → 1 ≤ page.level →
        ∃ left header blockStart, l.fragment .styleBlockContinueLeft = some left ∧
          c.Heads l given header ∧ l.fragment .styleBlockStart = some blockStart ∧
          r.lines.head? = some ⟨"", -1⟩ ∧
          Page.add l unit page i =
            .ok ⟨page.lines ++ (shown (splitLines (left ++ header ++ blockStart))).map
              (indented unit (page.level - 1)), page.level⟩) ∧
      (c.signature.indentation = [-1] → 1 ≤ page.level →
        ∃ ending, l.fragment .styleBlockEnd = some ending ∧ r.lines.head? = some ⟨"", -1⟩ ∧
          Page.add l unit page i =
            .ok ⟨page.lines ++ (if ending = "" then [] else [ending]).map
              (indented unit (page.level - 1)), page.level - 1⟩) := by
  obtain ⟨given, hgiven, hcheck, heval⟩ := Invocation.eval_of_render hname hr
  rw [Command.indentation_eq]
  refine ⟨given, hgiven, fun hc hpage => ?_, fun hc hpage => ?_, fun hc hpage => ?_⟩
  · obtain ⟨opening, inside, hopens, hlines⟩ :=
      Command.opens_of_eval (Kind.of_changes.1 hc) hcheck heval
    exact ⟨opening, inside, hopens, Page.add_opening hpage hr hopens.ne_nil hlines⟩
  · rw [continuer_ledBy (Kind.of_changes.2.1 hc), bind_eq_ok] at heval
    obtain ⟨header, hheader, heval⟩ := heval
    obtain ⟨left, blockStart, hleft, hstart, rfl⟩ := continueBlock_eq_ok.mp heval
    exact ⟨left, header, blockStart, hleft, hheader, hstart, rfl,
      Page.add_continuing hpage hr (splitLines_ne_nil _) rfl⟩
  · rw [script_closer (Kind.of_changes.2.2 hc)] at heval
    obtain ⟨ending, hending, rfl⟩ := closeBlock_eq_ok.mp heval
    exact ⟨ending, hending, rfl, Page.add_closing hpage hr rfl⟩

theorem Page.add_block_csharp :
    (∃ opening inside, Command.foreachPairStart.Opens BuiltIn.csharp.language
        ["ages", "pair", "name", "string", "age", "int"] opening inside ∧
      (shown opening).map (indented "    " 1) ++ inside.map (indented "    " 2) =
        ["    foreach (KeyValuePair<string, int> pair in ages)", "    \x7b",
         "        string name = pair.Key;", "        int age = pair.Value;"]) ∧
    Page.add BuiltIn.csharp.language "    " ⟨[], 2⟩ ⟨"else start", []⟩ =
      .ok ⟨["    \x7d", "    else", "    \x7b"], 2⟩ ∧
    Page.add BuiltIn.csharp.language "    " ⟨[], 2⟩ ⟨"if end", []⟩ = .ok ⟨["    \x7d"], 1⟩ := by
  refine ⟨?_, ?_, ?_⟩
  · have hadd : Page.add BuiltIn.csharp.language "    " ⟨[], 1⟩
        ⟨"foreach pair start", ["ages", "pair", "name", "string", "age", "int"].map .literal⟩ =
        .ok ⟨["    foreach (KeyValuePair<string, int> pair in ages)", "    \x7b",
          "        string name = pair.Key;", "        int age = pair.Value;"], 2⟩ := rfl
    obtain ⟨given, hgiven, hopen, -⟩ :=
      Page.add_block BuiltIn.csharp.language "    " ⟨[], 1⟩
        ⟨"foreach pair start", ["ages", "pair", "name", "string", "age", "int"].map .literal⟩
        .foreachPairStart _ (by decide +kernel) rfl
    obtain rfl : ["ages", "pair", "name", "string", "age", "int"] = given :=
      List.map_injective_iff.mpr (fun _ _ => Except.ok.inj) hgiven
    obtain ⟨opening, inside, hopens, hpage⟩ := hopen rfl (by decide)
    refine ⟨opening, inside, hopens, ?_⟩
    rw [hadd] at hpage
    exact (congrArg Page.lines (Except.ok.inj hpage)).symm
  · obtain ⟨given, hgiven, -, hcontinue, -⟩ :=
      Page.add_block BuiltIn.csharp.language "    " ⟨[], 2⟩ ⟨"else start", []⟩ .elseStart _
        (by decide +kernel) rfl
    obtain rfl : [] = given := List.map_injective_iff.mpr (fun _ _ => Except.ok.inj) hgiven
    obtain ⟨left, header, blockStart, hleft, hheader, hstart, -, hpage⟩ :=
      hcontinue rfl (by decide)
    obtain rfl : "\x7d\n" = left := Option.some.inj hleft
    obtain rfl : "else" = header := Except.ok.inj hheader
    obtain rfl : "\n\x7b" = blockStart := Option.some.inj hstart
    exact hpage
  · obtain ⟨given, hgiven, -, -, hclose⟩ :=
      Page.add_block BuiltIn.csharp.language "    " ⟨[], 2⟩ ⟨"if end", []⟩ .ifEnd _
        (by decide +kernel) rfl
    obtain ⟨ending, hending, -, hpage⟩ := hclose rfl (by decide)
    obtain rfl : "\x7d" = ending := Option.some.inj hending
    exact hpage

end Blocks

end Phrasebook
