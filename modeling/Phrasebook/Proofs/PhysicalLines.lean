import Phrasebook.Proofs.Composition
import Phrasebook.Proofs.Evaluation
import Phrasebook.Proofs.Unbroken

/-! Physical lines. Only the texts that open a block, or go on with another one, are divided into
lines. All else is written as it is, so that every line stays one line of the text as long as
nothing else has a newline. -/
namespace Phrasebook

open Text

def Fragment.mayBreak : Fragment → Bool
  | .styleBlockStart | .styleBlockContinueLeft => true
  | _ => false

@[simp] theorem Fragment.mayBreak_eq_false {f : Fragment} :
    f.mayBreak = false ↔ f ≠ .styleBlockStart ∧ f ≠ .styleBlockContinueLeft := by
  unfold mayBreak
  split <;> simp_all

structure Language.Unbroken (l : Language) : Prop where
  fragment : ∀ f t, f.mayBreak = false → l.fragment f = some t → Text.Unbroken t
  spelling : ∀ name t, l.spelling name = some t → Text.Unbroken t

open Script Catalog

/-- The pairs are made of the arguments. -/
theorem mem_of_mem_pairUp : ∀ {xs : List String} {q : String × Option String}, q ∈ pairUp xs →
    ∀ a ∈ q.1 :: q.2.toList, a ∈ xs
  | [a], q, h => by
    obtain rfl := List.mem_singleton.mp h
    simp
  | a :: b :: xs, q, h => by
    rw [pairUp, List.mem_cons] at h
    rcases h with rfl | h
    · simp
    · intro c hc
      have hrest := mem_of_mem_pairUp h c hc
      simp [hrest]

structure UnbrokenSources {n : Nat} (l : Language) (given : List String)
    (help : (c : Command) → c.rank < n → List String → Except RenderError String) : Prop where
  language : l.Unbroken
  given : ∀ a ∈ given, Unbroken a
  help : ∀ c lower as t, (∀ a ∈ as, Unbroken a) → help c lower as = .ok t → Unbroken t

section Results

variable {n : Nat} {l : Language} {reader : Command} {given : List String}
  {help : (c : Command) → c.rank < n → List String → Except RenderError String}

/-- A phrase has no newline if none of its parts has. -/
theorem Script.Yields.phrase {steps : List (Script n String)}
    (h : ∀ s ∈ steps, s.Yields l reader given help Unbroken) :
    (phrase steps).Yields l reader given help Unbroken := by
  induction steps with
  | nil => exact yields_phrase_nil.mpr unbroken_empty
  | cons s steps ih =>
    rw [List.forall_mem_cons] at h
    refine yields_phrase_cons.mpr (h.1.mono fun t ht => (ih h.2).mono fun u hu => ?_)
    exact unbroken_append.mpr ⟨ht, hu⟩

theorem Script.Yields.line {s : Script n String} (h : s.Yields l reader given help Unbroken) :
    (do return .line (← s) : Script n Rendering).Yields l reader given help Rendering.Unbroken :=
  h.seq fun _ ht => yields_pure.mpr (Rendering.unbroken_line.mpr ht)

theorem Script.Yields.statement {s : Script n String}
    (h : s.Yields l reader given help Unbroken) :
    (do return .statement (← s) : Script n Rendering).Yields l reader given help
      Rendering.Unbroken :=
  h.seq fun _ ht => yields_pure.mpr (Rendering.unbroken_statement.mpr ht)

theorem openBlock_unbroken {header : String} (h : Unbroken header) :
    (openBlock header).Yields l reader given help Rendering.Unbroken :=
  .last fun ender => yields_pure.mpr ((Rendering.unbroken_line.mpr h).close ender 1)

/-- The header is divided into lines along with the text before it. -/
theorem continueBlock_unbroken (header : String) :
    (continueBlock header).Yields l reader given help Rendering.Unbroken := by
  have hmarker : ((Rendering.empty false).marker (-1)).Unbroken := by
    simp [Rendering.Unbroken, Rendering.marker, Rendering.push, Rendering.empty]
  refine .last fun left => .last fun ender => yields_pure.mpr ?_
  exact (hmarker.pushText (left ++ header) 0).close ender 1

theorem catchStart_unbroken :
    (catchStart : Script n Rendering).Yields l reader given help Rendering.Unbroken := by
  refine .last fun start => .last fun typed => ?_
  extract_lets rest
  have hrest (type : String) : (rest type).Yields l reader given help Rendering.Unbroken :=
    .last fun name => continueBlock_unbroken (start ++ type ++ name)
  exact yields_ite.mpr ⟨fun _ => .last hrest, fun _ => .last hrest⟩

end Results

namespace UnbrokenSources

variable {n : Nat} {l : Language} {reader : Command} {given : List String}
  {help : (c : Command) → c.rank < n → List String → Except RenderError String}
  (h : UnbrokenSources l given help)
include h

theorem getD (i : Nat) : Unbroken (given.getD i "") := by
  rw [List.getD_eq_getElem?_getD]
  cases hi : given[i]? with
  | none => exact unbroken_empty
  | some a => exact h.given a (List.mem_of_getElem? hi)

theorem drop (i : Nat) : ∀ a ∈ given.drop i, Unbroken a :=
  fun a ha => h.given a (List.mem_of_mem_drop ha)

theorem pairs (i : Nat) : ∀ q ∈ pairUp (given.drop i), ∀ a ∈ q.1 :: q.2.toList, Unbroken a :=
  fun _ hq a ha => h.drop i a (mem_of_mem_pairUp hq a ha)

theorem arg (i : Nat) : (arg i : Script n String).Yields l reader given help Unbroken :=
  yields_arg.mpr (h.getD i)

theorem text {f : Fragment} (hf : f.mayBreak = false) :
    (text f : Script n String).Yields l reader given help Unbroken :=
  yields_text.mpr fun t ht => h.language.fragment f t hf ht

theorem args (i : Nat) :
    (args i : Script n (List String)).Yields l reader given help fun ts => ∀ t ∈ ts, Unbroken t :=
  yields_args.mpr (h.drop i)

theorem operatorText (name : String) :
    (operatorText name : Script n String).Yields l reader given help Unbroken :=
  yields_operatorText.mpr fun t ht => h.language.spelling name t ht

theorem take {c : Command} {as : List String} {lower : c.rank < n} (has : ∀ a ∈ as, Unbroken a) :
    (take c as lower).Yields l reader given help Unbroken :=
  yields_take.mpr fun t ht => h.help c lower as t has ht

theorem listed (i : Nat) : (listed i : Script n String).Yields l reader given help Unbroken :=
  (h.args i).seq fun _ hitems => yields_pure.mpr (unbroken_join unbroken_comma hitems)

end UnbrokenSources

section Plain

variable {n : Nat} {l : Language} {reader : Command} {given : List String}
  {help : (c : Command) → c.rank < n → List String → Except RenderError String}
  (h : UnbrokenSources l given help)
include h

theorem closeBlock_unbroken :
    (closeBlock : Script n Rendering).Yields l reader given help Rendering.Unbroken := by
  refine (h.text rfl).seq fun ending hending => yields_pure.mpr ?_
  by_cases he : ending = ""
  · simp [he, Rendering.Unbroken, Rendering.marker, Rendering.push, Rendering.empty]
  · simp [he, hending, Rendering.Unbroken, Rendering.marker, Rendering.push, Rendering.empty]

theorem conditionHeader_unbroken {keyword condition : String} (hk : Unbroken keyword)
    (hc : Unbroken condition) :
    (conditionHeader keyword condition : Script n String).Yields l reader given help Unbroken := by
  refine .phrase ?_
  simp [yields_pure, hk, hc, h.text]

theorem concatenate_unbroken :
    (concatenate : Script n Rendering).Yields l reader given help Rendering.Unbroken := by
  refine (h.text rfl).seq fun separator hs => (h.arg 0).seq fun left hleft => ?_
  refine (h.args 1).seq fun rest hrest => yields_pure.mpr (Rendering.unbroken_line.mpr ?_)
  exact unbroken_join hs (List.forall_mem_cons.mpr ⟨hleft, hrest⟩)

theorem genericType_unbroken :
    (genericType : Script n Rendering).Yields l reader given help Rendering.Unbroken := by
  refine (h.arg 0).seq fun name hname => .last fun used => yields_ite.mpr ⟨fun _ => ?_, fun _ => ?_⟩
  · refine (h.text rfl).seq fun left hleft => (h.text rfl).seq fun middle hmiddle => ?_
    refine (h.args 1).seq fun types htypes => (h.text rfl).seq fun right hright => ?_
    exact yields_pure.mpr (by simp [hname, hleft, unbroken_join hmiddle htypes, hright])
  · exact yields_pure.mpr (Rendering.unbroken_line.mpr hname)

theorem cast_unbroken :
    (Catalog.cast : Script n Rendering).Yields l reader given help Rendering.Unbroken := by
  refine (h.arg 1).seq fun value hvalue => .last fun required => ?_
  refine yields_ite.mpr ⟨fun _ => .line (.phrase ?_), fun _ => ?_⟩
  · simp [yields_pure, hvalue, h.arg, h.text]
  · exact yields_pure.mpr (Rendering.unbroken_line.mpr hvalue)

theorem variableInline_unbroken :
    (variableInline : Script n Rendering).Yields l reader given help Rendering.Unbroken := by
  refine (h.arg 0).seq fun name hname => (h.arg 1).seq fun type htype => .last fun explicit => ?_
  refine yields_ite.mpr ⟨fun _ => .last fun after => ?_, fun _ => ?_⟩
  · refine yields_ite.mpr ⟨fun _ => .line (.phrase ?_), fun _ => .line (.phrase ?_)⟩
    · simp [yields_pure, hname, htype, h.text]
    · simp [yields_pure, hname, htype, h.text]
  · exact yields_pure.mpr (Rendering.unbroken_line.mpr hname)

theorem boolean_unbroken :
    (boolean : Script n Rendering).Yields l reader given help Rendering.Unbroken := by
  refine (h.arg 0).seq fun word _ => ?_
  simp only [Vocabulary.truthKeyword?]
  split
  · next keyword hk =>
    have hf : keyword.mayBreak = false := by grind [Fragment.mayBreak_eq_false]
    exact (h.text hf).line
  · exact yields_refuse

theorem memberVariable_unbroken :
    (memberVariable : Script n Rendering).Yields l reader given help Rendering.Unbroken := by
  refine (h.arg 0).seq fun word _ => ?_
  simp only [Vocabulary.privacyMark?]
  split
  · next privacy hp =>
    have hf : privacy.mayBreak = false := by grind [Fragment.mayBreak_eq_false]
    refine (h.text hf).seq fun mark hmark => ?_
    refine (h.text rfl).seq fun access haccess => (h.arg 2).seq fun name hname => ?_
    refine .last fun implicitly => yields_ite.mpr ⟨fun _ => yields_pure.mpr ?_, fun _ => ?_⟩
    · simp [haccess, hmark, hname]
    · refine (h.arg 1).seq fun holder hholder => yields_pure.mpr ?_
      simp [hholder, haccess, hmark, hname]
  · exact yields_refuse

theorem classStart_unbroken :
    (classStart : Script n Rendering).Yields l reader given help Rendering.Unbroken := by
  refine .seq (.phrase (by simp [h.arg, h.text])) fun start hstart => ?_
  refine yields_bind.mpr (yields_arg?.mpr ?_)
  cases hp : given[1]? with
  | none => exact openBlock_unbroken hstart
  | some parent =>
    have hparent := h.given parent (List.mem_of_getElem? hp)
    refine .seq (.phrase ?_) fun header hheader => openBlock_unbroken hheader
    simp [yields_pure, hstart, hparent, h.text]

theorem returnValue_unbroken :
    (returnValue : Script n Rendering).Yields l reader given help Rendering.Unbroken := by
  refine (h.text rfl).seq fun keyword hkeyword => yields_bind.mpr (yields_arg?.mpr ?_)
  cases hv : given[0]? with
  | none => exact yields_pure.mpr (Rendering.unbroken_statement.mpr hkeyword)
  | some value =>
    have hvalue := h.given value (List.mem_of_getElem? hv)
    exact yields_pure.mpr (by simp [hkeyword, hvalue])

theorem comment_unbroken {f : Fragment} (hf : f.mayBreak = false) :
    (do return .line (commentText (← text f) (← args 0)) : Script n Rendering).Yields l reader given
      help Rendering.Unbroken := by
  refine (h.text hf).seq fun left hleft => (h.args 0).seq fun words hwords => ?_
  refine yields_pure.mpr (Rendering.unbroken_line.mpr ?_)
  cases words with
  | nil => exact unbroken_trimEnd hleft
  | cons word words => simp [commentText, hleft, unbroken_join unbroken_blank hwords]

theorem importLine_unbroken {package items : String} (hp : Unbroken package)
    (hi : Unbroken items) :
    (importLine package items : Script n String).Yields l reader given help Unbroken := by
  refine .last fun itemsFirst => yields_ite.mpr ⟨fun _ => .phrase ?_, fun _ => .phrase ?_⟩
  · simp [yields_pure, hp, hi, h.text]
  · simp [yields_pure, hp, hi, h.text]

theorem importLines_unbroken {package : String} (hp : Unbroken package) {items : List String}
    (hi : ∀ item ∈ items, Unbroken item) :
    (importLines package items : Script n (List Line)).Yields l reader given help
      fun ls => ∀ line ∈ ls, Unbroken line.text := by
  induction items with
  | nil => exact yields_pure.mpr (List.forall_mem_nil _)
  | cons item items ih =>
    rw [List.forall_mem_cons] at hi
    refine (importLine_unbroken h hp hi.1).seq fun line hline => (ih hi.2).seq fun ls hls => ?_
    exact yields_pure.mpr (List.forall_mem_cons.mpr ⟨hline, hls⟩)

theorem importItems_unbroken :
    (importItems : Script n Rendering).Yields l reader given help Rendering.Unbroken := by
  refine (h.arg 0).seq fun package hp => (h.args 1).seq fun items hi => .last fun explicitly => ?_
  refine yields_ite.mpr ⟨fun _ => ?_, fun _ => ?_⟩
  · exact (importLines_unbroken h hp hi).seq fun ls hls => yields_pure.mpr hls
  · exact (importLine_unbroken h hp (unbroken_join unbroken_comma hi)).line

theorem operate_unbroken {left : String} (hleft : Unbroken left)
    {pairs : List (String × Option String)}
    (hpairs : ∀ q ∈ pairs, ∀ a ∈ q.1 :: q.2.toList, Unbroken a) :
    (operate left pairs : Script n String).Yields l reader given help Unbroken := by
  induction pairs generalizing left with
  | nil => exact yields_pure.mpr hleft
  | cons q pairs ih =>
    obtain ⟨name, right⟩ := q
    obtain ⟨hfirst, hrest⟩ := List.forall_mem_cons.mp hpairs
    cases right with
    | none => exact ih hleft hrest
    | some right =>
      have hright : Unbroken right := hfirst right (by simp)
      refine (h.operatorText name).seq fun operator ho => ih ?_ hrest
      simp [hleft, ho, hright]

theorem operation_unbroken :
    (operation : Script n Rendering).Yields l reader given help Rendering.Unbroken := by
  refine (h.arg 0).seq fun left hleft => yields_bind.mpr (yields_argPairs.mpr ?_)
  exact (operate_unbroken h hleft (h.pairs 1)).statement

end Plain

section Composed

variable {l : Language} {reader : Command} {given : List String}
  {help : (c : Command) → c.rank < 1 → List String → Except RenderError String}
  (h : UnbrokenSources l given help)
include h

theorem construct_unbroken {className : String} (hc : Unbroken className) :
    (construct className).Yields l reader given help Unbroken := by
  refine .phrase ?_
  simp [yields_pure, hc, h.text]

theorem arrayInitialize_unbroken :
    arrayInitialize.Yields l reader given help Rendering.Unbroken := by
  have hitems : (phrase [text .arrayInitializeLeft, listed 1, text .arrayInitializeRight]).Yields
      l reader given help Unbroken :=
    .phrase (by simp [h.listed, h.text])
  refine .last fun typed => yields_ite.mpr ⟨fun _ => ?_, fun _ => hitems.line⟩
  refine (h.text rfl).seq fun start hstart => (h.arg 0).seq fun item hitem => ?_
  refine (h.take (by simp [hitem])).seq fun type htype => hitems.seq fun items hi => ?_
  exact yields_pure.mpr (by simp [hstart, htype, hi])

theorem dictionaryNew_unbroken : dictionaryNew.Yields l reader given help Rendering.Unbroken := by
  refine .last fun typed => yields_ite.mpr ⟨fun _ => ?_, fun _ => (h.text rfl).line⟩
  refine (h.text rfl).seq fun className hc => (h.arg 0).seq fun key hk => ?_
  refine (h.arg 1).seq fun value hv => (h.take (by simp [hc, hk, hv])).seq fun type htype => ?_
  exact (construct_unbroken h htype).line

theorem listNew_unbroken : listNew.Yields l reader given help Rendering.Unbroken := by
  refine .last fun typed => yields_ite.mpr ⟨fun _ => ?_, fun _ => (h.text rfl).line⟩
  refine (h.text rfl).seq fun className hc => (h.arg 0).seq fun item hi => ?_
  exact (h.take (by simp [hc, hi])).seq fun type htype => (construct_unbroken h htype).line

theorem dictionarySet_unbroken : dictionarySet.Yields l reader given help Rendering.Unbroken := by
  refine (h.arg 0).seq fun container hc => (h.arg 1).seq fun key hk => ?_
  refine (h.take (by simp [hc, hk])).seq fun entry hentry => .statement (.phrase ?_)
  simp [yields_pure, hentry, h.arg, h.text]

theorem typedName_unbroken {name type : String} (hn : Unbroken name) (ht : Unbroken type) :
    (typedName name type).Yields l reader given help Unbroken :=
  h.take (by simp [hn, ht])

theorem variableDeclaration_unbroken :
    variableDeclaration.Yields l reader given help Rendering.Unbroken := by
  refine .last fun required => ?_
  -- Both branches go on with the same steps.
  extract_lets rest
  have hrest {declared : String} (hdeclared : Unbroken declared) :
      (rest declared).Yields l reader given help Rendering.Unbroken := by
    refine yields_bind.mpr (yields_arg?.mpr ?_)
    cases hv : given[2]? with
    | none => exact yields_pure.mpr (Rendering.unbroken_statement.mpr hdeclared)
    | some value =>
      have hvalue := h.given value (List.mem_of_getElem? hv)
      refine (h.text rfl).seq fun equals he => yields_pure.mpr ?_
      simp [hdeclared, he, hvalue]
  refine yields_ite.mpr ⟨fun _ => ?_, fun _ => (h.arg 0).seq fun _ => hrest⟩
  refine (h.text rfl).seq fun declaration hd => (h.arg 0).seq fun name hn => ?_
  refine (h.arg 1).seq fun type ht => (typedName_unbroken h hn ht).seq fun typed htyped => ?_
  exact .seq (yields_pure.mpr (unbroken_append.mpr ⟨hd, htyped⟩)) fun _ => hrest

theorem foreachStart_unbroken : foreachStart.Yields l reader given help Rendering.Unbroken := by
  refine (h.arg 0).seq fun container hc => (h.arg 1).seq fun value hv => ?_
  refine (h.arg 2).seq fun type ht => .last fun asMethod => ?_
  refine yields_ite.mpr ⟨fun _ => ?_, fun _ => .last fun required => ?_⟩
  · refine .seq (.phrase ?_) fun text htext => yields_pure.mpr (Rendering.unbroken_single.mpr htext)
    simp [yields_pure, hc, hv, h.text]
  · extract_lets rest
    have hrest {binding : String} (hbinding : Unbroken binding) :
        (rest binding).Yields l reader given help Rendering.Unbroken := by
      refine (h.text rfl).seq fun keyword hkeyword => .seq (.phrase ?_) fun range hrange => ?_
      · simp [yields_pure, hc, h.text]
      · have hcondition := unbroken_append.mpr ⟨hbinding, hrange⟩
        exact (conditionHeader_unbroken h hkeyword hcondition).seq fun _ => openBlock_unbroken
    refine yields_ite.mpr ⟨fun _ => ?_, fun _ => .seq (yields_pure.mpr hv) fun _ => hrest⟩
    refine (h.text rfl).seq fun declaration hd => ?_
    refine (typedName_unbroken h hv ht).seq fun typed htyped => ?_
    exact .seq (yields_pure.mpr (unbroken_append.mpr ⟨hd, htyped⟩)) fun _ => hrest

theorem typedNames_unbroken {ps : List (String × Option String)}
    (hps : ∀ q ∈ ps, ∀ a ∈ q.1 :: q.2.toList, Unbroken a) :
    (typedNames ps).Yields l reader given help fun ts => ∀ t ∈ ts, Unbroken t := by
  induction ps with
  | nil => exact yields_pure.mpr (List.forall_mem_nil _)
  | cons p ps ih =>
    rw [List.forall_mem_cons] at hps
    refine (h.take hps.1).seq fun typed htyped => ?_
    refine (ih hps.2).seq fun ts hts => yields_pure.mpr ?_
    exact List.forall_mem_cons.mpr ⟨htyped, hts⟩

theorem parameterList_unbroken (i : Nat) :
    (parameterList i).Yields l reader given help Unbroken := by
  refine yields_bind.mpr (yields_argPairs.mpr ?_)
  refine (typedNames_unbroken h (h.pairs i)).seq fun ts hts => yields_pure.mpr ?_
  exact unbroken_join unbroken_comma hts

theorem functionStart_unbroken : functionStart.Yields l reader given help Rendering.Unbroken := by
  refine (h.arg 1).seq fun type htype => .last fun explicit => .last fun after => ?_
  refine (h.text rfl).seq fun start hstart => ?_
  extract_lets withBefore
  have hbefore {before : String} (hbefore : Unbroken before) :
      (withBefore before).Yields l reader given help Rendering.Unbroken := by
    refine .seq (.phrase ?_) fun parameters hparameters => ?_
    · simp [h.arg, parameterList_unbroken h, h.text]
    · extract_lets withBehind
      have hbehind {behind : String} (hbehind : Unbroken behind) :
          (withBehind behind).Yields l reader given help Rendering.Unbroken :=
        openBlock_unbroken (by simp [hstart, hbefore, hparameters, hbehind])
      refine yields_ite.mpr ⟨fun _ => .seq (.phrase ?_) fun _ => hbehind, fun _ => ?_⟩
      · simp [yields_pure, htype, h.text]
      · exact .seq (yields_pure.mpr unbroken_empty) fun _ => hbehind
  refine yields_ite.mpr ⟨fun _ => .seq (.phrase ?_) fun _ => hbefore, fun _ => ?_⟩
  · simp [yields_pure, htype, h.text]
  · exact .seq (yields_pure.mpr unbroken_empty) fun _ => hbefore

theorem lambda_unbroken : Catalog.lambda.Yields l reader given help Rendering.Unbroken := by
  refine .seq (.phrase ?_) fun parameters hparameters => .last fun explicit => ?_
  · simp [parameterList_unbroken h, h.text]
  · extract_lets withType withStated
    have htype {type : String} (htype : Unbroken type) :
        (withType type).Yields l reader given help Rendering.Unbroken := by
      refine .seq (.phrase ?_) fun body hbody => yields_pure.mpr ?_
      · simp [h.arg, h.text]
      · simp [hparameters, htype, hbody]
    have hstated (stated : Bool) :
        (withStated stated).Yields l reader given help Rendering.Unbroken := by
      refine yields_ite.mpr ⟨fun _ => .seq (.phrase ?_) fun _ => htype, fun _ => ?_⟩
      · simp [h.arg, h.text]
      · exact .seq (yields_pure.mpr unbroken_empty) fun _ => htype
    exact yields_ite.mpr ⟨fun _ => .last hstated, fun _ => .last hstated⟩

end Composed

structure Catalog.PairLoop.Unbroken (p : PairLoop) : Prop where
  container : Text.Unbroken p.container
  pairName : Text.Unbroken p.pairName
  keyName : Text.Unbroken p.keyName
  keyType : Text.Unbroken p.keyType
  valueName : Text.Unbroken p.valueName
  valueType : Text.Unbroken p.valueType

section PairLoop

variable {l : Language} {reader : Command} {given : List String}
  {help : (c : Command) → c.rank < 2 → List String → Except RenderError String}
  (h : UnbrokenSources l given help)
include h

theorem declarationLine_unbroken {name type value : String} (hn : Unbroken name)
    (ht : Unbroken type) (hv : Unbroken value) :
    (declarationLine name type value).Yields l reader given help Unbroken := by
  refine (h.take (by simp [hn, ht, hv])).seq fun declaration hd => ?_
  exact (h.text rfl).seq fun semicolon hs => yields_pure.mpr (unbroken_append.mpr ⟨hd, hs⟩)

variable {p : PairLoop} (hp : p.Unbroken)
include hp

theorem binding_unbroken (declared asPair asKeys : Bool) :
    (p.binding declared asPair asKeys).Yields l reader given help Unbroken := by
  have hiterated : Unbroken (p.iterated asKeys) := by
    cases asKeys with
    | false => exact hp.pairName
    | true => exact hp.keyName
  cases declared with
  | false => cases asPair <;> exact yields_pure.mpr (by simp [hp.keyName, hp.valueName])
  | true =>
    rw [PairLoop.binding, if_pos rfl]
    extract_lets rest
    have hrest {type : String} (ht : Unbroken type) :
        (rest type).Yields l reader given help Unbroken := by
      refine (h.text rfl).seq fun declaration hd => ?_
      refine (h.take (by simp [hiterated, ht])).seq fun typed htyped => ?_
      exact yields_pure.mpr (unbroken_append.mpr ⟨hd, htyped⟩)
    refine yields_ite.mpr ⟨fun _ => (h.text rfl).seq fun pairClass hclass => ?_, fun _ => ?_⟩
    · exact (h.take (by simp [hclass, hp.keyType, hp.valueType])).seq fun _ => hrest
    · exact .seq (yields_pure.mpr hp.keyType) fun _ => hrest

theorem extraction_unbroken (declared asPair asKeys : Bool) :
    (p.extraction declared asPair asKeys).Yields l reader given help
      fun ts => ∀ t ∈ ts, Unbroken t := by
  refine yields_ite.mpr ⟨fun _ => ?_, fun _ => yields_ite.mpr ⟨fun _ => ?_, fun _ => ?_⟩⟩
  · refine .seq (.phrase ?_) fun key hkey => .seq (.phrase ?_) fun value hvalue => ?_
    · simp [yields_pure, hp.pairName, h.text]
    · simp [yields_pure, hp.pairName, h.text]
    · refine (declarationLine_unbroken h hp.keyName hp.keyType hkey).seq fun first hfirst => ?_
      refine (declarationLine_unbroken h hp.valueName hp.valueType hvalue).seq fun second hs => ?_
      exact yields_pure.mpr (by simp [hfirst, hs])
  · refine (h.take (by simp [hp.container, hp.keyName])).seq fun value hvalue => ?_
    refine (declarationLine_unbroken h hp.valueName hp.valueType hvalue).seq fun line hline => ?_
    exact yields_pure.mpr (by simp [hline])
  · exact yields_pure.mpr (List.forall_mem_nil _)

omit hp in
theorem foreachPairStart_unbroken :
    foreachPairStart.Yields l reader given help Rendering.Unbroken := by
  refine (h.arg 0).seq fun container hc => (h.arg 1).seq fun pairName hp => ?_
  refine (h.arg 2).seq fun keyName hk => (h.arg 3).seq fun keyType hkt => ?_
  refine (h.arg 4).seq fun valueName hv => (h.arg 5).seq fun valueType hvt => ?_
  have hloop : PairLoop.Unbroken ⟨container, pairName, keyName, keyType, valueName, valueType⟩ :=
    ⟨hc, hp, hk, hkt, hv, hvt⟩
  refine .last fun asMethod => yields_ite.mpr ⟨fun _ => ?_, fun _ => ?_⟩
  · refine .seq (.phrase ?_) fun text htext => yields_pure.mpr (Rendering.unbroken_single.mpr htext)
    simp [yields_pure, hc, hk, hv, h.text]
  · refine .last fun declared => .last fun asPair => .last fun asKeys => ?_
    refine (binding_unbroken h hloop declared asPair asKeys).seq fun binding hbinding => ?_
    refine .seq (.phrase ?_) fun range hrange => (h.text rfl).seq fun keyword hkeyword => ?_
    · simp [yields_pure, hc, h.text]
    · have hcondition := unbroken_append.mpr ⟨hbinding, hrange⟩
      refine (conditionHeader_unbroken h hkeyword hcondition).seq fun header hheader => ?_
      refine (openBlock_unbroken hheader).seq fun opened hopened => ?_
      refine (extraction_unbroken h hloop declared asPair asKeys).seq fun lines hlines => ?_
      exact yields_pure.mpr (hopened.pushes hlines)

end PairLoop

/-- One command, if the texts of the commands it takes help from are unbroken. -/
theorem script_unbroken {l : Language} {c : Command} {given : List String}
    {help : (d : Command) → d.rank < c.rank → List String → Except RenderError String}
    (h : UnbrokenSources l given help) :
    (script c).Yields l c given help Rendering.Unbroken := by
  have htext {f : Fragment} (hf : f.mayBreak = false) :
      (text f : Script c.rank String).Yields l c given help Unbroken := h.text hf
  have harg (i : Nat) : (arg i : Script c.rank String).Yields l c given help Unbroken := h.arg i
  have hlisted (i : Nat) : (listed i : Script c.rank String).Yields l c given help Unbroken :=
    h.listed i
  cases c
  case classEnd | enumEnd | foreachEnd | functionEnd | ifEnd | tryEnd | whileEnd =>
    exact closeBlock_unbroken h
  case arrayInitialize => exact arrayInitialize_unbroken h
  case boolean => exact boolean_unbroken h
  case cast => exact cast_unbroken h
  case catchStart => exact catchStart_unbroken
  case classStart => exact classStart_unbroken h
  case concatenate => exact concatenate_unbroken h
  case commentBlock | commentLine => exact comment_unbroken h rfl
  case dictionaryNew => exact dictionaryNew_unbroken h
  case dictionarySet => exact dictionarySet_unbroken h
  case foreachPairStart => exact foreachPairStart_unbroken h
  case foreachStart => exact foreachStart_unbroken h
  case functionStart => exact functionStart_unbroken h
  case genericType => exact genericType_unbroken h
  case importItems => exact importItems_unbroken h
  case lambda => exact lambda_unbroken h
  case listNew => exact listNew_unbroken h
  case memberVariable => exact memberVariable_unbroken h
  case operation => exact operation_unbroken h
  case returnValue => exact returnValue_unbroken h
  case variableDeclaration => exact variableDeclaration_unbroken h
  case variableInline => exact variableInline_unbroken h
  case packagePath =>
    exact .last fun style => (h.args 0).seq fun words hwords =>
      yields_pure.mpr (Rendering.unbroken_line.mpr (style.unbroken_convert hwords))
  case blankLine => exact yields_pure.mpr (Rendering.unbroken_line.mpr unbroken_empty)
  case elseIfStart => exact .last fun _ => .last fun _ => .last continueBlock_unbroken
  case elseStart | finallyStart => exact .last continueBlock_unbroken
  case ifStart | whileStart =>
    exact (h.text rfl).seq fun _ hk => (h.arg 0).seq fun _ hc =>
      (conditionHeader_unbroken h hk hc).seq fun _ => openBlock_unbroken
  case tryStart => exact (h.text rfl).seq fun _ => openBlock_unbroken
  case enumStart => exact .seq (.phrase (by simp [htext, harg])) fun _ => openBlock_unbroken
  case commentBlockEnd | commentBlockStart | null | thisInstance => exact (h.text rfl).line
  case functionCall | listPush | print | throwException =>
    exact .statement (.phrase (by simp [htext, harg, hlisted]))
  all_goals exact .line (.phrase (by simp [htext, harg, hlisted]))

theorem run_unbroken {l : Language} (hl : l.Unbroken) {c : Command} {given : List String}
    (hgiven : ∀ a ∈ given, Unbroken a) {r : Rendering} (h : c.run l given = .ok r) :
    r.Unbroken := by
  induction c using Command.rank_induction generalizing given r with
  | h c ih =>
    have hsources : UnbrokenSources l given
        fun (d : Command) (_ : d.rank < c.rank) as => d.inline l as := by
      refine ⟨hl, hgiven, fun d lower as t has ht => ?_⟩
      obtain ⟨r', hr', rfl⟩ := map_eq_ok.mp ht
      exact (ih d lower has hr').firstText
    rw [Command.run_eq] at h
    obtain ⟨_, -, heval⟩ := bind_eq_ok.mp h
    exact script_unbroken hsources r heval

def Argument.Unbroken (a : Argument) : Prop :=
  ∀ path t, a.at? path = some (.literal t) → Text.Unbroken t

namespace Argument

theorem unbroken_literal {t : String} : (literal t).Unbroken ↔ Text.Unbroken t := by
  constructor
  · exact fun h => h [] t rfl
  · intro h path u hu
    cases path with
    | nil =>
      obtain rfl : t = u := by simpa [at?] using hu
      exact h
    | cons p path => cases hu

theorem unbroken_nested {name : String} {as : List Argument} :
    (nested name as).Unbroken ↔ ∀ a ∈ as, a.Unbroken := by
  constructor
  · intro h a ha path t ht
    obtain ⟨p, hp⟩ := List.getElem?_of_mem ha
    exact h (p :: path) t (by simp [at?, hp, ht])
  · intro h path t ht
    cases path with
    | nil => cases ht
    | cons p path =>
      obtain ⟨a, hp, hat⟩ := Option.bind_eq_some_iff.mp ht
      exact h a (List.mem_of_getElem? hp) path t hat

end Argument

section Invocations

variable {l : Language} (hl : l.Unbroken)
include hl

theorem resolve_unbroken {d : Nat} {a : Argument} (ha : a.Unbroken) {t : String}
    (h : a.resolve l d = .ok t) : Text.Unbroken t := by
  induction a generalizing d t with
  | literal text =>
    rw [Argument.resolve] at h
    obtain rfl := Except.ok.inj h
    exact Argument.unbroken_literal.mp ha
  | nested name as ih =>
    obtain ⟨-, c, -, texts, htexts, r, hr, rfl⟩ := resolve_nested_eq_ok.mp h
    refine (run_unbroken hl (fun u hu => ?_) hr).firstText
    obtain ⟨b, hb, hresolve⟩ := exists_of_map_eq_ok htexts hu
    exact ih b hb (Argument.unbroken_nested.mp ha b hb) hresolve

theorem render_unbroken {i : Invocation} (hi : i.asArgument.Unbroken) {r : Rendering}
    (h : i.render l = .ok r) : r.Unbroken := by
  obtain ⟨-, c, -, texts, htexts, hr⟩ := perform_eq_ok.mp h
  refine run_unbroken hl (fun u hu => ?_) hr
  obtain ⟨b, hb, hresolve⟩ := exists_of_map_eq_ok (resolveAll_eq_ok.mp htexts) hu
  exact resolve_unbroken hl (Argument.unbroken_nested.mp hi b hb) hresolve

end Invocations

theorem terminate_unbroken {ending : String} (he : Unbroken ending) {ls : List Line}
    (h : ∀ line ∈ ls, Unbroken line.text) : ∀ line ∈ terminate ending ls, Unbroken line.text := by
  induction ls with
  | nil => exact h
  | cons l ls ih =>
    rw [List.forall_mem_cons] at h
    rw [terminate]
    split
    · exact List.forall_mem_cons.mpr ⟨h.1, ih h.2⟩
    · exact List.forall_mem_cons.mpr ⟨unbroken_append.mpr ⟨h.1, he⟩, h.2⟩

theorem terminator_unbroken {l : Language} (hl : l.Unbroken) {i : Invocation} {r : Rendering}
    {ending : String} (h : terminator l i r = .ok ending) : Unbroken ending := by
  rw [terminator] at h
  split at h
  · split at h
    · next semicolon hs =>
      obtain rfl := Except.ok.inj h
      exact hl.fragment _ _ rfl hs
    · cases h
  · obtain rfl := Except.ok.inj h
    exact unbroken_empty

namespace Page

def Unbroken (page : Page) : Prop :=
  ∀ line ∈ page.lines, Text.Unbroken line

variable {unit : String} (hunit : Text.Unbroken unit) {page next : Page} (hpage : page.Unbroken)
include hunit hpage

theorem Unbroken.place {l : Line} (hl : Text.Unbroken l.text) (h : page.place unit l = .ok next) :
    next.Unbroken := by
  have hindented : Text.Unbroken (indented unit page.level l.text) := by
    rw [indented]
    split
    · exact unbroken_empty
    · exact unbroken_append.mpr ⟨unbroken_repeated hunit _, hl⟩
  rw [Page.place] at h
  split at h
  · cases h
  · obtain rfl := Except.ok.inj h
    rw [Page.Unbroken]
    split
    · exact hpage
    · rw [List.forall_mem_append]
      exact ⟨hpage, by simpa using hindented⟩

theorem Unbroken.add {l : Language} (hl : l.Unbroken) {i : Invocation}
    (hi : i.asArgument.Unbroken) (h : Page.add l unit page i = .ok next) : next.Unbroken := by
  obtain ⟨r, hr, ending, he, hrun⟩ := Page.add_eq_ok.mp h
  have hlines := terminate_unbroken (terminator_unbroken hl he) (render_unbroken hl hi hr)
  exact foldlM_keeps (fun line hline _ _ hpage => hpage.place hunit (hlines line hline)) hpage hrun

end Page

/-- If the texts of a language have no newlines, apart from those that open a block or go on with
another one, and the arguments of a unit have none either, then no line of the unit has one. Hence
the lines of its text are its lines. -/
theorem renderUnit_unbroken {l : Language} (hl : l.Unbroken) {us : List Invocation}
    (hus : ∀ i ∈ us, i.asArgument.Unbroken) {lines : List String}
    (h : renderUnit l us = .ok lines) :
    (∀ line ∈ lines, Unbroken line) ∧
      (lines ≠ [] → (renderSource l us).map splitLines = .ok lines) := by
  obtain ⟨unit, hunit⟩ := indentation_of_renderUnit h
  have hlines : ∀ line ∈ lines, Unbroken line := by
    have hindentation := hl.fragment _ _ rfl hunit
    rw [renderUnit_eq hunit] at h
    obtain ⟨page, hpage, rfl⟩ := map_eq_ok.mp h
    have hstart : Page.start.Unbroken := List.forall_mem_nil _
    exact foldlM_keeps (fun i hi _ _ hpage => hpage.add hindentation hl (hus i hi)) hstart hpage
  refine ⟨hlines, fun hne => ?_⟩
  rw [renderSource, h]
  exact congrArg Except.ok (splitLines_join hne hlines)

/-- Braces on lines of their own, which the language puts into the texts of its blocks. -/
theorem renderUnit_unbroken_braces :
    let l := BuiltIn.csharp.language
    let us : List Invocation :=
      [⟨"if start", [.nested "not" [.literal "x"]]⟩, ⟨"else start", []⟩,
        ⟨"comment line", [.literal "done"]⟩, ⟨"if end", []⟩]
    l.Unbroken ∧ (∀ i ∈ us, i.asArgument.Unbroken) ∧
    (renderSource l us).map splitLines = .ok
      ["if (!x)", "\x7b", "\x7d", "else", "\x7b", "    // done", "\x7d"] := by
  intro l us
  have hl : l.Unbroken := by
    constructor
    · rintro f t hf ⟨⟩
      cases f with
      | styleBlockStart => cases hf
      | styleBlockContinueLeft => cases hf
      | operator o => cases o <;> decide
      | _ => decide
    · intro name t ht
      obtain ⟨o, -, ho⟩ := (Language.spelling_eq_some rfl).mp ht
      cases o <;> cases ho <;> decide
  have hus : ∀ i ∈ us, i.asArgument.Unbroken := by
    simp [us, Invocation.asArgument, Argument.unbroken_nested, Argument.unbroken_literal,
      Text.Unbroken]
  refine ⟨hl, hus, (renderUnit_unbroken hl hus ?_).2 (by decide)⟩
  dsimp only [l, us]
  rfl

end Phrasebook
