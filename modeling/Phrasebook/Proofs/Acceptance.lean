import Phrasebook.Proofs.Arity
import Phrasebook.Proofs.Evaluation
import Phrasebook.Proofs.Schema
import Phrasebook.Proofs.Script

/-! Which arguments a command accepts. In a complete language a command renders exactly if their
number suits it and those that have to be words of a vocabulary are such words: no script reads
anything but properties and arguments that are there, and none takes help that would be refused. -/
namespace Phrasebook

open Catalog Script

def Vocabulary.At : Vocabulary → Nat → Prop
  | .truth, k | .privacy, k => k = 0
  | .operators, k => k % 2 = 1

structure Command.Accepts (c : Command) (given : List String) : Prop where
  count : c.signature.check given.length = .ok ()
  words : ∀ v : Vocabulary, v.command = c → ∀ k, v.At k → ∀ word, given[k]? = some word →
    word ∈ v.words

namespace Vocabulary

theorem isSome_truthKeyword? {word : String} :
    (truthKeyword? word).isSome = true ↔ word ∈ words .truth := by
  by_cases ht : word = "true"
  · simp [truthKeyword?, words, ht]
  · by_cases hf : word = "false"
    · simp [truthKeyword?, words, hf]
    · simp [truthKeyword?, words, ht, hf]

theorem isSome_privacyMark? {word : String} :
    (privacyMark? word).isSome = true ↔ word ∈ words .privacy := by
  by_cases hpublic : word = "public"
  · simp [privacyMark?, words, hpublic]
  · by_cases hprotected : word = "protected"
    · simp [privacyMark?, words, hprotected]
    · by_cases hprivate : word = "private"
      · simp [privacyMark?, words, hprivate]
      · simp [privacyMark?, words, hpublic, hprotected, hprivate]

end Vocabulary

theorem getElem?_of_mem_pairUp {xs : List String} {q : String × Option String}
    (h : q ∈ pairUp xs) : ∃ k, xs[2 * k]? = some q.1 := by
  fun_induction pairUp xs with
  | case1 a b rest ih =>
    rcases List.mem_cons.mp h with rfl | h
    · exact ⟨0, rfl⟩
    · obtain ⟨k, hk⟩ := ih h
      exact ⟨k + 1, hk⟩
  | case2 a =>
    obtain rfl := List.mem_singleton.mp h
    exact ⟨0, rfl⟩
  | case3 => simp at h

/-- If none is left over, each has its partner. -/
theorem exists_partner {xs : List String} (heven : xs.length % 2 = 0) :
    ∀ q ∈ pairUp xs, ∃ b, q.2 = some b := by
  fun_induction pairUp xs with
  | case1 a b rest ih =>
    exact List.forall_mem_cons.mpr ⟨⟨b, rfl⟩, ih (by simp at heven; omega)⟩
  | case2 a => simp at heven
  | case3 => simp

theorem exists_mem_pairUp {xs : List String} (heven : xs.length % 2 = 0) {k : Nat} {a : String}
    (h : xs[2 * k]? = some a) : ∃ b, (a, some b) ∈ pairUp xs := by
  fun_induction pairUp xs generalizing k with
  | case1 b c rest ih =>
    cases k with
    | zero =>
      obtain rfl : b = a := by simpa using h
      exact ⟨c, List.mem_cons_self⟩
    | succ k =>
      obtain ⟨d, hd⟩ := ih (by simp at heven; omega) h
      exact ⟨d, List.mem_cons_of_mem _ hd⟩
  | case2 b => simp at heven
  | case3 => simp at h

namespace Command

/-- A command without a vocabulary asks only for the right number of arguments. -/
theorem accepts_of_count {c : Command} {given : List String}
    (hc : c ≠ .boolean ∧ c ≠ .memberVariable ∧ c ≠ .operation)
    (h : c.signature.check given.length = .ok ()) : c.Accepts given := by
  refine ⟨h, fun v hv => ?_⟩
  cases v with
  | truth => exact absurd hv.symm hc.1
  | privacy => exact absurd hv.symm hc.2.1
  | operators => exact absurd hv.symm hc.2.2

theorem Accepts.first {v : Vocabulary} (hv : v.At 0) {given : List String}
    (h : v.command.Accepts given) : given.getD 0 "" ∈ v.words := by
  cases given with
  | nil => cases v <;> exact absurd h.count (by decide)
  | cons word rest => exact h.words v rfl 0 hv word rfl

theorem Accepts.operators {given : List String} (h : Accepts .operation given) :
    ∀ q ∈ pairUp (given.drop 1), q.1 ∈ Vocabulary.words .operators := by
  intro q hq
  obtain ⟨k, hk⟩ := getElem?_of_mem_pairUp hq
  rw [List.getElem?_drop] at hk
  exact h.words .operators rfl (1 + 2 * k) (by simp [Vocabulary.At]) q.1 hk

end Command

def Reading.Met (count : Nat) : Reading → Prop
  | .one i => i < count
  | .rest start => start ≤ count
  | .pairs start => start ≤ count ∧ (count - start) % 2 = 0

/-- A script reads what is there and asks for help only where it is accepted. It refuses no word of
arguments that its own command accepts. -/
def Command.terms (c : Command) (given : List String) : Terms where
  reading := Reading.Met given.length
  help := Command.Accepts
  refusal _ _ := ¬c.Accepts given

section Help

/-! The help that scripts ask for. -/

variable {command : Command} {given : List String} (a b c : String)

@[simp] theorem help_arrayType : (command.terms given).help .arrayType [a] :=
  Command.accepts_of_count (by decide) rfl

@[simp] theorem help_dictionaryIndex : (command.terms given).help .dictionaryIndex [a, b] :=
  Command.accepts_of_count (by decide) rfl

@[simp] theorem help_variableInline : (command.terms given).help .variableInline [a, b] :=
  Command.accepts_of_count (by decide) rfl

@[simp] theorem help_variableDeclaration :
    (command.terms given).help .variableDeclaration [a, b, c] :=
  Command.accepts_of_count (by decide) rfl

@[simp] theorem help_genericType : (command.terms given).help .genericType [a, b] := by
  refine Command.accepts_of_count (by decide) ?_
  show (Command.signature .genericType).check 2 = .ok ()
  rfl

@[simp] theorem help_genericType_pair : (command.terms given).help .genericType [a, b, c] := by
  refine Command.accepts_of_count (by decide) ?_
  show (Command.signature .genericType).check 3 = .ok ()
  rfl

end Help

section Scripts

variable {n : Nat} {c : Command} {given : List String}

theorem operate_within (left : String) {pairs : List (String × Option String)}
    (h : c.Accepts given → ∀ q ∈ pairs, q.1 ∈ Vocabulary.words .operators) :
    (operate left pairs : Script n String).Keeps (c.terms given) given fun _ => True := by
  induction pairs generalizing left with
  | nil => trivial
  | cons q pairs ih =>
    obtain ⟨name, right⟩ := q
    have hrest (left : String) := ih left fun hc => (List.forall_mem_cons.mp (h hc)).2
    cases right with
    | none => exact hrest left
    | some right =>
      refine .seq ⟨fun t => trivial, fun hname hc => ?_⟩ fun t => hrest _
      exact Operator.ofName?_eq_none.mp hname (List.forall_mem_cons.mp (h hc)).1

theorem typedNames_within {pairs : List (String × Option String)}
    (h : ∀ q ∈ pairs, ∃ type, q.2 = some type) :
    (typedNames pairs).Keeps (c.terms given) given fun _ => True := by
  induction pairs with
  | nil => trivial
  | cons q pairs ih =>
    obtain ⟨name, type⟩ := q
    rw [List.forall_mem_cons] at h
    obtain ⟨⟨type, rfl⟩, hrest⟩ := h
    exact .seq (by simp) fun typed => .seq (ih hrest) fun rest => trivial

theorem parameterList_within {start : Nat} (h : (c.terms given).reading (.pairs start)) :
    (parameterList start).Keeps (c.terms given) given fun _ => True := by
  simp only [parameterList, keeps_bind, keeps_argPairs]
  refine ⟨h, (typedNames_within (exists_partner ?_)).mono fun texts _ => trivial⟩
  rw [List.length_drop]
  exact h.2

theorem importLines_within (package : String) (items : List String) :
    (importLines package items : Script n (List Line)).Keeps (c.terms given) given
      fun _ => True := by
  induction items with
  | nil => trivial
  | cons item items ih => exact .seq (by simp [importLine]) fun text => .seq ih fun _ => trivial

theorem extraction_within (p : PairLoop) (declared asPair asKeys : Bool) :
    (p.extraction declared asPair asKeys).Keeps (c.terms given) given fun _ => True := by
  have hline (name type value : String) :
      (declarationLine name type value).Keeps (c.terms given) given fun _ => True := by
    simp [declarationLine]
  simp [PairLoop.extraction, hline]

theorem foreachPairStart_within (h : ∀ i ≤ 5, (c.terms given).reading (.one i)) :
    foreachPairStart.Keeps (c.terms given) given fun _ => True := by
  have hread (i : Nat) (hi : i ≤ 5) :
      (arg i : Script 2 String).Keeps (c.terms given) given fun _ => True := ⟨h i hi, trivial⟩
  refine .seq (hread 0 (by decide)) fun container => .seq (hread 1 (by decide)) fun pairName => ?_
  refine .seq (hread 2 (by decide)) fun keyName => .seq (hread 3 (by decide)) fun keyType => ?_
  refine .seq (hread 4 (by decide)) fun valueName => .seq (hread 5 (by decide)) fun valueType => ?_
  refine .seq (by simp) fun asMethod => keeps_ite.mpr ⟨fun _ => by simp, fun _ => ?_⟩
  refine .seq (by simp) fun declared => .seq (by simp) fun asPair => .seq (by simp) fun asKeys => ?_
  refine .seq (by simp [PairLoop.binding]) fun binding => ?_
  refine .seq (by simp) fun range => .seq (by simp) fun keyword => ?_
  refine .seq (by simp [conditionHeader]) fun header => .seq (by simp [openBlock]) fun opened => ?_
  exact .seq (extraction_within _ declared asPair asKeys) fun lines => trivial

/-- A group of two required slots takes an even number of arguments. -/
theorem Fills.even {g : SlotGroup} {k : Nat} (h : Fills [.repeating g] k)
    (hleast : g.minimumWidth = 2) (hmost : g.width = 2) : k % 2 = 0 := by
  obtain ⟨r, -, hr⟩ := fills_group.mp h
  rw [SlotGroup.repeats_iff, hleast, hmost] at hr
  omega

theorem pairs_of_operation {count : Nat}
    (h : (Command.signature .operation).check count = .ok ()) : Reading.Met count (.pairs 1) := by
  obtain ⟨m, rfl, hpairs⟩ :=
    (fills_required rfl).mp ((Signature.check_eq_ok (Command.regular _)).mp h)
  have heven : m % 2 = 0 := hpairs.even rfl rfl
  exact ⟨by omega, by omega⟩

theorem pairs_of_parameters {count : Nat} (hc : c = .functionStart ∨ c = .lambda)
    (h : c.signature.check count = .ok ()) : Reading.Met count (.pairs 2) := by
  have hfills := (Signature.check_eq_ok c.regular).mp h
  rcases hc with rfl | rfl <;>
  · obtain ⟨m, rfl, hrest⟩ := (fills_required rfl).mp hfills
    obtain ⟨k, rfl, hpairs⟩ := (fills_required rfl).mp hrest
    have heven : k % 2 = 0 := hpairs.even rfl rfl
    exact ⟨by omega, by omega⟩

end Scripts

/-- On a number of arguments that suits its command, a script keeps to its terms. -/
theorem script_within {c : Command} {given : List String}
    (h : c.signature.check given.length = .ok ()) :
    (script c).Keeps (c.terms given) given fun _ => True := by
  have hone (i : Nat) (hi : i < c.signature.minimum) : (c.terms given).reading (.one i) :=
    hi.trans_le ((Signature.check_eq_ok c.regular).mp h).minimum_le
  have hrest (i : Nat) (hi : i ≤ c.signature.minimum) : (c.terms given).reading (.rest i) :=
    hi.trans ((Signature.check_eq_ok c.regular).mp h).minimum_le
  have hlist (hc : c = .functionStart ∨ c = .lambda) :
      (parameterList 2).Keeps (c.terms given) given fun _ => True :=
    parameterList_within (pairs_of_parameters hc h)
  cases c <;> dsimp only [script, Command.rank]
  case boolean =>
    simp only [boolean, keeps_bind, keeps_arg]
    refine ⟨hone 0 (by decide), ?_⟩
    cases hk : Vocabulary.truthKeyword? (given.getD 0 "") with
    | none =>
      intro hc
      have hsome := Vocabulary.isSome_truthKeyword?.mpr (Command.Accepts.first (v := .truth) rfl hc)
      rw [hk] at hsome
      cases hsome
    | some keyword => simp
  case memberVariable =>
    have hinstance := hone 1 (by decide)
    have hname := hone 2 (by decide)
    simp only [memberVariable, keeps_bind, keeps_arg]
    refine ⟨hone 0 (by decide), ?_⟩
    cases hm : Vocabulary.privacyMark? (given.getD 0 "") with
    | none =>
      intro hc
      have hsome :=
        Vocabulary.isSome_privacyMark?.mpr (Command.Accepts.first (v := .privacy) rfl hc)
      rw [hm] at hsome
      cases hsome
    | some mark => simp [hinstance, hname]
  case operation =>
    simp only [operation, keeps_bind, keeps_arg, keeps_argPairs]
    refine ⟨hone 0 (by decide), pairs_of_operation h, ?_⟩
    exact (operate_within _ fun hc => hc.operators).mono fun _ _ => trivial
  case functionStart | lambda =>
    have hfirst := hone 0 (by decide)
    have hsecond := hone 1 (by decide)
    simp [functionStart, Catalog.lambda, openBlock, hlist, hfirst, hsecond]
  case foreachPairStart =>
    exact foreachPairStart_within fun i hi => hone i (Nat.lt_succ_of_le hi)
  case classStart =>
    have hname := hone 0 (by decide)
    cases hparent : given[1]? <;> simp [classStart, openBlock, hparent, hname]
  case returnValue => cases hvalue : given[0]? <;> simp [returnValue, hvalue]
  case variableDeclaration =>
    have hname := hone 0 (by decide)
    have htype := hone 1 (by decide)
    cases hvalue : given[2]? <;> simp [variableDeclaration, typedName, hvalue, hname, htype]
  case dictionarySet | foreachStart =>
    have hall (i : Nat) (hi : i ≤ 2) := hone i (Nat.lt_succ_of_le hi)
    simp [dictionarySet, foreachStart, typedName, conditionHeader, openBlock, hall]
  case cast | catchStart | concatenate | dictionaryIndex | dictionaryNew | enumMember | genericType
      | importItems | listPush | throwException | variableInline =>
    have hfirst := hone 0 (by decide)
    have hsecond := hone 1 (by decide)
    have hitems := hrest 1 (by decide)
    simp [Catalog.cast, catchStart, concatenate, dictionaryIndex, dictionaryNew, enumMember,
      genericType, importItems, importLine, importLines_within, listPush, throwException,
      variableInline, construct, continueBlock, hfirst, hsecond, hitems]
  case arrayInitialize | arrayType | elseIfStart | enumStart | functionCall | ifStart | isNotNull
      | isNull | listLength | listNew | newInstance | negation | numberToString | print
      | stringLength | whileStart =>
    have hfirst := hone 0 (by decide)
    have hitems := hrest 1 (by decide)
    simp [arrayInitialize, arrayType, elseIfStart, enumStart, functionCall, ifStart, isNotNull,
      isNull, listLength, listNew, newInstance, Catalog.negation, numberToString, Catalog.print,
      stringLength, whileStart, construct, conditionHeader, continueBlock, openBlock, listed,
      hfirst, hitems]
  all_goals
    have hitems := hrest 0 (Nat.zero_le _)
    simp [blankLine, closeBlock, commentBlock, commentBlockEnd, commentBlockStart, commentLine,
      elseStart, finallyStart, null, packagePath, thisInstance, tryStart, continueBlock, openBlock,
      hitems]

/-- In a complete language a script fails only by a refusal or for want of help. -/
theorem Script.Keeps.succeeds {l : Language} (hset : ∀ p, l.value p ≠ none)
    (ha : l.assemble = l) {n : Nat} {α : Type} {s : Script n α} {reader : Command}
    {given : List String} {P : α → Prop}
    {help : (c : Command) → c.rank < n → List String → Except RenderError String}
    (hhelp : ∀ c lower as, c.Accepts as → ∃ t, help c lower as = .ok t)
    (hgiven : reader.Accepts given) (h : s.Keeps (reader.terms given) given P) :
    ∃ a, s.eval l reader given help = .ok a := by
  induction s with
  | done a => exact ⟨a, rfl⟩
  | refuse v word => exact absurd hgiven h
  | argument i next ih => exact ih _ h.2
  | optional i next ih => exact ih _ h
  | arguments i next ih => exact ih _ h.2
  | pairs i next ih => exact ih _ h.2
  | fragment f next ih =>
    cases hf : l.fragment f with
    | none => exact absurd (by simp [Language.value, hf]) (hset (.fragment f))
    | some t => simpa [eval, hf] using ih t (h t)
  | policy p next ih =>
    cases hp : l.policy p with
    | none => exact absurd (by simp [Language.value, hp]) (hset (.policy p))
    | some b => simpa [eval, hp] using ih b (h b)
  | importStyle next ih =>
    cases hs : l.importStyle with
    | none => exact absurd (by simp [Language.value, hs]) (hset .importStyle)
    | some s => simpa [eval, hs] using ih s (h s)
  | spelling name next ih =>
    -- The spellings are a second copy, which no check looks at; assembly makes it a complete one.
    have halias := Language.alias_eq ha name
    cases ho : Operator.ofName? name with
    | none => simpa [eval, halias, ho] using ih none (h.2 ho)
    | some o =>
      cases hf : l.fragment (.operator o) with
      | none => exact absurd (by simp [Language.value, hf]) (hset (.fragment (.operator o)))
      | some t => simpa [eval, halias, ho, hf] using ih (some t) (h.1 t)
  | compose c lower as next ih =>
    obtain ⟨t, ht⟩ := hhelp c lower as h.1
    simpa [eval, ht] using ih t (h.2 t)

theorem runBelow_succeeds {l : Language} (hset : ∀ p, l.value p ≠ none) (ha : l.assemble = l)
    (n : Nat) (c : Command) (lower : c.rank < n) {given : List String} (h : c.Accepts given) :
    ∃ r, runBelow l n c lower given = .ok r := by
  induction n generalizing c given with
  | zero => exact absurd lower (Nat.not_lt_zero _)
  | succ n ih =>
    rw [runBelow, h.count]
    refine (script_within h.count).succeeds hset ha (fun d lower' as hd => ?_) h
    obtain ⟨r, hr⟩ := ih d (by omega) hd
    exact ⟨r.firstText, by simp [hr, Except.map]⟩

section Scripts

variable {n : Nat} {given : List String}

theorem boolean_word : (boolean : Script n Rendering).Keeps .any given
    fun _ => given.getD 0 "" ∈ Vocabulary.words .truth := by
  simp only [boolean, keeps_bind, keeps_arg]
  refine ⟨trivial, ?_⟩
  cases hk : Vocabulary.truthKeyword? (given.getD 0 "") with
  | none => trivial
  | some keyword =>
    have hmem := Vocabulary.isSome_truthKeyword?.mp (Option.isSome_of_eq_some hk)
    exact .last fun _ => hmem

theorem memberVariable_word : (memberVariable : Script n Rendering).Keeps .any given
    fun _ => given.getD 0 "" ∈ Vocabulary.words .privacy := by
  simp only [memberVariable, keeps_bind, keeps_arg]
  refine ⟨trivial, ?_⟩
  cases hm : Vocabulary.privacyMark? (given.getD 0 "") with
  | none => trivial
  | some mark =>
    have hmem := Vocabulary.isSome_privacyMark?.mp (Option.isSome_of_eq_some hm)
    exact keeps_any_true.mono fun _ _ => hmem

variable {l : Language} (ha : l.assemble = l) {reader : Command}
  {help : (c : Command) → c.rank < n → List String → Except RenderError String}
include ha

theorem operate_words (left : String) (pairs : List (String × Option String)) :
    (operate left pairs : Script n String).Yields l reader given help
      fun _ => ∀ name right, (name, some right) ∈ pairs → name ∈ Vocabulary.words .operators := by
  induction pairs generalizing left with
  | nil => simp [operate, yields_pure]
  | cons q pairs ih =>
    obtain ⟨name, right⟩ := q
    cases right with
    | none =>
      rw [operate]
      simpa using ih left
    | some right =>
      refine yields_bind.mpr (yields_operatorText.mpr fun t ht => ?_)
      refine (ih _).mono fun _ hrest name' right' hmem => ?_
      rcases List.mem_cons.mp hmem with heq | hmem
      · obtain rfl : name' = name := congrArg Prod.fst heq
        obtain ⟨o, ho, -⟩ := (Language.spelling_eq_some ha).mp ht
        exact List.mem_map.mpr ⟨o, o.mem_all, ho⟩
      · exact hrest name' right' hmem

theorem operation_words : (operation : Script n Rendering).Yields l reader given help fun _ =>
    ∀ name right, (name, some right) ∈ pairUp (given.drop 1) →
      name ∈ Vocabulary.words .operators := by
  simp only [operation, yields_bind, yields_arg, yields_argPairs]
  exact (operate_words ha _ _).mono fun _ hpairs => yields_pure.mpr hpairs

end Scripts

theorem accepts_of_run {l : Language} (ha : l.assemble = l) {c : Command} {given : List String}
    {r : Rendering} (h : c.run l given = .ok r) : c.Accepts given := by
  obtain ⟨hcount, help, he⟩ := Command.eval_of_run h
  refine ⟨hcount, ?_⟩
  rintro v rfl k hk word hword
  cases v with
  | truth =>
    obtain rfl : k = 0 := hk
    simpa [hword] using boolean_word.result he
  | privacy =>
    obtain rfl : k = 0 := hk
    simpa [hword] using memberVariable_word.result he
  | operators =>
    obtain ⟨j, rfl⟩ : ∃ j, k = 1 + 2 * j := ⟨k / 2, by simp only [Vocabulary.At] at hk; omega⟩
    rw [← List.getElem?_drop] at hword
    have heven : (given.drop 1).length % 2 = 0 := by
      rw [List.length_drop]
      exact (pairs_of_operation hcount).2
    obtain ⟨right, hmem⟩ := exists_mem_pairUp heven hword
    exact operation_words ha _ he word right hmem

/-- A complete language renders a command exactly on the arguments that the command accepts. -/
theorem run_succeeds_iff {l : Language} (hset : ∀ p, l.value p ≠ none) (ha : l.assemble = l)
    {c : Command} {given : List String} : (∃ r, c.run l given = .ok r) ↔ c.Accepts given :=
  ⟨fun ⟨_, h⟩ => accepts_of_run ha h, runBelow_succeeds hset ha 3 c c.rank_lt⟩

end Phrasebook
