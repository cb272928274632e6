import Phrasebook.Proofs.Blocks

/-! The variables of loops over pairs. A language may bind key and value in the header of the loop,
take them out of the pair or look the value up in the first lines of the block, or do neither. The
main statement says when a variable is lost, that is, when its name makes no difference to what the
command renders; in all other languages different names render differently. -/
namespace Phrasebook

open Text Script Catalog Rendering

/-- What is made of a name tells one name from another if the name is shown, and is the same for all
names if it is not. -/
def Tells {α : Type} (shown : Bool) (f : String → α) : Prop :=
  ∀ x y, f x = f y ↔ (shown = true → x = y)

namespace Tells

variable {α β γ : Type} {shown shown' : Bool} {f : String → α} {g : String → β}

theorem const (h : ∀ x y, f x = f y) : Tells false f := by
  intro x y
  simp [h x y]

theorem name : Tells true fun x => x := by
  simp [Tells]

theorem congr (hf : Tells shown f) (h : ∀ x y, g x = g y ↔ f x = f y) : Tells shown g := by
  intro x y
  rw [h, hf]

/-- What is made of two parts shows the name if one of them does. -/
theorem both {h : String → γ} (hf : Tells shown f) (hg : Tells shown' g)
    (hh : ∀ x y, h x = h y ↔ f x = f y ∧ g x = g y) : Tells (shown || shown') h := by
  intro x y
  rw [hh, hf, hg, Bool.or_eq_true]
  constructor
  · intro hboth hor
    exact hor.elim hboth.1 hboth.2
  · intro hor
    exact ⟨fun hs => hor (.inl hs), fun hs => hor (.inr hs)⟩

end Tells

/-- The text of a command in an expression is what its script comes to. -/
theorem Command.inline_eq_ok {l : Language} {c : Command} {given : List String} {t : String}
    (h : c.signature.check given.length = .ok ()) :
    c.inline l given = .ok t ↔
      ∃ r, (script c).eval l c given (fun d _ as => d.inline l as) = .ok r ∧ r.firstText = t := by
  rw [Command.inline, map_eq_ok, Command.run_of_check h]

section Frames

variable {l : Language} {name type value : String}

theorem variableInline_framed {typed : String}
    (h : Command.variableInline.inline l [name, type] = .ok typed) :
    ∃ left right, ∀ x, Command.variableInline.inline l [x, type] = .ok (left ++ x ++ right) := by
  have hinline (x t : String) : Command.variableInline.inline l [x, type] = .ok t ↔
      ∃ r, variableInline.eval l .variableInline [x, type] (fun d _ as => d.inline l as) = .ok r ∧
        r.firstText = t := Command.inline_eq_ok rfl
  simp only [hinline, variableInline, eval_bind_eq_ok, eval_flag_eq_ok] at h ⊢
  obtain ⟨r, ⟨_, -, _, -, explicit, hexplicit, h⟩, -⟩ := h
  cases explicit with
  | false =>
    exact ⟨"", "", fun x => ⟨.line x, ⟨x, rfl, type, rfl, false, hexplicit, rfl⟩, by simp⟩⟩
  | true =>
    simp only [if_true, eval_bind_eq_ok, eval_flag_eq_ok] at h
    obtain ⟨after, hafter, h⟩ := h
    cases after with
    | true =>
      simp only [if_true, eval_bind_eq_ok, eval_phrase_cons_eq_ok, eval_text_eq_ok] at h
      obtain ⟨_, ⟨_, -, _, ⟨left, hleft, -⟩, -⟩, -⟩ := h
      refine ⟨"", left ++ type, fun x =>
        ⟨.line (x ++ (left ++ type)), ⟨x, rfl, type, rfl, true, hexplicit, ?_⟩, ?_⟩⟩
      · simp [hafter, hleft]
      · simp
    | false =>
      simp only [Bool.false_eq_true, if_false, eval_bind_eq_ok, eval_phrase_cons_eq_ok,
        eval_text_eq_ok] at h
      obtain ⟨_, ⟨_, -, _, ⟨right, hright, -⟩, -⟩, -⟩ := h
      refine ⟨type ++ right, "", fun x =>
        ⟨.line (type ++ right ++ x), ⟨x, rfl, type, rfl, true, hexplicit, ?_⟩, ?_⟩⟩
      · simp [hafter, hright, String.append_assoc]
      · simp

theorem dictionaryIndex_framed {container entry : String}
    (h : Command.dictionaryIndex.inline l [container, name] = .ok entry) :
    ∃ left right, ∀ x,
      Command.dictionaryIndex.inline l [container, x] = .ok (left ++ x ++ right) := by
  have hinline (x t : String) : Command.dictionaryIndex.inline l [container, x] = .ok t ↔
      ∃ r, dictionaryIndex.eval l .dictionaryIndex [container, x] (fun d _ as => d.inline l as) =
        .ok r ∧ r.firstText = t := Command.inline_eq_ok rfl
  simp only [hinline, dictionaryIndex, eval_bind_eq_ok, eval_phrase_cons_eq_ok,
    eval_text_eq_ok] at h ⊢
  obtain ⟨_, ⟨_, ⟨_, -, _, ⟨left, hleft, _, ⟨_, -, _, ⟨right, hright, -⟩, -⟩, -⟩, -⟩, -⟩, -⟩ := h
  refine ⟨container ++ left, right, fun x => ⟨.line (container ++ (left ++ (x ++ right))), ?_, ?_⟩⟩
  · simp [hleft, hright]
  · simp [String.append_assoc]

theorem declares_framed {line : String} (h : PairLoop.Declares l name type value line) :
    ∃ left middle right, ∀ x y,
      PairLoop.Declares l x type y (left ++ x ++ middle ++ y ++ right) := by
  have hinline (x y t : String) : Command.variableDeclaration.inline l [x, type, y] = .ok t ↔
      ∃ r, variableDeclaration.eval l .variableDeclaration [x, type, y]
        (fun d _ as => d.inline l as) = .ok r ∧ r.firstText = t := Command.inline_eq_ok rfl
  obtain ⟨_, semicolon, hstatement, hsemicolon, -⟩ := h
  obtain ⟨r, hr, -⟩ := (hinline name value _).mp hstatement
  cases hd : l.policy .variableDeclarationRequired with
  | none => simp [variableDeclaration, hd] at hr
  | some declared =>
    cases declared with
    | false =>
      obtain ⟨equals, hequals, -⟩ : ∃ equals, l.fragment (.operator .equals) = some equals ∧
          .statement (name ++ equals ++ value) = r := by
        simpa [variableDeclaration, hd, bind_eq_ok, elim_eq_ok] using hr
      refine ⟨"", equals, semicolon, fun x y =>
        ⟨x ++ equals ++ y, semicolon, (hinline x y _).mpr ⟨.statement (x ++ equals ++ y), ?_, ?_⟩,
          hsemicolon, ?_⟩⟩
      · simp [variableDeclaration, hd, hequals]
      · simp
      · simp
    | true =>
      obtain ⟨declaration, hdeclaration, typed, htyped, equals, hequals, -⟩ :
          ∃ declaration, l.fragment .variableDeclaration = some declaration ∧
          ∃ typed, Command.variableInline.inline l [name, type] = .ok typed ∧
          ∃ equals, l.fragment (.operator .equals) = some equals ∧
            .statement (declaration ++ typed ++ equals ++ value) = r := by
        simpa [variableDeclaration, typedName, hd, bind_eq_ok, elim_eq_ok] using hr
      obtain ⟨left, right, hframed⟩ := variableInline_framed htyped
      refine ⟨declaration ++ left, right ++ equals, semicolon, fun x y =>
        ⟨declaration ++ (left ++ x ++ right) ++ equals ++ y, semicolon, (hinline x y _).mpr
          ⟨.statement (declaration ++ (left ++ x ++ right) ++ equals ++ y), ?_, ?_⟩,
          hsemicolon, ?_⟩⟩
      · simp [variableDeclaration, typedName, hd, hdeclaration, hframed, hequals]
      · simp
      · simp [String.append_assoc]

end Frames

inductive LoopVariable where
  | key
  | value

namespace LoopVariable

def inBinding (declared asPair asKeys : Bool) : LoopVariable → Bool
  | .key => !declared || asKeys
  | .value => !declared && !asPair

def inLines (declared asPair asKeys : Bool) : Bool :=
  declared && asPair || asKeys

def Lost (l : Language) : LoopVariable → Prop
  | .key =>
    l.policy .loopForeachAsMethod = some false ∧ l.policy .loopForeachPairsAsPair = some false ∧
      l.policy .loopForeachPairsAsKeys = some false ∧
      l.policy .variableDeclarationRequired = some true
  | .value =>
    l.policy .loopForeachAsMethod = some false ∧ l.policy .loopForeachPairsAsKeys = some false ∧
      (l.policy .variableDeclarationRequired = some true ∧
          l.policy .loopForeachPairsAsPair = some false ∨
        l.policy .variableDeclarationRequired = some false ∧
          l.policy .loopForeachPairsAsPair = some true)

end LoopVariable

namespace Catalog.PairLoop

def nameOf (p : PairLoop) : LoopVariable → String
  | .key => p.keyName
  | .value => p.valueName

def rename (p : PairLoop) (name : String) : LoopVariable → PairLoop
  | .key => { p with keyName := name }
  | .value => { p with valueName := name }

variable {l : Language} {p : PairLoop} {declared asPair asKeys : Bool}

theorem rename_nameOf (p : PairLoop) (v : LoopVariable) : p.rename (p.nameOf v) v = p := by
  cases v <;> rfl

theorem Types.rename {type : String} (h : p.Types l asPair type) (v : LoopVariable)
    (name : String) : (p.rename name v).Types l asPair type := by
  cases h with
  | pair hclass htype => cases v <;> exact .pair hclass htype
  | key => cases v <;> exact .key

theorem Binds.tells {binding : String} (h : p.Binds l declared asPair asKeys binding)
    (v : LoopVariable) : ∃ bound : String → String,
      (∀ x, (p.rename x v).Binds l declared asPair asKeys (bound x)) ∧
      Tells (v.inBinding declared asPair asKeys) bound := by
  cases h with
  | @declared _ _ _ declaration _ htype hdeclaration htyped =>
    obtain ⟨left, right, hframed⟩ := variableInline_framed htyped
    refine ⟨fun x => declaration ++ (left ++
      (if asKeys then (p.rename x v).keyName else (p.rename x v).pairName) ++ right),
      fun x => .declared (htype.rename v x) hdeclaration (hframed _), ?_⟩
    cases v with
    | key =>
      cases asKeys with
      | true => exact Tells.name.congr fun x y => by simp [rename]
      | false => exact .const fun _ _ => rfl
    | value => exact .const fun _ _ => rfl
  | key =>
    refine ⟨fun x => (p.rename x v).keyName, fun x => .key, ?_⟩
    cases v with
    | key => exact .name
    | value => exact .const fun _ _ => rfl
  | keyAndValue =>
    refine ⟨fun x => (p.rename x v).keyName ++ ", " ++ (p.rename x v).valueName,
      fun x => .keyAndValue, ?_⟩
    cases v with
    | key => exact Tells.name.congr fun x y => by simp [rename]
    | value => exact Tells.name.congr fun x y => by simp [rename]

theorem Extracts.tells {lines : List String} (h : p.Extracts l declared asPair asKeys lines)
    (v : LoopVariable) : ∃ taken : String → List String,
      (∀ x, (p.rename x v).Extracts l declared asPair asKeys (taken x)) ∧
      Tells (LoopVariable.inLines declared asPair asKeys) taken := by
  cases h with
  | @pair _ retrieveKey retrieveValue _ _ hretrieveKey hretrieveValue hkey hvalue =>
    obtain ⟨keyLeft, keyMiddle, keyRight, hkeyFramed⟩ := declares_framed hkey
    obtain ⟨valueLeft, valueMiddle, valueRight, hvalueFramed⟩ := declares_framed hvalue
    cases v with
    | key =>
      refine ⟨_, fun x => .pair hretrieveKey hretrieveValue (hkeyFramed x _) hvalue, ?_⟩
      exact Tells.name.congr fun x y => by simp [rename]
    | value =>
      refine ⟨_, fun x => .pair hretrieveKey hretrieveValue hkey (hvalueFramed x _), ?_⟩
      exact Tells.name.congr fun x y => by simp [rename]
  | entry hpair hentry hvalue =>
    -- The one line declares the value, and looks it up by the key.
    obtain ⟨left, middle, right, hframed⟩ := declares_framed hvalue
    rw [LoopVariable.inLines, hpair]
    cases v with
    | key =>
      obtain ⟨before, after, hentryFramed⟩ := dictionaryIndex_framed hentry
      refine ⟨_, fun x => .entry hpair (hentryFramed x) (hframed _ _), ?_⟩
      exact Tells.name.congr fun x y => by simp [rename]
    | value =>
      refine ⟨_, fun x => .entry hpair hentry (hframed x _), ?_⟩
      exact Tells.name.congr fun x y => by simp
  | nothing hpair =>
    refine ⟨fun _ => [], fun x => .nothing hpair, ?_⟩
    rw [LoopVariable.inLines, hpair]
    exact .const fun _ _ => rfl

/-- Headers of loops over one container differ in what they bind only. -/
theorem Heads.framed {binding header : String} (h : p.Heads l binding header) :
    ∃ left right, ∀ (v : LoopVariable) (name bound : String),
      (p.rename name v).Heads l bound (left ++ bound ++ right) := by
  obtain ⟨keyword, left, middle, getPairs, right, closing, hfragments, -⟩ := h
  refine ⟨keyword ++ left, middle ++ p.container ++ getPairs ++ right ++ closing,
    fun v name bound => ⟨keyword, left, middle, getPairs, right, closing, hfragments, ?_⟩⟩
  cases v <;> simp only [rename, String.append_assoc]

end Catalog.PairLoop

section Runs

variable {l : Language} {p : PairLoop} {r : Rendering}

/-- An opening tells its header, and the lines after it. -/
theorem opening_eq_iff {ts us vs : List String} (hts : ts ≠ []) (header header' : String) :
    (⟨linesOf 1 (ts.modifyHead (header ++ ·)) ++ linesOf 0 us, false⟩ : Rendering) =
        ⟨linesOf 1 (ts.modifyHead (header' ++ ·)) ++ linesOf 0 vs, false⟩ ↔
      header = header' ∧ us = vs := by
  constructor
  · intro h
    have htexts := congrArg (fun r : Rendering => r.lines.map (·.text)) h
    simp only [List.map_append, map_text_linesOf] at htexts
    -- Both openings have as many lines as the text that opens the block.
    obtain ⟨hopening, hinside⟩ := List.append_inj htexts (by simp)
    obtain ⟨t, rest, rfl⟩ := List.exists_cons_of_ne_nil hts
    exact ⟨by simpa using hopening, hinside⟩
  · intro h
    rw [h.1, h.2]

theorem run_tells_of_method (hm : l.policy .loopForeachAsMethod = some true)
    (h : Command.foreachPairStart.run l p.arguments = .ok r) (v : LoopVariable) :
    ∃ f : String → Rendering,
      (∀ x, Command.foreachPairStart.run l (p.rename x v).arguments = .ok (f x)) ∧
      Tells true f := by
  rw [run_foreachPairStart_eq] at h
  obtain ⟨getPairs, right, hpairs, hright, -⟩ := (foreachPairStart_method hm).mp h
  refine ⟨_, fun x => (run_foreachPairStart_eq l _).trans
    ((foreachPairStart_method hm).mpr ⟨getPairs, right, hpairs, hright, rfl⟩), ?_⟩
  cases v with
  | key => exact Tells.name.congr fun x y => by simp [PairLoop.rename, single]
  | value => exact Tells.name.congr fun x y => by simp [PairLoop.rename, single]

theorem run_tells_of_block (hm : l.policy .loopForeachAsMethod = some false)
    (h : Command.foreachPairStart.run l p.arguments = .ok r) (v : LoopVariable) :
    ∃ declared asPair asKeys, l.PairShape declared asPair asKeys ∧ ∃ f : String → Rendering,
      (∀ x, Command.foreachPairStart.run l (p.rename x v).arguments = .ok (f x)) ∧
      Tells (v.inBinding declared asPair asKeys || LoopVariable.inLines declared asPair asKeys)
        f := by
  rw [run_foreachPairStart_eq] at h
  obtain ⟨declared, asPair, asKeys, hshape, binding, header, blockStart, inside, hbinding, hheads,
    hstart, hinside, -⟩ := (foreachPairStart_block hm).mp h
  obtain ⟨bound, hbound, hboundTells⟩ := hbinding.tells v
  obtain ⟨taken, htaken, htakenTells⟩ := hinside.tells v
  obtain ⟨left, right, hframed⟩ := hheads.framed
  refine ⟨declared, asPair, asKeys, hshape, fun x =>
    ⟨linesOf 1 ((splitLines blockStart).modifyHead ((left ++ bound x ++ right) ++ ·)) ++
      linesOf 0 (taken x), false⟩, fun x => ?_, ?_⟩
  · rw [run_foreachPairStart_eq]
    exact (foreachPairStart_block hm).mpr ⟨declared, asPair, asKeys, hshape, bound x,
      left ++ bound x ++ right, blockStart, taken x, hbound x, hframed v x (bound x), hstart,
      htaken x, rfl⟩
  · apply hboundTells.both htakenTells
    intro x y
    rw [opening_eq_iff (splitLines_ne_nil blockStart)]
    simp

theorem LoopVariable.lost_iff (hm : l.policy .loopForeachAsMethod = some false)
    {declared asPair asKeys : Bool} (h : l.PairShape declared asPair asKeys) (v : LoopVariable) :
    (v.inBinding declared asPair asKeys || inLines declared asPair asKeys) = false ↔ v.Lost l := by
  cases v with
  | key =>
    simp only [Lost, inBinding, inLines, hm, h.declared, h.asPair, h.asKeys, Option.some.injEq]
    cases declared <;> cases asPair <;> cases asKeys <;> decide
  | value =>
    simp only [Lost, inBinding, inLines, hm, h.declared, h.asPair, h.asKeys, Option.some.injEq]
    cases declared <;> cases asPair <;> cases asKeys <;> decide

/-- What the command renders, as a function of the name of a variable. -/
theorem run_tells (h : Command.foreachPairStart.run l p.arguments = .ok r) (v : LoopVariable) :
    ∃ (shown : Bool) (f : String → Rendering),
      (∀ x, Command.foreachPairStart.run l (p.rename x v).arguments = .ok (f x)) ∧
      Tells shown f ∧ (shown = false ↔ v.Lost l) := by
  obtain ⟨asMethod, hm⟩ := foreachPairStart_asMethod (run_foreachPairStart_eq l p ▸ h)
  cases asMethod with
  | true =>
    obtain ⟨f, hf, htells⟩ := run_tells_of_method hm h v
    refine ⟨true, f, hf, htells, ?_⟩
    cases v <;> simp [LoopVariable.Lost, hm]
  | false =>
    obtain ⟨declared, asPair, asKeys, hshape, f, hf, htells⟩ := run_tells_of_block hm h v
    exact ⟨_, f, hf, htells, LoopVariable.lost_iff hm hshape v⟩

/-- A name of a variable makes no difference to what the loop renders exactly if the language loses
the variable. -/
theorem run_foreachPairStart_rename (l : Language) (p : PairLoop) (r : Rendering)
    (h : Command.foreachPairStart.run l p.arguments = .ok r) (v : LoopVariable) (name : String)
    (hname : name ≠ p.nameOf v) :
    ∃ r', Command.foreachPairStart.run l (p.rename name v).arguments = .ok r' ∧
      (r' = r ↔ v.Lost l) := by
  obtain ⟨shown, f, hf, htells, hlost⟩ := run_tells h v
  have hr : f (p.nameOf v) = r := by
    have hsame := hf (p.nameOf v)
    rw [p.rename_nameOf, h] at hsame
    exact (Except.ok.inj hsame).symm
  refine ⟨f name, hf name, ?_⟩
  rw [← hr, htells, ← hlost]
  simp [hname]

/-- A language that declares a variable for the pair and takes nothing out of it has neither key nor
value, while one that unpacks the pair in the header has both. -/
theorem run_foreachPairStart_rename_lost :
    Command.foreachPairStart.run
        (BuiltIn.csharp.language.set (.policy .loopForeachPairsAsPair (some false)))
        ["ages", "pair", "name", "string", "years", "int"] =
      .ok ⟨[⟨"foreach (string pair in ages)", 0⟩, ⟨"\x7b", 1⟩], false⟩ ∧
    ∃ r, Command.foreachPairStart.run BuiltIn.python.language
        ["ages", "pair", "who", "string", "age", "int"] = .ok r ∧
      r ≠ ⟨[⟨"for name, age in ages.items():", 1⟩], false⟩ := by
  constructor
  · obtain ⟨r, hr, hlost⟩ := run_foreachPairStart_rename
      (BuiltIn.csharp.language.set (.policy .loopForeachPairsAsPair (some false)))
      ⟨"ages", "pair", "name", "string", "age", "int"⟩
      ⟨[⟨"foreach (string pair in ages)", 0⟩, ⟨"\x7b", 1⟩], false⟩ rfl .value "years" (by decide)
    obtain rfl := hlost.mpr ⟨rfl, rfl, .inl ⟨rfl, rfl⟩⟩
    exact hr
  · obtain ⟨r, hr, hlost⟩ := run_foreachPairStart_rename BuiltIn.python.language
      ⟨"ages", "pair", "name", "string", "age", "int"⟩
      ⟨[⟨"for name, age in ages.items():", 1⟩], false⟩ rfl .key "who" (by decide)
    refine ⟨r, hr, fun hsame => ?_⟩
    obtain ⟨-, -, -, hdeclared⟩ := hlost.mp hsame
    exact absurd hdeclared (by decide)

end Runs

end Phrasebook
