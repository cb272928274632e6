import Phrasebook.Proofs.Arity
import Phrasebook.Proofs.Evaluation
import Phrasebook.Proofs.Lines
import Phrasebook.Proofs.Progress

/-! Chains of operators. An operation takes a value and then pairs of an operator and another value,
and its text grows from left to right. Hence a chain may be broken off anywhere and its text be
taken for the first value of the rest, and nothing tells afterwards that it was. -/
namespace Phrasebook

open Text Script Catalog

def spread {α : Type} (ps : List (α × α)) : List α :=
  ps.flatMap fun p => [p.1, p.2]

section Pairs

variable {α : Type}

@[simp] theorem spread_cons (p : α × α) (ps : List (α × α)) :
    spread (p :: ps) = p.1 :: p.2 :: spread ps := rfl

@[simp] theorem spread_append (ps qs : List (α × α)) :
    spread (ps ++ qs) = spread ps ++ spread qs :=
  List.flatMap_append

@[simp] theorem length_spread (ps : List (α × α)) : (spread ps).length = ps.length * 2 := by
  induction ps with
  | nil => rfl
  | cons p ps ih => simp [ih, Nat.succ_mul]

@[simp] theorem pairUp_spread (ps : List (α × α)) :
    pairUp (spread ps) = ps.map fun p => (p.1, some p.2) := by
  induction ps with
  | nil => rfl
  | cons p ps ih => rw [spread_cons, pairUp, ih, List.map_cons]

theorem exists_spread {k : Nat} {xs : List α} (h : xs.length = k * 2) :
    ∃ ps, ps.length = k ∧ spread ps = xs := by
  induction k generalizing xs with
  | zero =>
    obtain rfl : xs = [] := by simpa using h
    exact ⟨[], rfl, rfl⟩
  | succ k ih =>
    obtain ⟨a, xs, rfl⟩ := List.exists_cons_of_length_pos (by omega : 0 < xs.length)
    rw [List.length_cons] at h
    obtain ⟨b, xs, rfl⟩ := List.exists_cons_of_length_pos (by omega : 0 < xs.length)
    have hrest : xs.length = k * 2 := by
      rw [List.length_cons] at h
      omega
    obtain ⟨ps, hps, rfl⟩ := ih hrest
    exact ⟨(a, b) :: ps, by simp [hps], rfl⟩

end Pairs

def Language.operatorText (l : Language) (name : String) : Except RenderError String :=
  match l.alias name with
  | none => .error (.invalidValue .operators name)
  | some (.error p) => .error (.incomplete l.name Command.operation.name p)
  | some (.ok text) => .ok text

def Language.attach (l : Language) (left : String) (pair : String × String) :
    Except RenderError String :=
  (l.operatorText pair.1).map fun operator => left ++ operator ++ pair.2

def chained (left : String) (operators : List String) (ps : List (String × String)) : String :=
  left ++ join "" (List.zipWith (fun operator pair => operator ++ pair.2) operators ps)

section Evaluation

variable {l : Language} {left : String} {ps : List (String × String)}

section Scripts

variable {n : Nat} {given : List String}
  {help : (c : Command) → c.rank < n → List String → Except RenderError String}

theorem eval_operatorText (name : String) :
    (operatorText name : Script n String).eval l .operation given help = l.operatorText name := by
  rw [operatorText, Language.operatorText, eval_bind, spelled, eval]
  cases l.alias name with
  | none => rfl
  | some found => cases found <;> rfl

theorem eval_operate :
    (operate left (ps.map fun p => (p.1, some p.2)) : Script n String).eval l .operation given
      help = ps.foldlM l.attach left := by
  induction ps generalizing left with
  | nil => rfl
  | cons p ps ih =>
    rw [List.map_cons, operate, eval_bind, eval_operatorText, List.foldlM_cons, Language.attach]
    cases l.operatorText p.1 with
    | error e => rfl
    | ok operator => exact ih

end Scripts

theorem run_operation (h : ps ≠ []) :
    Command.operation.run l (left :: spread ps) = (ps.foldlM l.attach left).map .statement := by
  have hcheck : Command.operation.signature.check (left :: spread ps).length = .ok () := by
    rw [Signature.check_eq_ok Command.operation.regular, List.length_cons, length_spread,
      Nat.add_comm]
    exact .cons (.required rfl) (Command.fills_atLeastOne (List.length_pos_of_ne_nil h))
  have hscript : script .operation = operation := rfl
  rw [Command.run_of_check hcheck, hscript]
  simp only [operation, eval_bind, eval_arg, eval_argPairs, ok_bind, eval_operate, eval_pure,
    List.getD_cons_zero, List.drop_one, List.tail_cons, pairUp_spread]
  cases ps.foldlM l.attach left <;> rfl

theorem inline_operation (h : ps ≠ []) :
    Command.operation.inline l (left :: spread ps) = ps.foldlM l.attach left := by
  rw [Command.inline, run_operation h]
  cases ps.foldlM l.attach left with
  | error e => rfl
  | ok text => exact congrArg Except.ok (Rendering.firstText_statement text)

end Evaluation

section Outcomes

variable {l : Language} {left text name : String} {ps : List (String × String)} {e : RenderError}

theorem operatorText_eq_ok : l.operatorText name = .ok text ↔ l.alias name = some (.ok text) := by
  rw [Language.operatorText]
  cases l.alias name with
  | none => simp
  | some found => cases found <;> simp

/-- A name that has no spelling is refused if no operator has it, and otherwise the property of its
operator is missing. -/
theorem operatorText_eq_error : l.operatorText name = .error e ↔ l.spelling name = none ∧
    ((name ∉ Operator.all.map Operator.name ∧ e = .invalidValue .operators name) ∨
      ∃ o, o.name = name ∧ e = .incomplete l.name "operation" (.fragment (.operator o))) := by
  have hnamed (o : Operator) : o.name ∈ Operator.all.map Operator.name :=
    List.mem_map_of_mem o.mem_all
  rw [Language.operatorText]
  cases halias : l.alias name with
  | none =>
    obtain ⟨hspelling, hname⟩ := Language.alias_eq_none.mp halias
    constructor
    · rintro h
      exact ⟨hspelling, .inl ⟨hname, (Except.error.inj h).symm⟩⟩
    · rintro ⟨-, ⟨-, rfl⟩ | ⟨o, rfl, -⟩⟩
      · rfl
      · exact absurd (hnamed o) hname
  | some found =>
    cases found with
    | ok text =>
      have hspelling := Language.alias_eq_ok.mp halias
      simp [hspelling]
    | error p =>
      obtain ⟨hspelling, o, rfl, rfl⟩ := Language.alias_eq_error.mp halias
      constructor
      · rintro h
        exact ⟨hspelling, .inr ⟨o, rfl, (Except.error.inj h).symm⟩⟩
      · rintro ⟨-, ⟨hname, -⟩ | ⟨o', ho, rfl⟩⟩
        · exact absurd (hnamed o) hname
        · rw [Operator.name_injective ho]
          rfl

theorem attach_eq_ok {pair : String × String} : l.attach left pair = .ok text ↔
    ∃ operator, l.alias pair.1 = some (.ok operator) ∧ left ++ operator ++ pair.2 = text := by
  simp only [Language.attach, map_eq_ok, operatorText_eq_ok]

@[simp] theorem chained_nil (operators : List String) : chained left operators [] = left := by
  simp [chained]

theorem chained_cons (operator : String) (operators : List String) (pair : String × String) :
    chained left (operator :: operators) (pair :: ps) =
      chained (left ++ operator ++ pair.2) operators ps := by
  rw [chained, chained, List.zipWith_cons_cons]
  cases List.zipWith (fun operator pair => operator ++ pair.2) operators ps with
  | nil => simp [String.append_assoc]
  | cons t ts => simp [join_cons_cons, String.append_assoc]

theorem foldlM_attach_eq_ok : ps.foldlM l.attach left = .ok text ↔
    ∃ operators : List String,
      ps.map (fun pair => l.alias pair.1) = operators.map (fun operator => some (.ok operator)) ∧
      text = chained left operators ps := by
  induction ps generalizing left with
  | nil =>
    constructor
    · intro h
      obtain rfl := Except.ok.inj h
      exact ⟨[], rfl, by simp⟩
    · rintro ⟨operators, -, rfl⟩
      rw [chained_nil]
      rfl
  | cons pair ps ih =>
    rw [List.foldlM_cons, bind_eq_ok]
    simp only [attach_eq_ok, ih]
    constructor
    · rintro ⟨_, ⟨operator, hpair, rfl⟩, operators, hps, rfl⟩
      exact ⟨operator :: operators, by simp [hpair, hps], by rw [chained_cons]⟩
    · rintro ⟨operators, hps, rfl⟩
      cases operators with
      | nil => simp at hps
      | cons operator operators =>
        obtain ⟨hpair, hrest⟩ := List.cons.inj hps
        exact ⟨_, ⟨operator, hpair, rfl⟩, operators, hrest, by rw [chained_cons]⟩

theorem exists_foldlM_attach : (∃ text, ps.foldlM l.attach left = .ok text) ↔
    ∀ pair ∈ ps, ∃ operator, l.alias pair.1 = some (.ok operator) := by
  induction ps generalizing left with
  | nil => exact iff_of_true ⟨left, rfl⟩ (by simp)
  | cons pair ps ih =>
    simp only [List.foldlM_cons, bind_eq_ok, attach_eq_ok, List.forall_mem_cons]
    constructor
    · rintro ⟨text, _, ⟨operator, hpair, rfl⟩, hrest⟩
      exact ⟨⟨operator, hpair⟩, ih.mp ⟨text, hrest⟩⟩
    · rintro ⟨⟨operator, hpair⟩, hrest⟩
      obtain ⟨text, htext⟩ := ih.mpr hrest
      exact ⟨text, _, ⟨operator, hpair, rfl⟩, htext⟩

/-- A chain fails at the first operator that has no alias, and for the reason of that operator. -/
theorem foldlM_attach_eq_error : ps.foldlM l.attach left = .error e ↔
    ∃ before name right after, ps = before ++ (name, right) :: after ∧
      (∀ pair ∈ before, ∃ operator, l.alias pair.1 = some (.ok operator)) ∧
      l.operatorText name = .error e := by
  rw [foldlM_eq_error_iff]
  constructor
  · rintro ⟨before, ⟨name, right⟩, after, text, rfl, hbefore, hfails⟩
    exact ⟨before, name, right, after, rfl, exists_foldlM_attach.mp ⟨text, hbefore⟩,
      map_eq_error.mp hfails⟩
  · rintro ⟨before, name, right, after, rfl, hbefore, hfails⟩
    obtain ⟨text, htext⟩ := exists_foldlM_attach.mpr hbefore
    exact ⟨before, (name, right), after, text, rfl, htext, map_eq_error.mpr hfails⟩

/-- A chain may be broken off anywhere and its text be taken for the first value of the rest. -/
theorem run_operation_append {qs : List (String × String)} (hp : ps ≠ []) (hq : qs ≠ [])
    (h : Command.operation.inline l (left :: spread ps) = .ok text) :
    Command.operation.run l (left :: spread (ps ++ qs)) =
      Command.operation.run l (text :: spread qs) := by
  have hps : ps.foldlM l.attach left = .ok text := by
    rw [← inline_operation hp, h]
  have happend : (ps ++ qs).foldlM l.attach left = qs.foldlM l.attach text := by
    rw [List.foldlM_append, hps, ok_bind]
  rw [run_operation (List.append_ne_nil_of_left_ne_nil hp qs), run_operation hq, happend]

/-- Where the whole chain has a text, so has every beginning of it. -/
theorem inline_of_run_append {qs : List (String × String)} {r : Rendering} (hp : ps ≠ [])
    (h : Command.operation.run l (left :: spread (ps ++ qs)) = .ok r) :
    ∃ text, Command.operation.inline l (left :: spread ps) = .ok text := by
  rw [run_operation (List.append_ne_nil_of_left_ne_nil hp qs), map_eq_ok] at h
  obtain ⟨whole, hwhole, -⟩ := h
  rw [List.foldlM_append, bind_eq_ok] at hwhole
  obtain ⟨text, htext, -⟩ := hwhole
  exact ⟨text, by rw [inline_operation hp, htext]⟩

end Outcomes

def chain (first : Argument) (ps : List (Argument × Argument)) : Invocation :=
  ⟨Command.operation.name, first :: spread ps⟩

section Invocations

variable {l : Language} {first : Argument} {ps qs : List (Argument × Argument)} {r : Rendering}

/-- The texts that the arguments of a chain resolve to make a chain again. -/
theorem render_chain_eq_ok : (chain first ps).render l = .ok r ↔
    ∃ left texts, texts.length = ps.length ∧ first.resolve l 1 = .ok left ∧
      (spread ps).map (Argument.resolve l 1) = (spread texts).map .ok ∧
      Command.operation.run l (left :: spread texts) = .ok r := by
  have hnamed : Command.named Command.operation.name = .ok .operation :=
    Command.named_eq_ok.mpr rfl
  have hrender : (chain first ps).render l =
      resolveAll l 1 .operation 0 (first :: spread ps) >>= Command.operation.run l := by
    rw [Invocation.render, perform, if_neg (Nat.not_lt_zero _), chain, hnamed, ok_bind]
  rw [hrender, bind_eq_ok]
  simp only [resolveAll_eq_ok]
  constructor
  · rintro ⟨texts, htexts, hrun⟩
    cases texts with
    | nil => simp at htexts
    | cons left rest =>
      obtain ⟨hfirst, hrest⟩ := List.cons.inj htexts
      have hlength : rest.length = ps.length * 2 := by
        simpa using (congrArg List.length hrest).symm
      obtain ⟨texts, hps, rfl⟩ := exists_spread hlength
      exact ⟨left, texts, hps, hfirst, hrest, hrun⟩
  · rintro ⟨left, texts, -, hfirst, hrest, hrun⟩
    exact ⟨left :: spread texts, by rw [List.map_cons, hfirst, hrest, List.map_cons], hrun⟩

theorem ne_nil_of_length {α β : Type} {as : List α} {bs : List β} (h : bs.length = as.length)
    (ha : as ≠ []) : bs ≠ [] :=
  List.ne_nil_of_length_pos (h ▸ List.length_pos_of_ne_nil ha)

/-- A chain in the place of the first value renders as the longer chain does. -/
theorem render_nested_chain (hp : ps ≠ []) (hq : qs ≠ [])
    (hd : (chain (chain first ps).asArgument qs).depth ≤ Invocation.maxNesting + 1) :
    (chain (chain first ps).asArgument qs).render l = .ok r ↔
      (chain first (ps ++ qs)).render l = .ok r := by
  have hinner : (chain first ps).asArgument.resolve l 1 = (chain first ps).inline l := by
    have hdepth : (chain first ps).asArgument.depth + 1 ≤ Invocation.maxNesting + 1 :=
      (Nat.succ_le_succ (Nat.le_max_left _ _)).trans hd
    exact resolve_depth (chain first ps).asArgument (by omega) (by omega)
  constructor
  · intro h
    obtain ⟨text, us, hus, htext, hqs, hrun⟩ := render_chain_eq_ok.mp h
    rw [hinner, Invocation.inline, map_eq_ok] at htext
    obtain ⟨r', hr', rfl⟩ := htext
    obtain ⟨left, ts, hts, hfirst, hps, hrun'⟩ := render_chain_eq_ok.mp hr'
    have hinline : Command.operation.inline l (left :: spread ts) = .ok r'.firstText :=
      map_eq_ok.mpr ⟨r', hrun', rfl⟩
    have happend := run_operation_append (ne_nil_of_length hts hp) (ne_nil_of_length hus hq) hinline
    refine render_chain_eq_ok.mpr ⟨left, ts ++ us, by simp [hts, hus], hfirst, ?_, ?_⟩
    · rw [spread_append, spread_append, List.map_append, List.map_append, hps, hqs]
    · rw [happend, hrun]
  · intro h
    obtain ⟨left, texts, htexts, hfirst, hresolve, hrun⟩ := render_chain_eq_ok.mp h
    obtain ⟨ts, us, rfl, hts⟩ : ∃ ts us, texts = ts ++ us ∧ ts.length = ps.length :=
      ⟨texts.take ps.length, texts.drop ps.length, (List.take_append_drop _ _).symm, by
        simp at htexts; simp [htexts]⟩
    have hus : us.length = qs.length := by simpa [hts] using htexts
    have hts' := ne_nil_of_length hts hp
    rw [spread_append, spread_append, List.map_append, List.map_append] at hresolve
    obtain ⟨hps, hqs⟩ := List.append_inj hresolve (by simp [hts])
    obtain ⟨text, hinline⟩ := inline_of_run_append hts' hrun
    have happend := run_operation_append hts' (ne_nil_of_length hus hq) hinline
    obtain ⟨r', hrun', hr'⟩ := map_eq_ok.mp hinline
    have htext : (chain first ps).inline l = .ok text :=
      map_eq_ok.mpr ⟨r', render_chain_eq_ok.mpr ⟨left, ts, hts, hfirst, hps, hrun'⟩, hr'⟩
    exact render_chain_eq_ok.mpr ⟨text, us, hus, hinner.trans htext, hqs, happend ▸ hrun⟩

end Invocations

/-- Chains associate to the left and lose nothing. A chain that has a text may be gone on with from
that text: what comes of it is what comes of the whole chain, be it a text or an error. The text is
the first value and then, pair by pair, the alias of the operator and the other value. The error is
that of the first operator without an alias, which is refused if it is none and else blamed on the
language. So a chain in the place of the first value leaves no trace of where it ended. -/
theorem run_operation_chain (l : Language) (left : String) {p q : List (String × String)}
    (hp : p ≠ []) (hq : q ≠ []) :
    (∀ text, Command.operation.inline l (left :: spread p) = .ok text →
      Command.operation.run l (left :: spread (p ++ q)) =
        Command.operation.run l (text :: spread q)) ∧
    (∀ r, Command.operation.run l (left :: spread p) = .ok r ↔ ∃ operators : List String,
      p.map (fun pair => l.alias pair.1) = operators.map (fun operator => some (.ok operator)) ∧
      r = .statement (chained left operators p)) ∧
    (∀ e, Command.operation.run l (left :: spread p) = .error e ↔
      ∃ before name right after, p = before ++ (name, right) :: after ∧
        (∀ pair ∈ before, ∃ operator, l.alias pair.1 = some (.ok operator)) ∧
        l.spelling name = none ∧
        ((name ∉ Operator.all.map Operator.name ∧ e = .invalidValue .operators name) ∨
          ∃ o, o.name = name ∧ e = .incomplete l.name "operation" (.fragment (.operator o)))) ∧
    ∀ (first : Argument) (as bs : List (Argument × Argument)) (r : Rendering), as ≠ [] → bs ≠ [] →
      (chain (chain first as).asArgument bs).depth ≤ Invocation.maxNesting + 1 →
      ((chain (chain first as).asArgument bs).render l = .ok r ↔
        (chain first (as ++ bs)).render l = .ok r) := by
  refine ⟨fun text => run_operation_append hp hq, fun r => ?_, fun e => ?_,
    fun first as bs r ha hb hd => render_nested_chain ha hb hd⟩
  · rw [run_operation hp, map_eq_ok]
    simp only [foldlM_attach_eq_ok]
    constructor
    · rintro ⟨_, ⟨operators, hoperators, rfl⟩, rfl⟩
      exact ⟨operators, hoperators, rfl⟩
    · rintro ⟨operators, hoperators, rfl⟩
      exact ⟨_, ⟨operators, hoperators, rfl⟩, rfl⟩
  · rw [run_operation hp, map_eq_error, foldlM_attach_eq_error]
    simp only [operatorText_eq_error]

/-- The sum that is multiplied is not put in brackets, and a wrong operator after it is found,
unless the table of spellings has it all the same. -/
theorem run_operation_chain_sum :
    let l := BuiltIn.csharp.language
    let l' : Language := { l with spellings := [("plus", " + "), ("xor", " ^ ")] }
    let sum : Invocation := chain (.literal "a") [(.literal "plus", .literal "b")]
    Command.operation.inline l ["a", "plus", "b"] = .ok "a + b" ∧
    Command.operation.run l ["a + b", "xor", "c"] = .error (.invalidValue .operators "xor") ∧
    Command.operation.run l ["a", "plus", "b", "xor", "c"] =
      .error (.invalidValue .operators "xor") ∧
    Command.operation.run l' ["a", "plus", "b", "xor", "c"] = .ok (.statement "a + b ^ c") ∧
    Invocation.render l (chain sum.asArgument [(.literal "times", .literal "c")]) =
      .ok (.statement "a + b * c") := by
  intro l l' sum
  have hsum : Command.operation.inline l ["a", "plus", "b"] = .ok "a + b" := rfl
  have hflat : Invocation.render l (chain (.literal "a")
      [(.literal "plus", .literal "b"), (.literal "times", .literal "c")]) =
      .ok (.statement "a + b * c") := rfl
  have hxor : Command.operation.run l ["a + b", "xor", "c"] =
      .error (.invalidValue .operators "xor") := rfl
  obtain ⟨happend, -, -, hnested⟩ := run_operation_chain l "a" (p := [("plus", "b")])
    (q := [("xor", "c")]) (by simp) (by simp)
  have htext := (run_operation_chain l' "a" (p := [("plus", "b"), ("xor", "c")])
    (q := [("plus", "d")]) (by simp) (by simp)).2.1
  exact ⟨hsum, hxor, (happend "a + b" hsum).trans hxor,
    (htext _).mpr ⟨[" + ", " ^ "], rfl, rfl⟩,
    (hnested (.literal "a") [(.literal "plus", .literal "b")] [(.literal "times", .literal "c")] _
      (by simp) (by simp) (by decide)).mpr hflat⟩

end Phrasebook
