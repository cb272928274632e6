import Phrasebook.Proofs.Extension
import Phrasebook.Proofs.Progress

/-! Where a rendering fails. The arguments that an error names, from the outermost inwards, are the
way down to one invocation, and what that invocation does by itself is the cause. -/
namespace Phrasebook

inductive Direct {α : Type} : Except RenderError α → Prop
  | ok (a : α) : Direct (.ok a)
  | error {e : RenderError} (h : e.chain = []) : Direct (.error e)

namespace Direct

variable {α β : Type} {x : Except RenderError α}

theorem chain_eq {e : RenderError} (h : Direct (.error e : Except RenderError α)) :
    e.chain = [] := by
  cases h with
  | error he => exact he

theorem bind {f : α → Except RenderError β} (h : Direct x) (hf : ∀ a, Direct (f a)) :
    Direct (x >>= f) := by
  cases h with
  | ok a => exact hf a
  | error he => exact .error he

theorem map (f : α → β) (h : Direct x) : Direct (x.map f) := by
  cases h with
  | ok a => exact .ok (f a)
  | error he => exact .error he

end Direct

section Run

variable {l : Language}

/-- A script by itself names no argument, and neither do those from which it takes help. -/
theorem direct_eval {n : Nat} {α : Type} {reader : Command} {given : List String}
    {help : (c : Command) → c.rank < n → List String → Except RenderError String}
    (hhelp : ∀ c lower as, Direct (help c lower as)) (s : Script n α) :
    Direct (s.eval l reader given help) := by
  induction s with
  | done a => exact .ok a
  | refuse v word => exact .error rfl
  | argument i next ih => exact ih _
  | optional i next ih => exact ih _
  | arguments i next ih => exact ih _
  | pairs i next ih => exact ih _
  | fragment f next ih =>
    rw [Script.eval]
    cases l.fragment f with
    | none => exact .error rfl
    | some t => exact ih t
  | policy p next ih =>
    rw [Script.eval]
    cases l.policy p with
    | none => exact .error rfl
    | some b => exact ih b
  | importStyle next ih =>
    rw [Script.eval]
    cases l.importStyle with
    | none => exact .error rfl
    | some s => exact ih s
  | spelling name next ih =>
    rw [Script.eval]
    cases l.alias name with
    | none => exact ih none
    | some found =>
      cases found with
      | error p => exact .error rfl
      | ok t => exact ih (some t)
  | compose c lower as next ih =>
    rw [Script.eval_compose]
    exact (hhelp c lower as).bind ih

theorem direct_runBelow {n : Nat} {c : Command} (lower : c.rank < n) (given : List String) :
    Direct (runBelow l n c lower given) := by
  induction n generalizing c given with
  | zero => exact absurd lower (Nat.not_lt_zero _)
  | succ n ih =>
    rw [runBelow]
    cases c.signature.check given.length with
    | error e => exact .error rfl
    | ok _ => exact direct_eval (fun d _ as => (ih _ as).map _) _

theorem direct_run (c : Command) (given : List String) : Direct (c.run l given) :=
  direct_runBelow _ given

end Run

namespace Invocation

inductive FailsAt (l : Language) (depth : Nat) (n : Invocation) : RenderError → Prop
  | tooDeep (deep : maxNesting < depth) : FailsAt l depth n (.malformed ⟨n.name, .tooDeep⟩)
  | unknown (shallow : depth ≤ maxNesting) (name : ∀ c : Command, c.name ≠ Text.trim n.name) :
      FailsAt l depth n (.unknownCommand (Text.trim n.name))
  | arity (shallow : depth ≤ maxNesting) {c : Command} (name : c.name = Text.trim n.name)
      {texts : List String}
      (resolved : n.arguments.map (Argument.resolve l (depth + 1)) = texts.map .ok)
      {e : ArityError} (count : c.signature.check texts.length = .error e) :
      FailsAt l depth n (.arity e)
  | run (shallow : depth ≤ maxNesting) {c : Command} (name : c.name = Text.trim n.name)
      {texts : List String}
      (resolved : n.arguments.map (Argument.resolve l (depth + 1)) = texts.map .ok)
      (count : c.signature.check texts.length = .ok ()) {e : RenderError}
      (failed : c.run l texts = .error e) : FailsAt l depth n e

/-- The error of an invocation at a depth leads down its arguments, each the first of its invocation
that does not resolve, to an invocation that fails by itself. -/
inductive Traces (l : Language) : Nat → Invocation → RenderError → Prop
  | own {depth : Nat} {n : Invocation} {e : RenderError} (fails : n.FailsAt l depth e) :
      Traces l depth n e
  | argument {depth : Nat} {n m : Invocation} {c : Command} {p : Nat} {e : RenderError}
      (name : c.name = Text.trim n.name) (at_p : n.arguments[p]? = some m.asArgument)
      (before : ∀ q < p, ∀ a, n.arguments[q]? = some a → ∃ t, a.resolve l (depth + 1) = .ok t)
      (below : Traces l (depth + 1) m e) : Traces l depth n (.nested c p e)

end Invocation

section Resolve

variable {l : Language} {d : Nat}

/-- The arguments of a command fail at the first one that does not resolve. -/
theorem resolveAll_eq_error {as : List Argument} {c : Command} {position : Nat} {e : RenderError}
    (h : resolveAll l d c position as = .error e) :
    ∃ p a cause, as[p]? = some a ∧ a.resolve l d = .error cause ∧
      e = .nested c (position + p) cause ∧
      ∀ q < p, ∀ b, as[q]? = some b → ∃ t, b.resolve l d = .ok t := by
  induction as generalizing position with
  | nil =>
    rw [resolveAll] at h
    cases h
  | cons a as ih =>
    rw [resolveAll] at h
    cases ha : a.resolve l d with
    | error cause =>
      rw [ha] at h
      obtain rfl := Except.error.inj h
      exact ⟨0, a, cause, rfl, ha, rfl, fun q hq => absurd hq (Nat.not_lt_zero q)⟩
    | ok text =>
      rw [ha, Except.mapError, ok_bind] at h
      cases hrest : resolveAll l d c (position + 1) as with
      | ok texts =>
        rw [hrest] at h
        cases h
      | error e' =>
        rw [hrest] at h
        obtain rfl := Except.error.inj h
        obtain ⟨p, b, cause, hp, hb, rfl, hbefore⟩ := ih hrest
        refine ⟨p + 1, b, cause, hp, hb, by rw [Nat.add_right_comm, Nat.add_assoc], ?_⟩
        intro q hq b' hb'
        cases q with
        | zero =>
          obtain rfl : a = b' := by simpa using hb'
          exact ⟨text, ha⟩
        | succ q => exact hbefore q (by omega) b' (by simpa using hb')

theorem Command.named_eq_error {name : String} {e : RenderError}
    (h : Command.named name = .error e) :
    (∀ c : Command, c.name ≠ Text.trim name) ∧ e = .unknownCommand (Text.trim name) := by
  constructor
  · intro c hc
    rw [Command.named_eq_ok.mpr hc] at h
    cases h
  · rw [Command.named] at h
    cases hf : Command.ofName? name with
    | none =>
      rw [hf] at h
      exact (Except.error.inj h).symm
    | some c =>
      rw [hf] at h
      cases h

/-- An invocation whose command runs fails by its number of arguments or by its script. -/
theorem failsAt_of_run {n : Invocation} {c : Command} {texts : List String} {e : RenderError}
    (hd : d ≤ Invocation.maxNesting) (hname : c.name = Text.trim n.name)
    (hresolved : n.arguments.map (Argument.resolve l (d + 1)) = texts.map .ok)
    (h : c.run l texts = .error e) : n.FailsAt l d e := by
  cases hcheck : c.signature.check texts.length with
  | ok _ => exact .run hd hname hresolved hcheck h
  | error a =>
    rw [Command.run, runBelow, hcheck] at h
    obtain rfl := Except.error.inj h
    exact .arity hd hname hresolved hcheck

/-- One level: either the invocation fails by itself, or the first of its arguments that fails does
so one level deeper. -/
theorem traces_of_perform {n : Invocation} {e : RenderError}
    (harguments : ∀ (m : Invocation) cause, m.asArgument ∈ n.arguments →
      m.asArgument.resolve l (d + 1) = .error cause → m.Traces l (d + 1) cause)
    (h : perform l d n.name (fun c => resolveAll l (d + 1) c 0 n.arguments) = .error e) :
    n.Traces l d e := by
  rw [perform] at h
  by_cases hd : Invocation.maxNesting < d
  · rw [if_pos hd] at h
    obtain rfl := Except.error.inj h
    exact .own (.tooDeep hd)
  · rw [if_neg hd] at h
    have hd' := Nat.not_lt.mp hd
    cases hc : Command.named n.name with
    | error e' =>
      rw [hc] at h
      obtain rfl := Except.error.inj h
      obtain ⟨hname, rfl⟩ := Command.named_eq_error hc
      exact .own (.unknown hd' hname)
    | ok c =>
      have hname := Command.named_eq_ok.mp hc
      rw [hc, ok_bind] at h
      cases htexts : resolveAll l (d + 1) c 0 n.arguments with
      | ok texts =>
        rw [htexts] at h
        exact .own (failsAt_of_run hd' hname (resolveAll_eq_ok.mp htexts) h)
      | error e' =>
        rw [htexts] at h
        obtain rfl := Except.error.inj h
        obtain ⟨p, a, cause, hp, ha, rfl, hbefore⟩ := resolveAll_eq_error htexts
        rw [Nat.zero_add]
        cases a with
        | literal text =>
          rw [Argument.resolve] at ha
          cases ha
        | nested name as =>
          have hat : n.arguments[p]? = some (Invocation.asArgument ⟨name, as⟩) := hp
          have hbelow := harguments ⟨name, as⟩ cause (List.mem_of_getElem? hat) ha
          exact .argument hname hat hbefore hbelow

theorem traces_of_resolve (a : Argument) {m : Invocation} {e : RenderError}
    (ha : a = m.asArgument) (h : a.resolve l d = .error e) : m.Traces l d e := by
  induction a generalizing m d e with
  | literal text => cases ha
  | nested name as ih =>
    obtain rfl : ⟨name, as⟩ = m := Invocation.asArgument_injective ha
    rw [Argument.resolve] at h
    cases hp : perform l d name fun c => resolveAll l (d + 1) c 0 as with
    | ok r =>
      rw [hp] at h
      cases h
    | error e' =>
      rw [hp] at h
      obtain rfl := Except.error.inj h
      exact traces_of_perform (fun m' cause hm' => ih _ hm' rfl) hp

theorem traces_of_render {i : Invocation} {e : RenderError} (h : i.render l = .error e) :
    i.Traces l 0 e :=
  traces_of_perform (fun _ _ _ => traces_of_resolve _ rfl) h

end Resolve

theorem RenderError.rootCause_of_chain {e : RenderError} (h : e.chain = []) : e.rootCause = e := by
  cases e with
  | nested c p cause => cases h
  | _ => rfl

theorem RenderError.rootCause_ne_nested (e : RenderError) (c : Command) (p : Nat)
    (cause : RenderError) : e.rootCause ≠ .nested c p cause := by
  induction e with
  | nested _ _ _ ih => exact ih
  | _ => nofun

namespace Invocation

variable {l : Language} {depth : Nat} {n : Invocation} {e : RenderError}

theorem FailsAt.chain_eq (h : n.FailsAt l depth e) : e.chain = [] := by
  cases h with
  | tooDeep _ => rfl
  | unknown _ _ => rfl
  | arity _ _ _ _ => rfl
  | @run _ c _ texts _ _ _ failed =>
    have hdirect := direct_run (l := l) c texts
    rw [failed] at hdirect
    exact hdirect.chain_eq

/-- The invocations that an error leads through, down to the one that fails by itself. -/
theorem Traces.exists_way (h : n.Traces l depth e) :
    ∃ way : List Invocation, way.length = e.chain.length ∧
      (∀ (j : Nat) (c : Command) (p : Nat), e.chain[j]? = some (c, p) →
        ∃ m next : Invocation, (n :: way)[j]? = some m ∧ way[j]? = some next ∧
          c.name = Text.trim m.name ∧ m.arguments[p]? = some next.asArgument ∧
          ∀ q < p, ∀ a, m.arguments[q]? = some a → ∃ t, a.resolve l (depth + j + 1) = .ok t) ∧
      ∃ last, (n :: way).getLast? = some last ∧
        last.FailsAt l (depth + e.chain.length) e.rootCause := by
  induction h with
  | @own depth n e fails =>
    rw [fails.chain_eq, RenderError.rootCause_of_chain fails.chain_eq]
    exact ⟨[], rfl, by simp, n, rfl, fails⟩
  | @argument depth n m c p e name at_p before below ih =>
    obtain ⟨way, hlength, hsteps, last, hlast, hfails⟩ := ih
    refine ⟨m :: way, congrArg Nat.succ hlength, fun j c' p' hj => ?_, last, ?_, ?_⟩
    · cases j with
      | zero =>
        obtain ⟨rfl, rfl⟩ : c = c' ∧ p = p' := by simpa [RenderError.chain] using hj
        exact ⟨n, m, rfl, rfl, name, at_p, before⟩
      | succ j =>
        have hdepth : depth + (j + 1) + 1 = depth + 1 + j + 1 := by omega
        rw [hdepth]
        exact hsteps j c' p' hj
    · rw [List.getLast?_cons_cons]
      exact hlast
    · have hdepth : depth + (e.chain.length + 1) = depth + 1 + e.chain.length := by omega
      rw [RenderError.chain, List.length_cons, hdepth]
      exact hfails

end Invocation

/-- An error leads down to an invocation that fails by itself, through as many arguments as it
names. Each time it names the command of the invocation and its first argument that does not
resolve. Its cause is what the last invocation fails with, and names no argument. -/
theorem render_error_located {l : Language} {i : Invocation} {e : RenderError}
    (h : i.render l = .error e) :
    ∃ way : List Invocation, way.length = e.chain.length ∧
      (∀ (j : Nat) (c : Command) (p : Nat), e.chain[j]? = some (c, p) →
        ∃ n next : Invocation, (i :: way)[j]? = some n ∧ way[j]? = some next ∧
          c.name = Text.trim n.name ∧ n.arguments[p]? = some next.asArgument ∧
          ∀ q < p, ∀ a, n.arguments[q]? = some a → ∃ t, a.resolve l (j + 1) = .ok t) ∧
      (∃ last, (i :: way).getLast? = some last ∧ last.FailsAt l e.chain.length e.rootCause) ∧
      ∀ c p cause, e.rootCause ≠ .nested c p cause := by
  obtain ⟨way, hlength, hsteps, last, hlast, hfails⟩ := (traces_of_render h).exists_way
  rw [Nat.zero_add] at hfails
  refine ⟨way, hlength, fun j c p hj => ?_, ⟨last, hlast, hfails⟩, e.rootCause_ne_nested⟩
  have hstep := hsteps j c p hj
  rwa [Nat.zero_add] at hstep

/-- Of several faults the one that is met first is reported: not the unknown command after it, and
not that too many values are printed. -/
theorem render_error_located_word :
    let word : Invocation := ⟨"boolean", [.literal "maybe"]⟩
    let text : Invocation :=
      ⟨"concatenate", [.nested "null" [], word.asArgument, .nested "frobnicate" []]⟩
    let i : Invocation := ⟨" print ", [text.asArgument, .literal "x"]⟩
    i.render BuiltIn.ruby.language =
      .error (.nested .print 0 (.nested .concatenate 1 (.invalidValue .truth "maybe"))) ∧
    (∃ t, Argument.resolve BuiltIn.ruby.language 2 (.nested "null" []) = .ok t) ∧
    word.FailsAt BuiltIn.ruby.language 2 (.invalidValue .truth "maybe") := by
  intro word text i
  have h : i.render BuiltIn.ruby.language =
      .error (.nested .print 0 (.nested .concatenate 1 (.invalidValue .truth "maybe"))) := by
    dsimp only [i, text, word, Invocation.asArgument]
    rfl
  obtain ⟨way, hlength, hsteps, ⟨last, hlast, hfails⟩, -⟩ := render_error_located h
  obtain ⟨n₀, n₁, hn₀, hn₁, -, hp₀, -⟩ := hsteps 0 .print 0 rfl
  obtain ⟨n₁', n₂, hn₁', hn₂, -, hp₁, hbefore⟩ := hsteps 1 .concatenate 1 rfl
  obtain rfl : i = n₀ := Option.some.inj hn₀
  obtain rfl : text = n₁ := Invocation.asArgument_injective (Option.some.inj hp₀)
  obtain rfl : text = n₁' := Option.some.inj (hn₁.symm.trans hn₁')
  obtain rfl : word = n₂ := Invocation.asArgument_injective (Option.some.inj hp₁)
  obtain rfl : way = [text, word] := by
    match way, hlength with
    | [_, _], _ =>
      obtain rfl := Option.some.inj hn₁
      obtain rfl := Option.some.inj hn₂
      rfl
  obtain rfl : word = last := Option.some.inj hlast
  exact ⟨h, hbefore 0 (by decide) _ rfl, hfails⟩

end Phrasebook
