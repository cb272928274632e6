import Phrasebook.Proofs.Balance
import Phrasebook.Proofs.Evaluation
import Phrasebook.Proofs.Failure
import Phrasebook.Proofs.Writing
import Phrasebook.Stream

/-! The two limits of nesting. The reader counts the levels of each text, from one on; rendering
counts the depth below the invocation it starts from, from zero on. What the reader lets through is
never too deep to be rendered, and nothing that is too deep is rendered. -/
namespace Phrasebook

variable {l : Language}

namespace Invocation

theorem depth_of_parse {text : String} {i : Invocation} (h : parse text = .ok i) :
    i.depth ≤ maxNesting :=
  (parse_eq_ok.mp h).2

theorem depth_of_rawArgument {raw : String} {a : Argument} (h : Argument.ofRaw raw = .ok a) :
    a.depth ≤ maxNesting := by
  rw [Argument.ofRaw] at h
  split at h
  · obtain ⟨i, hi, rfl⟩ := map_eq_ok.mp h
    exact depth_of_parse hi
  · obtain rfl := Except.ok.inj h
    exact Nat.zero_le _

/-- The levels of a raw command are those of its arguments and one more, which no reader has
counted. -/
theorem depth_of_raw {raw : List String} {i : Invocation} (h : ofRaw raw = .ok i) :
    i.depth ≤ maxNesting + 1 := by
  cases raw with
  | nil => cases h
  | cons name raw =>
    rw [ofRaw] at h
    split at h
    · cases h
    · obtain ⟨arguments, has, h⟩ := bind_eq_ok.mp h
      obtain rfl := Except.ok.inj h
      apply Nat.succ_le_succ
      apply Argument.depthAll_le.mpr
      intro a ha
      obtain ⟨text, -, htext⟩ := exists_of_mem_mapM has a ha
      exact depth_of_rawArgument htext

/-- An error that comes down to a malformed invocation has led deeper than is allowed. -/
theorem Traces.tooDeep {d : Nat} {n : Invocation} {e : RenderError} (h : n.Traces l d e)
    {m : Malformed} (he : e.rootCause = .malformed m) : maxNesting + 1 < d + n.depth := by
  induction h with
  | @own d n e fails =>
    rw [RenderError.rootCause_of_chain fails.chain_eq] at he
    subst he
    cases fails with
    | tooDeep deep =>
      rw [depth]
      omega
    | run _ _ _ _ failed =>
      rcases Command.run_eq_error failed with ⟨_, ha⟩ | ⟨_, _, hp⟩ | ⟨_, _, hv⟩
      · cases ha
      · cases hp
      · cases hv
  | @argument d n next c p e _ at_p _ _ ih =>
    have hbelow := ih he
    have hdepth : next.depth ≤ Argument.depthAll n.arguments := depth_le_of_getElem? at_p
    rw [depth]
    omega

end Invocation

def Unmalformed {α : Type} (outcome : Except RenderError α) : Prop :=
  ∀ e m, outcome = .error e → e.rootCause ≠ .malformed m

theorem Unmalformed.map {α β : Type} {outcome : Except RenderError α} (h : Unmalformed outcome)
    (f : α → β) : Unmalformed (outcome.map f) := by
  intro e m he
  exact h e m (map_eq_error.mp he)

theorem unmalformed_render {i : Invocation} (h : i.depth ≤ Invocation.maxNesting + 1) :
    Unmalformed (i.render l) := by
  intro e m he hm
  have hdeep := (traces_of_render he).tooDeep hm
  omega

theorem terminator_eq_error {i : Invocation} {r : Rendering} {e : RenderError}
    (h : terminator l i r = .error e) : ∃ reader p, e = .incomplete l.name reader p := by
  rw [terminator] at h
  split at h
  · cases hf : l.fragment .styleSemicolon with
    | none =>
      rw [hf] at h
      exact ⟨_, _, (Except.error.inj h).symm⟩
    | some ending =>
      rw [hf] at h
      cases h
  · cases h

namespace Page

theorem place_eq_error {unit : String} {page : Page} {line : Line} {e : RenderError}
    (h : page.place unit line = .error e) : ∃ k, e = .unbalanced k := by
  rw [place] at h
  split at h
  · exact ⟨_, (Except.error.inj h).symm⟩
  · cases h

theorem add_eq_error {unit : String} {page : Page} {i : Invocation} {e : RenderError}
    (h : Page.add l unit page i = .error e) :
    i.render l = .error e ∨ (∃ reader p, e = .incomplete l.name reader p) ∨
      ∃ k, e = .unbalanced k := by
  rw [add] at h
  rcases bind_eq_error.mp h with hrender | ⟨r, -, h⟩
  · exact .inl hrender
  · rcases bind_eq_error.mp h with hterminator | ⟨ending, -, hrun⟩
    · exact .inr (.inl (terminator_eq_error hterminator))
    · obtain ⟨line, -, page', hplace⟩ := foldlM_eq_error hrun
      exact .inr (.inr (place_eq_error hplace))

end Page

/-- A unit fails with one of its invocations, for want of what layout reads, or out of balance. -/
theorem renderUnit_eq_error {us : List Invocation} {e : RenderError}
    (h : renderUnit l us = .error e) :
    (∃ i ∈ us, i.render l = .error e) ∨ (∃ reader p, e = .incomplete l.name reader p) ∨
      ∃ k, e = .unbalanced k := by
  cases hunit : l.fragment .generalIndentation with
  | none =>
    rw [renderUnit, hunit] at h
    exact .inr (.inl ⟨_, _, (Except.error.inj h).symm⟩)
  | some unit =>
    rw [renderUnit_eq hunit, map_eq_error] at h
    obtain ⟨i, hi, page, hadd⟩ := foldlM_eq_error h
    rcases Page.add_eq_error hadd with hrender | hother
    · exact .inl ⟨i, hi, hrender⟩
    · exact .inr hother

structure WellNested (l : Language) (us : List Invocation) : Prop where
  render : ∀ i ∈ us, Unmalformed (i.render l)
  inline : ∀ i ∈ us, Unmalformed (i.inline l)
  unit : Unmalformed (renderUnit l us)
  source : Unmalformed (renderSource l us)

theorem wellNested_of_depth {us : List Invocation}
    (h : ∀ i ∈ us, i.depth ≤ Invocation.maxNesting + 1) : WellNested l us := by
  have hrender (i : Invocation) (hi : i ∈ us) : Unmalformed (i.render l) :=
    unmalformed_render (h i hi)
  have hunit : Unmalformed (renderUnit l us) := by
    intro e m he hm
    rcases renderUnit_eq_error he with ⟨i, hi, hr⟩ | ⟨_, _, rfl⟩ | ⟨_, rfl⟩
    · exact hrender i hi e m hr hm
    · cases hm
    · cases hm
  exact ⟨hrender, fun i hi => (hrender i hi).map _, hunit, hunit.map _⟩

theorem depth_of_stream {raw : List (List String)} {us : List Invocation}
    (h : Stream.ofRaw raw = .ok us) : ∀ i ∈ us, i.depth ≤ Invocation.maxNesting + 1 := by
  intro i hi
  rw [Stream.ofRaw] at h
  cases hall : raw.mapM Invocation.ofRaw with
  | error e =>
    rw [hall] at h
    cases h
  | ok vs =>
    rw [hall] at h
    obtain rfl := Except.ok.inj h
    obtain ⟨row, -, hrow⟩ := exists_of_mem_mapM hall i hi
    exact Invocation.depth_of_raw hrow

theorem depth_of_json {decode : String → Option (List (List String))} {text : String}
    {us : List Invocation} (h : Stream.ofJson decode text = .ok us) :
    ∀ i ∈ us, i.depth ≤ Invocation.maxNesting + 1 := by
  rw [Stream.ofJson] at h
  split at h
  · exact depth_of_stream h
  · cases h

/-- What resolves holds no invocation that is too deep where it stands, since all of them have been
resolved on the way. -/
theorem depth_of_resolve {a : Argument} {d : Nat} {t : String} (h : a.resolve l d = .ok t) :
    ∀ path (n : Invocation), a.at? path = some n.asArgument →
      d + path.length ≤ Invocation.maxNesting := by
  induction a generalizing d t with
  | literal text =>
    intro path n hn
    cases path <;> cases hn
  | nested name as ih =>
    obtain ⟨hd, c, -, texts, htexts, -⟩ := resolve_nested_eq_ok.mp h
    refine (forall_nodes_nested (Q := fun depth _ => d + depth ≤ Invocation.maxNesting)).mpr
      ⟨hd, fun a ha path n hn => ?_⟩
    obtain ⟨u, hu⟩ := resolve_of_mem htexts ha
    have hbelow := ih a ha hu path n hn
    omega

/-- As a raw argument, the written form of an invocation is taken for that invocation. -/
theorem ofRaw_display {i : Invocation} (h : i.Printable) :
    Argument.ofRaw i.display = .ok i.asArgument := by
  have htrimmed : Text.trimmed i.display.toList = i.write := by
    rw [Invocation.display, String.toList_ofList, Invocation.write, trimmed_writeCall]
  have hparse : Invocation.parse i.display = .ok i := by
    rw [parse_eq_ok, Text.toList_trim, htrimmed]
    refine ⟨callText_write h.1 fun a ha => ?_, h.2.2⟩
    exact argumentText_write a (allPrintable_iff.mp h.2.1 a ha)
  have hopened : i.write.head? = some '\x7b' := rfl
  have hclosed : i.write.getLast? = some '\x7d' := by
    rw [Invocation.write, writeCall, List.getLast?_append]
    rfl
  simp [Argument.ofRaw, htrimmed, hopened, hclosed, hparse, Except.map]

def negations : Nat → Argument
  | 0 => .literal "x"
  | n + 1 => .nested "not" [negations n]

theorem resolve_negations {n d : Nat} (h : d + n ≤ Invocation.maxNesting + 1) :
    ∃ t, (negations n).resolve BuiltIn.csharp.language d = .ok t := by
  induction n generalizing d with
  | zero => exact ⟨"x", by rw [negations, Argument.resolve]⟩
  | succ n ih =>
    obtain ⟨t, ht⟩ := ih (d := d + 1) (by omega)
    have hrun : Command.negation.run BuiltIn.csharp.language [t] =
        .ok (.line ("!" ++ (t ++ ""))) := rfl
    refine ⟨_, resolve_nested_eq_ok.mpr ⟨by omega, .negation, rfl, [t], ?_, _, hrun, rfl⟩⟩
    rw [List.map_singleton, ht, List.map_singleton]

/-- Whatever the reader makes of a text, of a raw command or of a stream of them, however the stream
is decoded, never fails as malformed when it is rendered. Of any other invocation, nothing in it is
deeper than the limit if it is rendered. -/
theorem nesting_limits_agree (l : Language) :
    (∀ raw i, Invocation.ofRaw raw = .ok i → WellNested l [i]) ∧
    (∀ text i, Invocation.parse text = .ok i → WellNested l [i]) ∧
    (∀ raw us, Stream.ofRaw raw = .ok us → WellNested l us) ∧
    (∀ decode text us, Stream.ofJson decode text = .ok us → WellNested l us) ∧
    ∀ (i : Invocation) r, i.render l = .ok r →
      ∀ path (n : Invocation), i.asArgument.at? path = some n.asArgument →
        path.length ≤ Invocation.maxNesting := by
  have hone (i : Invocation) (hi : i.depth ≤ Invocation.maxNesting + 1) : WellNested l [i] :=
    wellNested_of_depth (by simpa using hi)
  refine ⟨?_, ?_, ?_, ?_, ?_⟩
  · intro raw i h
    exact hone i (Invocation.depth_of_raw h)
  · intro text i h
    exact hone i (Nat.le_succ_of_le (Invocation.depth_of_parse h))
  · intro raw us h
    exact wellNested_of_depth (depth_of_stream h)
  · intro decode text us h
    exact wellNested_of_depth (depth_of_json h)
  · intro i r h path n hn
    have htext : i.asArgument.resolve l 0 = .ok r.firstText := by
      rw [Invocation.asArgument, Argument.resolve, map_eq_ok]
      exact ⟨r, h, rfl⟩
    simpa using depth_of_resolve htext path n hn

/-- A text of as many levels as the reader takes, in a raw command that adds one more, can still be
rendered. With another level around it nothing is rendered. -/
theorem nesting_limits_agree_negations :
    let inner : Invocation := ⟨"not", [negations 63]⟩
    let i : Invocation := ⟨"not", [negations 64]⟩
    let deeper : Invocation := ⟨"not", [negations 65]⟩
    Invocation.ofRaw ["not", inner.display] = .ok i ∧ (∀ l, WellNested l [i]) ∧
    (∃ r, i.render BuiltIn.csharp.language = .ok r) ∧
    ¬∃ r, deeper.render BuiltIn.csharp.language = .ok r := by
  intro inner i deeper
  have hprintable : inner.Printable := by decide +kernel
  have hraw : Invocation.ofRaw ["not", inner.display] = .ok i := by
    have hname : Text.trim "not" = "not" := rfl
    rw [Invocation.ofRaw, hname, if_neg (by decide), List.mapM_cons, ofRaw_display hprintable]
    rfl
  obtain ⟨-, -, -, -, hdepth⟩ := nesting_limits_agree BuiltIn.csharp.language
  refine ⟨hraw, fun l => (nesting_limits_agree l).1 _ _ hraw, ?_, ?_⟩
  · obtain ⟨t, ht⟩ := resolve_negations (n := 65) (d := 0) (by decide)
    rw [negations, Argument.resolve, map_eq_ok] at ht
    obtain ⟨r, hr, -⟩ := ht
    exact ⟨r, hr⟩
  · rintro ⟨r, hr⟩
    have h := hdepth deeper r hr (List.replicate 65 0) ⟨"not", [.literal "x"]⟩ rfl
    exact absurd h (by decide)

end Phrasebook
