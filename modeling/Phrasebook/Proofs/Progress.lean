import Phrasebook.Proofs.Acceptance
import Phrasebook.Proofs.Outcome
import Phrasebook.Proofs.Substitution

/-! Progress: in a complete language an invocation renders exactly if each invocation in it fits,
that is, it is not too deep and its command accepts the texts of its arguments. -/
namespace Phrasebook

namespace Command

theorem nodup_names : (all.map name).Nodup := by
  decide +kernel

theorem named_eq_ok {name : String} {c : Command} :
    Command.named name = .ok c ↔ c.name = Text.trim name := by
  rw [Command.named]
  constructor
  · intro h
    cases hf : ofName? name with
    | none => simp [hf] at h
    | some d =>
      obtain rfl : d = c := by simpa [hf] using h
      simpa using List.find?_some hf
  · intro h
    cases hf : ofName? name with
    | none =>
      have := List.find?_eq_none.mp hf c c.mem_all
      simp [h] at this
    | some d =>
      have hd : d.name = Text.trim name := by simpa using List.find?_some hf
      rw [List.inj_on_of_nodup_map nodup_names d.mem_all c.mem_all (hd.trans h.symm)]

end Command

def Argument.text (l : Language) : Argument → Except RenderError String
  | .literal text => .ok text
  | .nested name arguments => Invocation.inline l ⟨name, arguments⟩

/-- What is asked of an invocation that stands at a depth. An argument that is to be a word of a
vocabulary may come from an invocation. -/
structure Invocation.Fits (l : Language) (depth : Nat) (n : Invocation) : Prop where
  shallow : depth ≤ maxNesting
  command : ∃ c : Command, c.name = Text.trim n.name ∧
    c.signature.check n.arguments.length = .ok () ∧
    ∀ v : Vocabulary, v.command = c → ∀ k, v.At k → ∀ a, n.arguments[k]? = some a →
      ∀ word, a.text l = .ok word → word ∈ v.words

section

variable {l : Language} {d e : Nat}

theorem resolveAll_eq_ok {as : List Argument} {texts : List String} {c : Command}
    {position : Nat} : resolveAll l d c position as = .ok texts ↔
      as.map (Argument.resolve l d) = texts.map .ok := by
  induction as generalizing texts position with
  | nil => cases texts <;> simp [resolveAll]
  | cons a as ih =>
    rw [resolveAll]
    cases ha : a.resolve l d with
    | error e => cases texts <;> simp [Except.mapError, ha]
    | ok t =>
      simp only [Except.mapError, ok_bind, bind_eq_ok, ih]
      cases texts with
      | nil => simp [pure, Except.pure]
      | cons u us => simp [pure, Except.pure, ha, and_comm]

theorem perform_eq_ok {name : String} {f : Command → Except RenderError (List String)}
    {r : Rendering} : perform l d name f = .ok r ↔
      d ≤ Invocation.maxNesting ∧ ∃ c : Command, c.name = Text.trim name ∧
        ∃ texts, f c = .ok texts ∧ c.run l texts = .ok r := by
  rw [perform]
  by_cases hd : Invocation.maxNesting < d
  · simp [hd, Nat.not_le.mpr hd]
  · simp only [hd, if_false, bind_eq_ok, Command.named_eq_ok]
    simp [Nat.not_lt.mp hd]

/-- A nested invocation resolves if its arguments do and its command runs on their texts. -/
theorem resolve_nested_eq_ok {name : String} {as : List Argument} {t : String} :
    Argument.resolve l d (.nested name as) = .ok t ↔
      d ≤ Invocation.maxNesting ∧ ∃ c : Command, c.name = Text.trim name ∧
        ∃ texts, as.map (Argument.resolve l (d + 1)) = texts.map .ok ∧
          ∃ r, c.run l texts = .ok r ∧ r.firstText = t := by
  rw [Argument.resolve, map_eq_ok]
  simp only [perform_eq_ok, resolveAll_eq_ok]
  constructor
  · rintro ⟨r, ⟨hd, c, hc, texts, htexts, hr⟩, ht⟩
    exact ⟨hd, c, hc, texts, htexts, r, hr, ht⟩
  · rintro ⟨hd, c, hc, texts, htexts, r, hr, ht⟩
    exact ⟨r, ⟨hd, c, hc, texts, htexts, hr⟩, ht⟩

theorem resolve_of_mem {as : List Argument} {texts : List String}
    (h : as.map (Argument.resolve l d) = texts.map .ok) {a : Argument} (ha : a ∈ as) :
    ∃ t, a.resolve l d = .ok t := by
  have hmem : a.resolve l d ∈ texts.map .ok := h ▸ List.mem_map_of_mem ha
  obtain ⟨t, -, ht⟩ := List.mem_map.mp hmem
  exact ⟨t, ht.symm⟩

/-- What resolves at a depth resolves alike higher up. -/
theorem resolve_of_le {a : Argument} {t : String} (h : a.resolve l d = .ok t) (he : e ≤ d) :
    a.resolve l e = .ok t := by
  induction a generalizing d e t with
  | literal text =>
    rw [Argument.resolve] at h ⊢
    exact h
  | nested name as ih =>
    rw [resolve_nested_eq_ok] at h ⊢
    obtain ⟨hd, c, hc, texts, htexts, hr⟩ := h
    refine ⟨by omega, c, hc, texts, ?_, hr⟩
    rw [← htexts]
    apply List.map_congr_left
    intro a ha
    obtain ⟨u, hu⟩ := resolve_of_mem htexts ha
    rw [hu, ih a ha hu (by omega)]

theorem text_of_resolve {a : Argument} {t : String} (h : a.resolve l d = .ok t) :
    a.text l = .ok t := by
  have hzero := resolve_of_le h (Nat.zero_le d)
  cases a with
  | literal text => rwa [Argument.resolve] at hzero
  | nested name as => rwa [Argument.resolve] at hzero

theorem map_resolve_eq_ok {as : List Argument} (h : ∀ a ∈ as, ∃ t, a.resolve l d = .ok t) :
    ∃ texts : List String, as.map (Argument.resolve l d) = texts.map .ok := by
  induction as with
  | nil => exact ⟨[], rfl⟩
  | cons a as ih =>
    rw [List.forall_mem_cons] at h
    obtain ⟨t, ht⟩ := h.1
    obtain ⟨ts, hts⟩ := ih h.2
    exact ⟨t :: ts, by rw [List.map_cons, List.map_cons, ht, hts]⟩

/-- Once its arguments have resolved, an invocation fits exactly if its command accepts what they
have resolved to. -/
theorem fits_iff {name : String} {as : List Argument} {texts : List String}
    (h : as.map (Argument.resolve l (d + 1)) = texts.map .ok) :
    Invocation.Fits l d ⟨name, as⟩ ↔ d ≤ Invocation.maxNesting ∧
      ∃ c : Command, c.name = Text.trim name ∧ c.Accepts texts := by
  have hlength : as.length = texts.length := by simpa using congrArg List.length h
  have hat (k : Nat) : as[k]?.map (Argument.resolve l (d + 1)) = texts[k]?.map .ok := by
    rw [← List.getElem?_map, h, List.getElem?_map]
  constructor
  · rintro ⟨hd, c, hc, hcount, hwords⟩
    refine ⟨hd, c, hc, hlength ▸ hcount, fun v hv k hk word hword => ?_⟩
    obtain ⟨a, ha, hresolve⟩ : ∃ a, as[k]? = some a ∧ a.resolve l (d + 1) = .ok word := by
      simpa [hword] using hat k
    exact hwords v hv k hk a ha word (text_of_resolve hresolve)
  · rintro ⟨hd, c, hc, hcount, hwords⟩
    refine ⟨hd, c, hc, hlength ▸ hcount, fun v hv k hk a ha word hword => ?_⟩
    obtain ⟨word', hword', hresolve⟩ : ∃ word', texts[k]? = some word' ∧
        .ok word' = a.resolve l (d + 1) := by
      simpa [ha] using (hat k).symm
    obtain rfl : word' = word := by simpa [text_of_resolve hresolve.symm] using hword
    exact hwords v hv k hk word' hword'

end

/-- The invocations in a nested one are that one, at the empty place, and those in its arguments. -/
theorem forall_nodes_nested {Q : Nat → Invocation → Prop} {name : String} {as : List Argument} :
    (∀ path (n : Invocation), (Argument.nested name as).at? path = some n.asArgument →
      Q path.length n) ↔
    Q 0 ⟨name, as⟩ ∧ ∀ a ∈ as, ∀ path (n : Invocation), a.at? path = some n.asArgument →
      Q (path.length + 1) n := by
  constructor
  · intro h
    refine ⟨h [] ⟨name, as⟩ rfl, fun a ha path n hn => ?_⟩
    obtain ⟨p, hp⟩ := List.getElem?_of_mem ha
    exact h (p :: path) n (by simp [Argument.at?, hp, hn])
  · rintro ⟨hroot, hbelow⟩ path n hn
    cases path with
    | nil =>
      obtain ⟨rfl, rfl⟩ : name = n.name ∧ as = n.arguments := by
        simpa [Argument.at?, Invocation.asArgument] using hn
      exact hroot
    | cons p path =>
      obtain ⟨a, hp, hat⟩ := Option.bind_eq_some_iff.mp hn
      exact hbelow a (List.mem_of_getElem? hp) path n hat

/-- An argument resolves at a depth exactly if every invocation in it fits where it stands. -/
theorem resolve_succeeds_iff {l : Language} (hset : ∀ p, l.value p ≠ none) (ha : l.assemble = l)
    (a : Argument) (d : Nat) : (∃ t, a.resolve l d = .ok t) ↔
      ∀ path (n : Invocation), a.at? path = some n.asArgument → n.Fits l (d + path.length) := by
  induction a generalizing d with
  | literal text =>
    constructor
    · intro _ path n hn
      cases path <;> simp [Argument.at?, Invocation.asArgument] at hn
    · intro _
      exact ⟨text, by rw [Argument.resolve]⟩
  | nested name as ih =>
    -- Below, the arguments resolve exactly if what is in them fits; with their texts at hand, the
    -- invocation itself fits exactly if its command accepts them, which is when it renders.
    have hargs : (∀ a ∈ as, ∀ path (n : Invocation), a.at? path = some n.asArgument →
        n.Fits l (d + (path.length + 1))) ↔ ∀ a ∈ as, ∃ t, a.resolve l (d + 1) = .ok t := by
      refine forall₂_congr fun a ha' => ?_
      rw [ih a ha' (d + 1)]
      simp only [Nat.add_assoc, Nat.add_comm 1]
    rw [forall_nodes_nested (Q := fun depth n => n.Fits l (d + depth)), hargs]
    simp only [resolve_nested_eq_ok, Nat.add_zero]
    constructor
    · rintro ⟨t, hd, c, hc, texts, htexts, r, hr, -⟩
      refine ⟨(fits_iff htexts).mpr ⟨hd, c, hc, accepts_of_run ha hr⟩, fun a ha => ?_⟩
      exact resolve_of_mem htexts ha
    · rintro ⟨hfits, hresolve⟩
      obtain ⟨texts, htexts⟩ := map_resolve_eq_ok hresolve
      obtain ⟨hd, c, hc, haccepts⟩ := (fits_iff htexts).mp hfits
      obtain ⟨r, hr⟩ := (run_succeeds_iff hset ha).mpr haccepts
      exact ⟨_, hd, c, hc, texts, htexts, r, hr, rfl⟩

/-- In a complete, assembled language an invocation renders exactly if every invocation in it is at
most so deep, has a registered name and a number of arguments that suits its command, and has words
where words of a vocabulary are asked for. -/
theorem render_succeeds_iff {l : Language} (hl : l.validate = .ok ()) (ha : l.assemble = l)
    (i : Invocation) : (∃ r, i.render l = .ok r) ↔
      ∀ path (n : Invocation), i.asArgument.at? path = some n.asArgument →
        n.Fits l path.length := by
  have hresolve := resolve_succeeds_iff (Language.value_ne_none_of_validate hl) ha i.asArgument 0
  simp only [Nat.zero_add] at hresolve
  rw [← hresolve, Invocation.asArgument, Argument.resolve]
  simp only [map_eq_ok]
  constructor
  · rintro ⟨r, hr⟩
    exact ⟨r.firstText, r, hr, rfl⟩
  · rintro ⟨_, r, hr, -⟩
    exact ⟨r, hr⟩

/-- The same invocation fits where types are left out, so that its argument reads "true", and does
not where the type comes before the name. -/
theorem render_succeeds_iff_typed_word :
    let i : Invocation :=
      ⟨"boolean", [.nested "variable inline" [.literal "true", .literal "bool"]]⟩
    (∀ path (n : Invocation), i.asArgument.at? path = some n.asArgument →
      n.Fits BuiltIn.javascript.language path.length) ∧
    ¬∀ path (n : Invocation), i.asArgument.at? path = some n.asArgument →
      n.Fits BuiltIn.csharp.language path.length := by
  intro i
  have hjs : i.render BuiltIn.javascript.language = .ok (.line "true") := by
    dsimp only [i]
    rfl
  have hcs : i.render BuiltIn.csharp.language = .error (.invalidValue .truth "bool true") := by
    dsimp only [i]
    rfl
  constructor
  · exact (render_succeeds_iff (BuiltIn.validate_language _) rfl i).mp ⟨_, hjs⟩
  · intro h
    obtain ⟨r, hr⟩ := (render_succeeds_iff (BuiltIn.validate_language _) rfl i).mpr h
    simp [hcs] at hr

end Phrasebook
