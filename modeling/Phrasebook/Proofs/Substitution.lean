import Phrasebook.BuiltIn
import Phrasebook.Resolve
import Phrasebook.Proofs.Tree

/-! Resolving nested invocations is substitution: where an invocation stands as an argument, its
text may stand as well. -/
namespace Phrasebook

variable {l : Language} {d e : Nat}

/-- The depth matters only where it is too great. -/
theorem perform_congr (hd : d ≤ Invocation.maxNesting) (he : e ≤ Invocation.maxNesting)
    (name : String) {f g : Command → Except RenderError (List String)} (h : ∀ c, f c = g c) :
    perform l d name f = perform l e name g := by
  obtain rfl : f = g := funext h
  rw [perform, perform, if_neg (Nat.not_lt.mpr hd), if_neg (Nat.not_lt.mpr he)]

/-- Of the arguments of a command, only what each of them resolves to matters. -/
theorem resolveAll_congr {as bs : List Argument}
    (h : as.map (Argument.resolve l d) = bs.map (Argument.resolve l e)) (c : Command)
    (position : Nat) : resolveAll l d c position as = resolveAll l e c position bs := by
  induction as generalizing bs position with
  | nil =>
    obtain rfl : bs = [] := by simpa using h.symm
    rfl
  | cons a as ih =>
    cases bs with
    | nil => simp at h
    | cons b bs =>
      obtain ⟨hab, hrest⟩ := List.cons.inj h
      rw [resolveAll, resolveAll, hab, ih hrest]

theorem resolve_nested_congr {as bs : List Argument} (hd : d ≤ Invocation.maxNesting)
    (he : e ≤ Invocation.maxNesting) (name : String)
    (h : as.map (Argument.resolve l (d + 1)) = bs.map (Argument.resolve l (e + 1))) :
    Argument.resolve l d (.nested name as) = Argument.resolve l e (.nested name bs) := by
  rw [Argument.resolve, Argument.resolve,
    perform_congr hd he name fun c => resolveAll_congr h c 0]

/-- As long as nothing is too deep, an argument resolves alike at every depth. -/
theorem resolve_depth (a : Argument) (hd : d + a.depth ≤ Invocation.maxNesting + 1)
    (he : e + a.depth ≤ Invocation.maxNesting + 1) :
    a.resolve l d = a.resolve l e := by
  induction a generalizing d e with
  | literal text => rw [Argument.resolve, Argument.resolve]
  | nested name as ih =>
    rw [Argument.depth] at hd he
    apply resolve_nested_congr (by omega) (by omega)
    apply List.map_congr_left
    intro a ha
    have hle := Argument.depthAll_le.mp (Nat.le_refl (Argument.depthAll as)) a ha
    exact ih a ha (by omega) (by omega)

theorem map_modify_of_eq {α β : Type} {f : α → α} {g : α → β} {as : List α} {p : Nat}
    (h : ∀ a, as[p]? = some a → g (f a) = g a) : (as.modify p f).map g = as.map g := by
  apply List.ext_getElem?
  intro j
  rw [List.getElem?_map, List.getElem?_modify, List.getElem?_map]
  by_cases hj : p = j
  · subst hj
    cases ha : as[p]? with
    | none => rfl
    | some a => simp [h a ha]
  · simp [hj]

theorem depth_le_of_getElem? {as : List Argument} {p : Nat} {a : Argument}
    (h : as[p]? = some a) : a.depth ≤ Argument.depthAll as :=
  Argument.depthAll_le.mp (Nat.le_refl _) a (List.mem_of_getElem? h)

theorem map_resolve_replaceAt {n : Invocation} {t : String} (ht : n.inline l = .ok t)
    {as : List Argument} {p : Nat} {path : List Nat}
    (hd : d + Argument.depthAll as ≤ Invocation.maxNesting + 1)
    (ha : as[p]?.bind (fun a => a.at? path) = some n.asArgument) :
    (as.modify p fun a => a.replaceAt path (.literal t)).map (Argument.resolve l d) =
      as.map (Argument.resolve l d) := by
  -- Down the place: at its end the text stands for the invocation, and above that an invocation
  -- resolves as before because all its arguments do.
  induction path generalizing as p d with
  | nil =>
    obtain ⟨a, hp, hat⟩ := Option.bind_eq_some_iff.mp ha
    obtain rfl : a = n.asArgument := by simpa [Argument.at?] using hat
    have hle := depth_le_of_getElem? hp
    have hn : n.asArgument.resolve l d = .ok t := by
      rw [← ht]
      exact resolve_depth n.asArgument (by omega) (by omega)
    apply map_modify_of_eq
    intro b hb
    obtain rfl : n.asArgument = b := by simpa [hp] using hb
    rw [hn, Argument.replaceAt, Argument.resolve]
  | cons q path ih =>
    obtain ⟨a, hp, hat⟩ := Option.bind_eq_some_iff.mp ha
    have hle := depth_le_of_getElem? hp
    cases a with
    | literal text => simp [Argument.at?] at hat
    | nested name inner =>
      rw [Argument.depth] at hle
      apply map_modify_of_eq
      intro b hb
      obtain rfl : Argument.nested name inner = b := by simpa [hp] using hb
      have hd' : d + 1 + Argument.depthAll inner ≤ Invocation.maxNesting + 1 := by omega
      rw [Argument.replaceAt]
      exact resolve_nested_congr (by omega) (by omega) name (ih hd' hat)

/-- Where an invocation that has a text stands as an argument, however deep, the text may stand in
its place: the whole renders alike, or fails alike. -/
theorem render_replaceAt {i n : Invocation} {p : Nat} {path : List Nat} {t : String}
    (hd : i.depth ≤ Invocation.maxNesting + 1) (hn : i.argumentAt? p path = some n.asArgument)
    (ht : n.inline l = .ok t) : (i.replaceAt p path (.literal t)).render l = i.render l := by
  have hd' : 1 + Argument.depthAll i.arguments ≤ Invocation.maxNesting + 1 := by
    rw [Invocation.depth] at hd
    omega
  have hargs := map_resolve_replaceAt ht hd' hn
  rw [Invocation.render, Invocation.render]
  exact perform_congr (Nat.zero_le _) (Nat.zero_le _) i.name fun c => resolveAll_congr hargs c 0

theorem render_replaceAt_negated_sum :
    Invocation.inline BuiltIn.csharp.language
        ⟨"operation", [.literal "a", .literal "plus", .literal "b"]⟩ = .ok "a + b" ∧
      Invocation.render BuiltIn.csharp.language
        (Invocation.replaceAt ⟨"print", [.nested "not" [.nested "operation"
          [.literal "a", .literal "plus", .literal "b"]]]⟩ 0 [0] (.literal "a + b")) =
      Invocation.render BuiltIn.csharp.language ⟨"print", [.nested "not" [.nested "operation"
        [.literal "a", .literal "plus", .literal "b"]]]⟩ := by
  have ht : Invocation.inline BuiltIn.csharp.language
      ⟨"operation", [.literal "a", .literal "plus", .literal "b"]⟩ = .ok "a + b" := rfl
  exact ⟨ht, render_replaceAt (by decide) rfl ht⟩

end Phrasebook
