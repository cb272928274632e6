/-! When a computation that may fail comes to a result, step by step. -/
namespace Phrasebook

variable {ε α β : Type}

theorem bind_eq_ok {x : Except ε α} {f : α → Except ε β} {b : β} :
    x >>= f = .ok b ↔ ∃ a, x = .ok a ∧ f a = .ok b := by
  cases x with
  | error e => simp [bind, Except.bind]
  | ok a => simp [bind, Except.bind]

theorem map_eq_ok {x : Except ε α} {f : α → β} {b : β} :
    x.map f = .ok b ↔ ∃ a, x = .ok a ∧ f a = b := by
  cases x with
  | error e => simp [Except.map]
  | ok a => simp [Except.map]

theorem bind_eq_error {x : Except ε α} {f : α → Except ε β} {e : ε} :
    x >>= f = .error e ↔ x = .error e ∨ ∃ a, x = .ok a ∧ f a = .error e := by
  cases x with
  | error e' => simp [bind, Except.bind]
  | ok a => simp [bind, Except.bind]

theorem map_eq_error {x : Except ε α} {f : α → β} {e : ε} :
    x.map f = .error e ↔ x = .error e := by
  cases x with
  | error e' => simp [Except.map]
  | ok a => simp [Except.map]

/-- What is missing is an error. -/
theorem elim_eq_ok {o : Option α} {e : ε} {a : α} :
    o.elim (.error e) .ok = (.ok a : Except ε α) ↔ o = some a := by
  cases o <;> simp

@[simp] theorem ok_bind (a : α) (f : α → Except ε β) : (.ok a : Except ε α) >>= f = f a := rfl

@[simp] theorem error_bind (e : ε) (f : α → Except ε β) :
    (.error e : Except ε α) >>= f = .error e := rfl

/-- Two runs over the same list, of which the second can do every step that the first one does. -/
theorem foldlM_simulates {σ τ : Type} {R : σ → τ → Prop} {f : σ → α → Except ε σ}
    {g : τ → α → Except ε τ}
    (step : ∀ {s t a s'}, R s t → f s a = .ok s' → ∃ t', g t a = .ok t' ∧ R s' t')
    {as : List α} {s s' : σ} {t : τ} (h : R s t) (hrun : as.foldlM f s = .ok s') :
    ∃ t', as.foldlM g t = .ok t' ∧ R s' t' := by
  induction as generalizing s t with
  | nil =>
    obtain rfl := Except.ok.inj hrun
    exact ⟨t, rfl, h⟩
  | cons a as ih =>
    rw [List.foldlM_cons] at hrun ⊢
    obtain ⟨s₁, hs, hrest⟩ := bind_eq_ok.mp hrun
    obtain ⟨t₁, ht, h₁⟩ := step h hs
    rw [ht, ok_bind]
    exact ih h₁ hrest

/-- What every step keeps is kept by the run. -/
theorem foldlM_keeps {σ : Type} {P : σ → Prop} {f : σ → α → Except ε σ} {as : List α}
    (step : ∀ a ∈ as, ∀ {s s'}, P s → f s a = .ok s' → P s') {s s' : σ} (hs : P s)
    (hrun : as.foldlM f s = .ok s') : P s' := by
  induction as generalizing s with
  | nil =>
    obtain rfl := Except.ok.inj hrun
    exact hs
  | cons a as ih =>
    rw [List.forall_mem_cons] at step
    rw [List.foldlM_cons] at hrun
    obtain ⟨s₁, h₁, hrest⟩ := bind_eq_ok.mp hrun
    exact ih step.2 (step.1 hs h₁) hrest

/-- What a traversal comes to has come from the elements. -/
theorem exists_of_mem_mapM {f : α → Except ε β} {as : List α} {bs : List β}
    (h : as.mapM f = .ok bs) : ∀ b ∈ bs, ∃ a ∈ as, f a = .ok b := by
  induction as generalizing bs with
  | nil =>
    obtain rfl := Except.ok.inj h
    simp
  | cons a as ih =>
    rw [List.mapM_cons] at h
    obtain ⟨c, hc, h⟩ := bind_eq_ok.mp h
    obtain ⟨cs, hcs, h⟩ := bind_eq_ok.mp h
    obtain rfl := Except.ok.inj h
    rw [List.forall_mem_cons]
    refine ⟨⟨a, by simp, hc⟩, fun b hb => ?_⟩
    obtain ⟨a', ha', hb'⟩ := ih hcs b hb
    exact ⟨a', List.mem_cons_of_mem a ha', hb'⟩

/-- Where all elements come to results, every result has come from one of them. -/
theorem exists_of_map_eq_ok {f : α → Except ε β} {as : List α} {bs : List β}
    (h : as.map f = bs.map .ok) {b : β} (hb : b ∈ bs) : ∃ a ∈ as, f a = .ok b := by
  have hmem : .ok b ∈ as.map f := h ▸ List.mem_map_of_mem hb
  exact List.mem_map.mp hmem

/-- A run that fails does so in the first of its steps that fails. -/
theorem foldlM_eq_error_iff {σ : Type} {f : σ → α → Except ε σ} {as : List α} {s : σ} {e : ε} :
    as.foldlM f s = .error e ↔ ∃ before a after s', as = before ++ a :: after ∧
      before.foldlM f s = .ok s' ∧ f s' a = .error e := by
  constructor
  · intro h
    induction as generalizing s with
    | nil => cases h
    | cons a as ih =>
      rw [List.foldlM_cons] at h
      rcases bind_eq_error.mp h with hs | ⟨s₁, hs, hrest⟩
      · exact ⟨[], a, as, s, rfl, rfl, hs⟩
      · obtain ⟨before, b, after, s', rfl, hbefore, hfails⟩ := ih hrest
        refine ⟨a :: before, b, after, s', rfl, ?_, hfails⟩
        rw [List.foldlM_cons, hs, ok_bind, hbefore]
  · rintro ⟨before, a, after, s', rfl, hbefore, hfails⟩
    rw [List.foldlM_append, hbefore, ok_bind, List.foldlM_cons, hfails, error_bind]

theorem foldlM_eq_error {σ : Type} {f : σ → α → Except ε σ} {as : List α} {s : σ} {e : ε}
    (h : as.foldlM f s = .error e) : ∃ a ∈ as, ∃ s', f s' a = .error e := by
  obtain ⟨before, a, after, s', rfl, -, hfails⟩ := foldlM_eq_error_iff.mp h
  exact ⟨a, by simp, s', hfails⟩

end Phrasebook
