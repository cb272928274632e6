import Phrasebook.CaseStyle

/-! What letter case leaves alone. The mappings turn letters into letters, so that a character that
is none, a newline or a hyphen for one, is in the mapped text only if it was in the text. -/
namespace Phrasebook.Text

def Uncased (d : Char) : Prop :=
  -- A surrogate, if there were one in the tables, would be mapped to the code point zero.
  0 < d.toNat ∧ (d ≠ 'ς' ∧ d ≠ 'σ') ∧
  (∀ p ∈ lowerSpecial ++ upperSpecial, d.toNat ∉ p.2) ∧
  ∀ r ∈ lowerRuns ++ upperRuns,
    (d.toNat : Int) < r.first + r.shift ∨ r.last + r.shift < (d.toNat : Int)

instance (d : Char) : Decidable (Uncased d) :=
  inferInstanceAs (Decidable (_ ∧ (_ ∧ _) ∧ _ ∧ _))

theorem uncased_newline : Uncased '\n' := by decide +kernel

section

variable {d : Char}

theorem toNat_of_ofNat {n : Nat} (hpos : 0 < d.toNat) (h : Char.ofNat n = d) : d.toNat = n := by
  by_cases hvalid : n.isValidChar
  · have he : Char.ofNat n = Char.ofNatAux n hvalid := dif_pos hvalid
    rw [← h, he]
    rfl
  · have he : Char.ofNat n = '\x00' := dif_neg hvalid
    rw [← h, he] at hpos
    exact absurd hpos (by decide)

theorem eq_of_mem_mapped {special : List (Nat × List Nat)} {runs : List CaseRun} {c : Char}
    (hpos : 0 < d.toNat) (hspecial : ∀ p ∈ special, d.toNat ∉ p.2)
    (hruns : ∀ r ∈ runs,
      (d.toNat : Int) < r.first + r.shift ∨ r.last + r.shift < (d.toNat : Int))
    (h : d ∈ mapped special runs c) : d = c := by
  rw [mapped] at h
  split at h
  · next ns hns =>
    obtain ⟨before, after, rfl, -⟩ := List.lookup_eq_some_iff.mp hns
    obtain ⟨n, hn, he⟩ := List.mem_map.mp h
    rw [← toNat_of_ofNat hpos he] at hn
    exact absurd hn (hspecial (c.toNat, ns) (by simp))
  · rw [List.mem_singleton, shifted] at h
    split at h
    · next r hr =>
      have hcovers := List.find?_some hr
      have hrun := hruns r (List.mem_of_find?_eq_some hr)
      have hd := toNat_of_ofNat hpos h.symm
      simp only [CaseRun.covers, Bool.and_eq_true, decide_eq_true_eq] at hcovers
      omega
    · exact h

variable (hd : Uncased d)
include hd

theorem eq_of_mem_lowerChar {c : Char} (h : d ∈ lowerChar c) : d = c := by
  obtain ⟨hpos, -, hspecial, hruns⟩ := hd
  exact eq_of_mem_mapped hpos (fun p hp => hspecial p (List.mem_append_left _ hp))
    (fun r hr => hruns r (List.mem_append_left _ hr)) h

theorem eq_of_mem_upperChar {c : Char} (h : d ∈ upperChar c) : d = c := by
  obtain ⟨hpos, -, hspecial, hruns⟩ := hd
  exact eq_of_mem_mapped hpos (fun p hp => hspecial p (List.mem_append_right _ hp))
    (fun r hr => hruns r (List.mem_append_right _ hr)) h

theorem ne_lowerSigma (before after : List Char) : d ≠ lowerSigma before after := by
  obtain ⟨-, ⟨hfinal, hinner⟩, -, -⟩ := hd
  rw [lowerSigma]
  split
  · exact hfinal
  · exact hinner

theorem mem_of_mem_lowerFrom {before cs : List Char} (h : d ∈ lowerFrom before cs) : d ∈ cs := by
  induction cs generalizing before with
  | nil => exact h
  | cons c cs ih =>
    rw [lowerFrom, List.mem_append] at h
    rcases h with h | h
    · split at h
      · exact absurd (List.mem_singleton.mp h) (ne_lowerSigma hd _ _)
      · exact eq_of_mem_lowerChar hd h ▸ List.mem_cons_self
    · exact List.mem_cons_of_mem c (ih h)

theorem mem_of_mem_uppercase {cs : List Char} (h : d ∈ cs.flatMap upperChar) : d ∈ cs := by
  obtain ⟨c, hc, hdc⟩ := List.mem_flatMap.mp h
  exact eq_of_mem_upperChar hd hdc ▸ hc

/-- What no mapping yields is in a word in whatever form only if it is in the word. -/
theorem mem_of_mem_form {form : WordForm} {i : Nat} {word : String}
    (h : d ∈ (form.apply i word).toList) : d ∈ word.toList := by
  have hlower (h : d ∈ (lowercase word).toList) : d ∈ word.toList :=
    mem_of_mem_lowerFrom hd (by simpa [lowercase] using h)
  have hcapital (h : d ∈ (capitalize word).toList) : d ∈ word.toList := by
    rw [capitalize] at h
    cases hword : word.toList with
    | nil => simp [hword] at h
    | cons c cs =>
      simp only [hword, String.toList_ofList, List.mem_append] at h
      rcases h with h | h
      · exact eq_of_mem_upperChar hd h ▸ List.mem_cons_self
      · exact List.mem_cons_of_mem c (mem_of_mem_lowerFrom hd h)
  cases form with
  | keep => exact h
  | lower => exact hlower h
  | upper => exact mem_of_mem_uppercase hd (by simpa [WordForm.apply, uppercase] using h)
  | capital => exact hcapital h
  | camel =>
    cases i with
    | zero => exact hlower h
    | succ i => exact hcapital h

theorem notMem_formed (k : Convention) {words : List String} (h : ∀ w ∈ words, d ∉ w.toList)
    (i : Nat) : ∀ t ∈ k.formed i words, d ∉ t.toList := by
  induction words generalizing i with
  | nil => exact List.forall_mem_nil _
  | cons w ws ih =>
    rw [List.forall_mem_cons] at h
    rw [Convention.formed, List.forall_mem_cons]
    exact ⟨fun hmem => h.1 (mem_of_mem_form hd hmem), ih h.2 (i + 1)⟩

end

end Phrasebook.Text
