import Mathlib.Data.List.Infix
import Phrasebook.Proofs.LetterCase
import Phrasebook.Proofs.Lines

/-! Identifiers in a style that separates the words. No form of a word has the separator in it
unless the word has, so that the words in their forms can be read off from the identifier. The main
statement says that two lists of words give one identifier only if they agree form by form. -/
namespace Phrasebook

open Text

/-- Texts that do not have the separator in them can be read off from what they are joined to. -/
theorem Text.join_inj {c : Char} {ts us : List String} (hts : ts ≠ []) (hus : us ≠ [])
    (ht : ∀ t ∈ ts, c ∉ t.toList) (hu : ∀ u ∈ us, c ∉ u.toList) :
    join (String.singleton c) ts = join (String.singleton c) us ↔ ts = us := by
  constructor
  · intro h
    have hlists : ts.map String.toList = us.map String.toList := by
      rw [← splitOn_join hts ht, ← splitOn_join hus hu, h]
    exact (List.map_inj_right fun _ _ => String.toList_inj.mp).mp hlists
  · intro h
    rw [h]

theorem Finish.apply_injective (f : Finish) : Function.Injective f.apply := by
  intro s t h
  cases f with
  | keep => exact h
  | relativePath => exact (String.append_right_inj "./").mp h

namespace Convention

variable {k : Convention} {ws vs : List String}

theorem formed_eq_mapIdx (k : Convention) (i : Nat) (words : List String) :
    k.formed i words = words.mapIdx fun n word => k.form.apply (i + n) word := by
  induction words generalizing i with
  | nil => rfl
  | cons w ws ih =>
    rw [formed, ih, List.mapIdx_cons]
    simp only [Nat.add_zero, Nat.add_assoc, Nat.add_comm 1]

/-- Lists of words have the same forms if they are equally long and agree form by form. -/
theorem formed_inj : k.formed 0 ws = k.formed 0 vs ↔
    ws.length = vs.length ∧ ∀ i (_ : i < ws.length) (_ : i < vs.length),
      k.form.apply i ws[i] = k.form.apply i vs[i] := by
  simp [formed_eq_mapIdx, List.ext_getElem_iff]

theorem convert_of_ne_nil (h : ws ≠ []) :
    k.convert ws = k.finish.apply (join k.separator (k.formed 0 ws)) := by
  cases ws with
  | nil => exact absurd rfl h
  | cons w ws => rfl

theorem convert_inj {c : Char} (hk : k.separator = String.singleton c) (hc : Uncased c)
    (hws : ws ≠ []) (hvs : vs ≠ []) (hw : ∀ w ∈ ws, c ∉ w.toList) (hv : ∀ v ∈ vs, c ∉ v.toList) :
    k.convert ws = k.convert vs ↔ k.formed 0 ws = k.formed 0 vs := by
  have hne {words : List String} (h : words ≠ []) : k.formed 0 words ≠ [] := by
    simpa [formed_eq_mapIdx] using h
  -- Neither what finishes the identifier nor the join loses anything.
  rw [convert_of_ne_nil hws, convert_of_ne_nil hvs, k.finish.apply_injective.eq_iff, hk,
    join_inj (hne hws) (hne hvs) (notMem_formed hc k hw 0) (notMem_formed hc k hv 0)]

end Convention

namespace CaseStyle

/-- Every separator is one character, and no letter is mapped to it. -/
theorem exists_separator {style : CaseStyle} (h : style.convention.separator ≠ "") :
    ∃ c, style.convention.separator = String.singleton c ∧ Uncased c := by
  cases style with
  | none | camel | pascal => exact absurd rfl h
  | snake | upperSnake => exact ⟨'_', rfl, by decide +kernel⟩
  | kebab => exact ⟨'-', rfl, by decide +kernel⟩
  | packageLower | packageUpper => exact ⟨'.', rfl, by decide +kernel⟩
  | fileSystemLower | fileSystemUpper => exact ⟨'/', rfl, by decide +kernel⟩

/-- In a style with a separator, words without it give the same identifier exactly if there are
equally many of them and they have the same forms one by one. -/
theorem convert_eq_iff {style : CaseStyle} (hstyle : style.convention.separator ≠ "")
    {ws vs : List String} (hws : ws ≠ []) (hvs : vs ≠ [])
    (hfree : ∀ w ∈ ws ++ vs, ¬style.convention.separator.toList <:+: w.toList) :
    style.convert ws = style.convert vs ↔
      ws.length = vs.length ∧ ∀ i (_ : i < ws.length) (_ : i < vs.length),
        style.convention.form.apply i ws[i] = style.convention.form.apply i vs[i] := by
  obtain ⟨c, hseparator, hc⟩ := exists_separator hstyle
  have hnotMem : ∀ w ∈ ws ++ vs, c ∉ w.toList := by
    simpa [hseparator, List.singleton_infix_iff] using hfree
  rw [List.forall_mem_append] at hnotMem
  rw [convert, convert, Convention.convert_inj hseparator hc hws hvs hnotMem.1 hnotMem.2,
    Convention.formed_inj]

/-- A sharp s is two letters in upper case, and a sigma depends on where in its word it stands; an
empty word still has its separator. -/
theorem convert_eq_iff_street :
    upperSnake.convert ["straße", ""] = upperSnake.convert ["Strasse", ""] ∧
    fileSystemLower.convert ["ΟΔΟΣ", "a"] ≠ fileSystemLower.convert ["οδοσ", "A"] ∧
    packageUpper.convert ["a", ""] ≠ packageUpper.convert ["a"] := by
  have hforms : upperSnake.convention.formed 0 ["straße", ""] =
      upperSnake.convention.formed 0 ["Strasse", ""] := by decide +kernel
  refine ⟨?_, fun h => ?_, fun h => ?_⟩
  · exact (convert_eq_iff (by decide) (by decide) (by decide) (by decide)).mpr
      (Convention.formed_inj.mp hforms)
  · have hword := ((convert_eq_iff (by decide) (by decide) (by decide) (by decide)).mp h).2 0
      (by decide) (by decide)
    exact absurd hword (by decide +kernel)
  · have hlength := ((convert_eq_iff (by decide) (by decide) (by decide) (by decide)).mp h).1
    exact absurd hlength (by decide)

end CaseStyle

end Phrasebook
