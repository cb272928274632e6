import Phrasebook.Proofs.Extension

/-! Missing properties. An error that blames the language names a property that is unset in it, so
that a language is completed by setting what is reported, one property a round. -/
namespace Phrasebook

inductive Task where
  | unit (us : List Invocation)
  | invocation (i : Invocation)
  | command (c : Command) (given : List String)

namespace Task

def Fails (l : Language) (e : RenderError) : Task → Prop
  | unit us => renderUnit l us = .error e
  | invocation i => i.render l = .error e
  | command c given => c.run l given = .error e

def Reports (l : Language) (p : Property) (t : Task) : Prop :=
  ∃ e language reader, t.Fails l e ∧ e.rootCause = .incomplete language reader p

theorem Fails.settled_or_lacking {l : Language} (hl : l.assemble = l) {t : Task} {e : RenderError}
    (h : t.Fails l e) : e.Settled ∨ e.Lacking l := by
  have hself := Language.Extends.refl l
  cases t with
  | unit us => exact ((carries_renderUnit hl hl hself us).eq_error h).imp_left And.left
  | invocation i => exact ((carries_render hl hl hself i).eq_error h).imp_left And.left
  | command c given => exact ((carries_run hl hl hself c given).eq_error h).imp_left And.left

theorem Fails.unset {l : Language} (hl : l.assemble = l) {t : Task} {e : RenderError}
    (h : t.Fails l e) {language reader : String} {p : Property}
    (he : e.rootCause = .incomplete language reader p) : language = l.name ∧ p ∈ l.unset := by
  rcases h.settled_or_lacking hl with hsettled | ⟨reader', q, hq, hlacking⟩
  · exact absurd he (hsettled language reader p)
  · obtain ⟨rfl, -, rfl⟩ : language = l.name ∧ reader = reader' ∧ p = q := by
      simpa [he] using hlacking
    exact ⟨rfl, hq⟩

theorem Reports.mem_unset {l : Language} (hl : l.assemble = l) {t : Task} {p : Property}
    (h : t.Reports l p) : p ∈ l.unset := by
  obtain ⟨e, language, reader, hfails, he⟩ := h
  exact (hfails.unset hl he).2

end Task

/-- In each round some task reports a property, which is then set to any value, and the language is
assembled again. -/
inductive Rounds : Language → List Property → Language → Prop
  | none (l : Language) : Rounds l [] l
  | next {l m : Language} {ps : List Property} (t : Task) (s : Setting)
      (report : t.Reports l s.property) (value : s.value ≠ none)
      (rest : Rounds (l.set s).assemble ps m) : Rounds l (s.property :: ps) m

namespace Rounds

variable {l m : Language} {ps : List Property}

theorem assembled (h : Rounds l ps m) (hl : l.assemble = l) : m.assemble = m := by
  induction h with
  | none l => exact hl
  | next t s _ _ _ ih => exact ih (Language.assemble_assemble _)

/-- What has been reported and what is still unset are together what was unset. -/
theorem perm (h : Rounds l ps m) (hl : l.assemble = l) : (ps ++ m.unset).Perm l.unset := by
  induction h with
  | none l => exact .refl _
  | @next l m ps t s report value _ ih =>
    have hrest : (ps ++ m.unset).Perm (l.unset.erase s.property) := by
      rw [← l.unset_set_assemble value]
      exact ih (Language.assemble_assemble _)
    exact (hrest.cons _).trans (List.perm_cons_erase (report.mem_unset hl)).symm

theorem nodup (h : Rounds l ps m) (hl : l.assemble = l) : (ps ++ m.unset).Nodup :=
  (h.perm hl).nodup_iff.mpr l.nodup_unset

theorem notMem_of_reports (h : Rounds l ps m) (hl : l.assemble = l) {t : Task} {p : Property}
    (hp : t.Reports m p) : p ∉ ps := by
  intro hmem
  exact (List.nodup_append.mp (h.nodup hl)).2.2 p hmem p (hp.mem_unset (h.assembled hl)) rfl

theorem length_lt_of_reports (h : Rounds l ps m) (hl : l.assemble = l) {t : Task} {p : Property}
    (hp : t.Reports m p) : ps.length < l.unset.length := by
  have hlength := (h.perm hl).length_eq
  have hpos := List.length_pos_of_mem (hp.mem_unset (h.assembled hl))
  rw [List.length_append] at hlength
  omega

end Rounds

/-- An error that blames an assembled language gives its name and the path of a property that it
does not set. Hence, if what is reported is set round by round, no path is reported twice, and
nothing is reported any more after as many rounds as there were unset properties. -/
theorem reports_unset {l : Language} (hl : l.assemble = l) :
    (∀ (t : Task) e, t.Fails l e → ∀ language reader p,
      e.rootCause = .incomplete language reader p →
        language = l.name ∧ p.path ∈ l.unset.map Property.path) ∧
    ∀ ps m, Rounds l ps m →
      (ps.map Property.path).Nodup ∧ ps.length ≤ l.unset.length ∧
      ∀ (t : Task) p, t.Reports m p →
        p.path ∉ ps.map Property.path ∧ ps.length < l.unset.length := by
  constructor
  · intro t e he language reader p hp
    obtain ⟨hname, hmem⟩ := he.unset hl hp
    exact ⟨hname, List.mem_map_of_mem hmem⟩
  · intro ps m h
    have hnodup : ps.Nodup := (h.nodup hl).of_append_left
    have hlength := (h.perm hl).length_eq
    rw [List.length_append] at hlength
    refine ⟨hnodup.map Property.path_injective, by omega, fun t p hp => ⟨?_, ?_⟩⟩
    · rw [List.mem_map_of_injective Property.path_injective]
      exact h.notMem_of_reports hl hp
    · exact h.length_lt_of_reports hl hp

/-- Printing a sum in a language that sets nothing reports the indentation, then the sign of the
sum, which is nested, and then what stands before a printed value. -/
theorem reports_unset_printed_sum :
    let us : List Invocation :=
      [⟨"print", [.nested "operation" [.literal "a", .literal "plus", .literal "b"]]⟩]
    let indentation : Setting := .fragment .generalIndentation (some "  ")
    let sign : Setting := .fragment (.operator .plus) (some " + ")
    let l := ((Language.blank "sketch").set indentation).assemble
    let m := (l.set sign).assemble
    Rounds (.blank "sketch") [indentation.property, sign.property] m ∧
    (Task.unit us).Reports m (.fragment .outputPrintLeft) ∧
    "output.print_left" ∉ ["general.indentation", "operators.plus"] ∧
    "output.print_left" ∈ m.unset.map Property.path := by
  intro us indentation sign l m
  have hfirst : renderUnit (.blank "sketch") us =
      .error (.incomplete "sketch" "render unit" indentation.property) := by
    dsimp only [us, indentation]
    rfl
  have hsecond : renderUnit l us =
      .error (.nested .print 0 (.incomplete "sketch" "operation" sign.property)) := by
    dsimp only [us, indentation, sign, l]
    rfl
  have hthird : renderUnit m us =
      .error (.incomplete "sketch" "print" (.fragment .outputPrintLeft)) := by
    dsimp only [us, indentation, sign, l, m]
    rfl
  have hrounds : Rounds (.blank "sketch") [indentation.property, sign.property] m :=
    .next (.unit us) indentation ⟨_, _, _, hfirst, rfl⟩ nofun
      (.next (.unit us) sign ⟨_, _, _, hsecond, rfl⟩ nofun (.none m))
  have hreports : (Task.unit us).Reports m (.fragment .outputPrintLeft) := ⟨_, _, _, hthird, rfl⟩
  refine ⟨hrounds, hreports, ?_, ?_⟩
  · exact (((reports_unset rfl).2 _ m hrounds).2.2 _ _ hreports).1
  · exact ((reports_unset rfl).1 (.unit us) _ hthird _ _ _ rfl).2

end Phrasebook
