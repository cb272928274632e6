import Mathlib.Order.Bounds.Basic
import Phrasebook.Command

/-! Arity. A signature declares how arguments are distributed over its parameters: one for each
required slot, at most one for each optional slot, and for a group a number of repetitions. Of a
group only the number of repetitions that a division gives is tried, and it is the least that can
hold what remains, as long as machine words can count that far. The check goes over the parameters
once. The main statement says that it accepts exactly the counts that can be distributed, and what
the least and the greatest of them are. Near the greatest word it accepts others as well. -/
namespace Phrasebook

namespace SlotGroup

inductive Repeats (g : SlotGroup) : (repetitions count : Nat) → Prop
  | none : Repeats g 0 0
  | more {r n k : Nat} (least : g.minimumWidth ≤ k) (most : k ≤ g.width) (rest : Repeats g r n) :
      Repeats g (r + 1) (k + n)

variable {g : SlotGroup} {r n : Nat}

theorem width_pos (g : SlotGroup) : 0 < g.width :=
  Nat.le_max_right _ _

theorem minimumWidth_le_width (g : SlotGroup) : g.minimumWidth ≤ g.width :=
  (List.length_filter_le _ _).trans (Nat.le_max_left _ _)

/-- Between the least and the most that the repetitions take, every count can be distributed. -/
theorem repeats_iff : g.Repeats r n ↔ r * g.minimumWidth ≤ n ∧ n ≤ r * g.width := by
  constructor
  · intro h
    induction h with
    | none => simp
    | more least most _ ih =>
      rw [Nat.succ_mul, Nat.succ_mul]
      omega
  · intro h
    obtain ⟨hleast, hmost⟩ := h
    induction r generalizing n with
    | zero =>
      obtain rfl : n = 0 := by omega
      exact .none
    | succ r ih =>
      rw [Nat.succ_mul] at hleast hmost
      have hwidth := g.minimumWidth_le_width
      have hrest : r * g.minimumWidth ≤ r * g.width := Nat.mul_le_mul_left r hwidth
      -- One repetition takes as much as it can, if only the others still get what they need.
      by_cases hfull : r * g.minimumWidth + g.width ≤ n
      · have h := Repeats.more hwidth le_rfl (ih (n := n - g.width) (by omega) (by omega))
        rwa [Nat.add_sub_cancel' (by omega)] at h
      · have h := Repeats.more (g := g) (k := n - r * g.minimumWidth) (by omega) (by omega)
          (ih le_rfl hrest)
        rwa [Nat.sub_add_cancel (by omega)] at h

/-- So many repetitions have room for the count exactly if it does not need more of them. -/
theorem ceil_le_iff : (n + g.width - 1) / g.width ≤ r ↔ n ≤ r * g.width := by
  have hpos := g.width_pos
  rw [Nat.div_le_iff_le_mul_add_pred hpos, Nat.mul_comm]
  omega

theorem fewest_le_iff : g.fewest n ≤ r ↔ n ≤ r * g.width ∧ (g.required = true → 1 ≤ r) := by
  rw [fewest, Nat.max_le, ceil_le_iff]
  cases g.required <;> simp

/-- The fewest repetitions with room for the count take it unless they need more. -/
theorem repeats_fewest : g.Repeats (g.fewest n) n ↔ g.fewest n * g.minimumWidth ≤ n := by
  have hroom := (fewest_le_iff (g := g) (n := n)).mp le_rfl
  rw [repeats_iff]
  exact and_iff_left hroom.1

/-- If any number of repetitions takes the count, the fewest with room for it do. -/
theorem isLeast_fewest (hr : g.required = true → 1 ≤ r) (h : g.Repeats r n) :
    IsLeast {r | (g.required = true → 1 ≤ r) ∧ g.Repeats r n} (g.fewest n) := by
  have hlower {s : Nat} (hs : g.required = true → 1 ≤ s) (hrepeats : g.Repeats s n) :
      g.fewest n ≤ s :=
    fewest_le_iff.mpr ⟨(repeats_iff.mp hrepeats).2, hs⟩
  -- Fewer repetitions need no more, so what the given number can hold is enough for the fewest.
  have hproduct : g.fewest n * g.minimumWidth ≤ n :=
    (Nat.mul_le_mul_right _ (hlower hr h)).trans (repeats_iff.mp h).1
  exact ⟨⟨(fewest_le_iff.mp le_rfl).2, repeats_fewest.mpr hproduct⟩, fun s hs => hlower hs.1 hs.2⟩

theorem repetitionsBy_mul_eq_some {k : Nat} : g.repetitionsBy Nat.mul n = some k ↔
    IsLeast {r | (g.required = true → 1 ≤ r) ∧ g.Repeats r n} k := by
  rw [repetitionsBy, Option.ite_none_right_eq_some, Option.some_inj]
  constructor
  · intro h
    obtain ⟨hproduct, rfl⟩ := h
    exact isLeast_fewest (fewest_le_iff.mp le_rfl).2 (repeats_fewest.mpr hproduct)
  · intro h
    obtain rfl := (isLeast_fewest h.1.1 h.1.2).unique h
    exact ⟨repeats_fewest.mp h.1.2, rfl⟩

theorem isSome_repetitionsBy_mul : (g.repetitionsBy Nat.mul n).isSome = true ↔
    ∃ r, (g.required = true → 1 ≤ r) ∧ g.Repeats r n := by
  rw [Option.isSome_iff_exists]
  simp only [repetitionsBy_mul_eq_some]
  constructor
  · intro h
    obtain ⟨k, hk⟩ := h
    exact ⟨k, hk.1⟩
  · intro h
    obtain ⟨r, hr, hrepeats⟩ := h
    exact ⟨_, isLeast_fewest hr hrepeats⟩

def Holds (g : SlotGroup) (count r : Nat) : Prop :=
  (g.required = true → 1 ≤ r) ∧ ∃ parts : List Nat, parts.length = r ∧
    (∀ n ∈ parts, g.minimumWidth ≤ n ∧ n ≤ g.width) ∧ total parts = count

theorem holds_iff : g.Holds n r ↔ (g.required = true → 1 ≤ r) ∧ g.Repeats r n := by
  refine and_congr_right' ⟨fun h => ?_, fun h => ?_⟩
  · obtain ⟨parts, rfl, hparts, rfl⟩ := h
    induction parts with
    | nil => exact .none
    | cons k parts ih =>
      rw [List.forall_mem_cons] at hparts
      exact .more hparts.1.1 hparts.1.2 (ih hparts.2)
  · induction h with
    | none => exact ⟨[], rfl, List.forall_mem_nil _, rfl⟩
    | @more r n k least most _ ih =>
      obtain ⟨parts, rfl, hparts, rfl⟩ := ih
      exact ⟨k :: parts, rfl, List.forall_mem_cons.mpr ⟨⟨least, most⟩, hparts⟩, rfl⟩

/-- One repetition more than the full ones has room for the count, hence the bound. -/
theorem fewest_mul_le (g : SlotGroup) (n : Nat) :
    g.fewest n * g.minimumWidth ≤ n + g.width := by
  have hroom : n ≤ (n / g.width + 1) * g.width := by
    rw [Nat.mul_comm]
    exact (Nat.lt_mul_div_succ n g.width_pos).le
  have hfewest : g.fewest n ≤ n / g.width + 1 :=
    fewest_le_iff.mpr ⟨hroom, fun _ => Nat.le_add_left 1 _⟩
  calc g.fewest n * g.minimumWidth
      ≤ (n / g.width + 1) * g.width := Nat.mul_le_mul hfewest g.minimumWidth_le_width
    _ = n / g.width * g.width + g.width := Nat.succ_mul _ _
    _ ≤ n + g.width := Nat.add_le_add_right (Nat.div_mul_le_self n g.width) _

theorem wordProduct_fewest (h : n + g.width < UInt64.size) :
    wordProduct (g.fewest n) g.minimumWidth = g.fewest n * g.minimumWidth :=
  Nat.mod_eq_of_lt ((g.fewest_mul_le n).trans_lt h)

theorem repetitionsBy_wordProduct (h : n + g.width < UInt64.size) :
    g.repetitionsBy wordProduct n = g.repetitionsBy Nat.mul n := by
  rw [repetitionsBy, repetitionsBy, wordProduct_fewest h]
  rfl

end SlotGroup

inductive Parameter.Takes : Parameter → Nat → Prop
  | required {slot : Slot} (h : slot.required = true) : Takes (.single slot) 1
  | optional {slot : Slot} (h : slot.required = false) {k : Nat} (hk : k ≤ 1) :
      Takes (.single slot) k
  | repetitions {g : SlotGroup} {r n : Nat} (hr : g.required = true → 1 ≤ r)
      (h : g.Repeats r n) : Takes (.repeating g) n

inductive Fills : List Parameter → Nat → Prop
  | nil : Fills [] 0
  | cons {p : Parameter} {ps : List Parameter} {k n : Nat} (first : p.Takes k)
      (rest : Fills ps n) : Fills (p :: ps) (k + n)

inductive Regular : List Parameter → Prop
  | optional {slots : List Slot} (h : ∀ s ∈ slots, s.required = false) :
      Regular (slots.map .single)
  | group (g : SlotGroup) : Regular [.repeating g]
  | required {slot : Slot} {ps : List Parameter} (h : slot.required = true) (rest : Regular ps) :
      Regular (.single slot :: ps)

section Shares

variable {ps : List Parameter} {slots : List Slot} {slot : Slot} {g : SlotGroup} {n : Nat}

theorem fills_nil : Fills [] n ↔ n = 0 := by
  constructor
  · intro h
    cases h with
    | nil => rfl
  · intro h
    rw [h]
    exact .nil

theorem fills_required (h : slot.required = true) :
    Fills (.single slot :: ps) n ↔ ∃ m, n = m + 1 ∧ Fills ps m := by
  constructor
  · intro hfills
    cases hfills with
    | cons first rest =>
      cases first with
      | required => exact ⟨_, Nat.add_comm _ _, rest⟩
      | optional hopt => simp [h] at hopt
  · intro hfills
    obtain ⟨m, rfl, rest⟩ := hfills
    rw [Nat.add_comm]
    exact .cons (.required h) rest

theorem fills_optional (h : ∀ s ∈ slots, s.required = false) :
    Fills (slots.map .single) n ↔ n ≤ slots.length := by
  induction slots generalizing n with
  | nil => simp [fills_nil]
  | cons slot slots ih =>
    rw [List.forall_mem_cons] at h
    rw [List.map_cons, List.length_cons]
    constructor
    · intro hfills
      cases hfills with
      | cons first rest =>
        have hrest := (ih h.2).mp rest
        cases first with
        | required hreq => simp [h.1] at hreq
        | optional _ hk => omega
    · intro hn
      have hsplit : n = min n 1 + (n - 1) := by omega
      rw [hsplit]
      exact .cons (.optional h.1 (by omega)) ((ih h.2).mpr (by omega))

theorem fills_group :
    Fills [.repeating g] n ↔ ∃ r, (g.required = true → 1 ≤ r) ∧ g.Repeats r n := by
  constructor
  · intro hfills
    cases hfills with
    | cons first rest =>
      obtain rfl := fills_nil.mp rest
      cases first with
      | repetitions hr h => exact ⟨_, hr, h⟩
  · intro hfits
    obtain ⟨r, hr, h⟩ := hfits
    exact .cons (.repetitions hr h) .nil

end Shares

namespace Signature

variable {s : Signature} {ps : List Parameter} {actual n : Nat}

theorem faultFrom_optional {times : Nat → Nat → Nat} {slots : List Slot}
    (h : ∀ s ∈ slots, s.required = false) :
    s.faultFrom times actual n (slots.map .single) = none ↔ n ≤ slots.length := by
  induction slots generalizing n with
  | nil => cases n <;> simp [faultFrom]
  | cons slot slots ih =>
    rw [List.forall_mem_cons] at h
    rw [List.map_cons, List.length_cons]
    cases n with
    | zero => simp [faultFrom, h.1, ih h.2]
    | succ n => rw [faultFrom, ih h.2, Nat.add_le_add_iff_right]

/-- The check finds no fault with what remains exactly if the parameters can share it out. -/
theorem faultFrom_eq_none (h : Regular ps) :
    s.faultFrom Nat.mul actual n ps = none ↔ Fills ps n := by
  induction h generalizing n with
  | optional h => rw [faultFrom_optional h, fills_optional h]
  | group g =>
    rw [fills_group, ← SlotGroup.isSome_repetitionsBy_mul]
    cases hr : g.repetitionsBy Nat.mul n <;> simp [faultFrom, hr]
  | required h _ ih =>
    rw [fills_required h]
    cases n with
    | zero => simp [faultFrom, h]
    | succ n => simp [faultFrom, ih]

theorem check_eq_ok (hs : Regular s.parameters) :
    s.check n = .ok () ↔ Fills s.parameters n := by
  have hfault : s.faultFrom Nat.mul n n s.parameters = none ↔ Fills s.parameters n :=
    faultFrom_eq_none hs
  rw [← hfault, check, checkBy]
  cases s.faultFrom Nat.mul n n s.parameters <;> simp

theorem checkBy_eq_error {times : Nat → Nat → Nat} {e : ArityError}
    (h : s.checkBy times n = .error e) : e.signature = s ∧ e.actual = n := by
  rw [checkBy] at h
  cases hf : s.faultFrom times n n s.parameters with
  | none => simp [hf] at h
  | some fault =>
    rw [hf] at h
    obtain rfl := Except.error.inj h
    exact ⟨rfl, rfl⟩

end Signature

section Bounds

variable {p : Parameter} {ps : List Parameter} {k n : Nat}

theorem Parameter.Takes.minimum_le (h : p.Takes k) : p.minimum ≤ k := by
  cases h with
  | required h => simp [minimum, h]
  | optional h => simp [minimum, h]
  | @repetitions g r n hr h =>
    have hleast := (SlotGroup.repeats_iff.mp h).1
    by_cases hg : g.required = true
    · have hone : 1 * g.minimumWidth ≤ r * g.minimumWidth := Nat.mul_le_mul_right _ (hr hg)
      simp only [minimum, hg, if_true]
      omega
    · simp [minimum, hg]

theorem Fills.minimum_le (h : Fills ps n) : total (ps.map Parameter.minimum) ≤ n := by
  induction h with
  | nil => exact le_rfl
  | cons first _ ih => exact Nat.add_le_add first.minimum_le ih

end Bounds

namespace Command

section Catalog

variable {ps : List Parameter} {name description : String} {slots : List (String × String)}

@[simp] theorem regular_nil : Regular [] := by
  have hnone : ∀ s ∈ ([] : List Slot), s.required = false := by simp
  exact .optional hnone

@[simp] theorem regular_required :
    Regular (.required name description :: ps) ↔ Regular ps := by
  refine ⟨fun h => ?_, .required rfl⟩
  generalize hps : Parameter.required name description :: ps = qs at h
  cases h with
  | required _ rest =>
    obtain ⟨-, rfl⟩ := List.cons.inj hps
    exact rest
  | group g => cases hps
  | @optional slots hslots =>
    cases slots with
    | nil => cases hps
    | cons slot slots =>
      obtain ⟨hslot, -⟩ := List.cons.inj hps
      obtain rfl := Parameter.single.inj hslot
      simp at hslots

@[simp] theorem regular_optional : Regular [.optional name description] := by
  have hone : ∀ s ∈ [Slot.mk name description false], s.required = false := by simp
  exact .optional hone

@[simp] theorem regular_anyNumber : Regular [.anyNumber name description slots] :=
  .group _

@[simp] theorem regular_atLeastOne : Regular [.atLeastOne name description slots] :=
  .group _

theorem fills_atLeastOne {r : Nat} (hr : 1 ≤ r) :
    Fills [.atLeastOne name description slots] (r * slots.length) := by
  refine fills_group.mpr ⟨r, fun _ => hr, SlotGroup.repeats_iff.mpr ⟨?_, ?_⟩⟩
  · apply Nat.mul_le_mul_left
    exact (List.length_filter_le _ _).trans_eq (List.length_map _)
  · apply Nat.mul_le_mul_left
    simp [SlotGroup.width]

end Catalog

theorem regular (c : Command) : Regular c.signature.parameters := by
  cases c <;> simp [signature, commentWords, typedParameters]

end Command

namespace Signature

variable {s : Signature} {n : Nat}

/-- A machine word can hold what remains for a group of the signature together with its width. All
other parameters of a regular signature come before the group and take one argument each. -/
def Countable (s : Signature) (n : Nat) : Prop :=
  ∀ g, .repeating g ∈ s.parameters → n - (s.parameters.length - 1) + g.width < UInt64.size

theorem faultFrom_wordProduct {ps : List Parameter} {actual : Nat} (hps : Regular ps)
    (h : ∀ g, .repeating g ∈ ps → n - (ps.length - 1) + g.width < UInt64.size) :
    s.faultFrom wordProduct actual n ps = s.faultFrom Nat.mul actual n ps := by
  induction hps generalizing n with
  | @optional slots hslots =>
    clear h
    induction slots generalizing n with
    | nil => cases n <;> rfl
    | cons slot slots ih =>
      rw [List.forall_mem_cons] at hslots
      cases n with
      | zero => simp [faultFrom, hslots.1, ih hslots.2]
      | succ n => exact ih hslots.2
  | group g =>
    have hg := SlotGroup.repetitionsBy_wordProduct (h g (by simp))
    simp only [List.length_singleton, Nat.sub_self, Nat.sub_zero] at hg
    simp only [faultFrom, hg]
  | @required slot ps hslot hrest ih =>
    cases n with
    | zero => simp [faultFrom, hslot]
    | succ n =>
      refine ih fun g hg => ?_
      have hpos := List.length_pos_of_mem hg
      have hword := h g (List.mem_cons_of_mem _ hg)
      rw [List.length_cons] at hword
      omega

/-- The check multiplies machine words, which makes no difference as long as they can count. -/
theorem validate_eq_check (hs : Regular s.parameters) (h : s.Countable n) :
    s.validate n = s.check n := by
  rw [validate, check, checkBy, checkBy, faultFrom_wordProduct hs h]

theorem validate_eq_ok (hs : Regular s.parameters) (h : s.Countable n) :
    s.validate n = .ok () ↔ Fills s.parameters n := by
  rw [validate_eq_check hs h, check_eq_ok hs]

end Signature

theorem Command.width_le_two {c : Command} {g : SlotGroup}
    (h : .repeating g ∈ c.signature.parameters) : g.width ≤ 2 := by
  cases c <;>
    simp [signature, commentWords, typedParameters, Parameter.required, Parameter.optional,
      Parameter.anyNumber, Parameter.atLeastOne] at h <;>
    rw [h] <;> decide

/-- The arguments of a command can be counted, as far as a list of them goes. -/
theorem Command.countable (c : Command) {n : Nat} (h : n + 2 < UInt64.size) :
    c.signature.Countable n := by
  intro g hg
  have hwidth := width_le_two hg
  omega

end Phrasebook
