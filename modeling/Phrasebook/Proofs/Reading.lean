import Phrasebook.Invocation.Reader
import Phrasebook.Proofs.Grammar
import Phrasebook.Proofs.Outcome

/-! Reading invocations against the grammar: the reader takes exactly the texts that stand for an
invocation of at most so many levels, and gives back that invocation. -/
namespace Phrasebook

open Text Grammar

namespace Reader

theorem cons_eq_ok {c : Char} {p : Piece} {piece rest : List Char} :
    Piece.cons c p = .ok (piece, rest) ↔ ∃ more, piece = c :: more ∧ p = .ok (more, rest) := by
  rw [Piece.cons, map_eq_ok]
  constructor
  · rintro ⟨⟨more, rest'⟩, hp, he⟩
    obtain ⟨rfl, rfl⟩ := Prod.mk.inj he
    exact ⟨more, rfl, hp⟩
  · rintro ⟨more, rfl, hp⟩
    exact ⟨(more, rest), hp, rfl⟩

theorem readName_cons {c : Char} (hc : ¬EndsName c) (cs : List Char) :
    readName (c :: cs) = Piece.cons c (readName cs) := by
  simp only [EndsName, not_or] at hc
  simp [readName, hc]

theorem readName_sound {cs n rest : List Char} (h : readName cs = .ok (n, rest)) :
    cs = n ++ rest ∧ (∀ c ∈ n, ¬EndsName c) ∧ ∃ r, rest = ':' :: r ∨ rest = '\x7d' :: r := by
  induction cs generalizing n with
  | nil => simp [readName] at h
  | cons c cs ih =>
    by_cases hc : EndsName c
    · rcases hc with rfl | rfl | rfl
      · obtain ⟨rfl, rfl⟩ := Prod.mk.inj (Except.ok.inj h)
        exact ⟨rfl, by simp, cs, .inl rfl⟩
      · simp [readName] at h
      · obtain ⟨rfl, rfl⟩ := Prod.mk.inj (Except.ok.inj h)
        exact ⟨rfl, by simp, cs, .inr rfl⟩
    · rw [readName_cons hc, cons_eq_ok] at h
      obtain ⟨more, rfl, hm⟩ := h
      obtain ⟨rfl, hn, hr⟩ := ih hm
      refine ⟨rfl, ?_, hr⟩
      intro d hd
      rcases List.mem_cons.mp hd with rfl | hd
      · exact hc
      · exact hn d hd

theorem readName_complete {n : List Char} (hn : ∀ c ∈ n, ¬EndsName c) {d : Char}
    (hd : d = ':' ∨ d = '\x7d') (rest : List Char) :
    readName (n ++ d :: rest) = .ok (n, d :: rest) := by
  induction n with
  | nil => simp [readName, hd]
  | cons c n ih =>
    rw [List.cons_append, readName_cons (hn c (by simp)), cons_eq_ok]
    exact ⟨n, rfl, ih fun x hx => hn x (by simp [hx])⟩

/-- What comes first moves the number of open parentheses from `m` to `n`. -/
theorem readGroup_cons {m n : Nat} {c : Char} (h : [c].count '(' + m = [c].count ')' + n)
    (cs : List Char) : readGroup m (c :: cs) = Piece.cons c (readGroup n cs) := by
  by_cases hc : c = ')'
  · subst hc
    obtain rfl : m = n + 1 := by simpa [Nat.add_comm] using h
    simp [readGroup]
  · by_cases ho : c = '('
    · subst ho
      obtain rfl : n = m + 1 := by simpa [Nat.add_comm] using h.symm
      simp [readGroup]
    · obtain rfl : m = n := by simpa [hc, ho] using h
      simp [readGroup, hc, ho]

theorem exists_opened {m : Nat} {c : Char} (h : ¬(m = 0 ∧ c = ')')) :
    ∃ n, [c].count '(' + m = [c].count ')' + n := by
  by_cases hc : c = ')'
  · subst hc
    have hm : m ≠ 0 := fun hm => h ⟨hm, rfl⟩
    refine ⟨m - 1, ?_⟩
    simp
    omega
  · exact ⟨[c].count '(' + m, by simp [hc]⟩

/-- The inside of a group is all that comes before the parenthesis that closes it. -/
theorem readGroup_eq_ok {opened : Nat} {cs inside rest : List Char} :
    readGroup opened cs = .ok (inside, rest) ↔
      cs = inside ++ ')' :: rest ∧ Closes opened inside := by
  induction cs generalizing opened inside with
  | nil => simp [readGroup]
  | cons c cs ih =>
    by_cases hz : opened = 0 ∧ c = ')'
    · obtain ⟨rfl, rfl⟩ := hz
      constructor
      · intro h
        obtain ⟨rfl, rfl⟩ := Prod.mk.inj (Except.ok.inj h)
        exact ⟨rfl, closes_nil.mpr rfl⟩
      · rintro ⟨he, hc⟩
        cases inside with
        | nil => rw [(List.cons.inj he).2]; rfl
        | cons d inside =>
          obtain ⟨rfl, -⟩ := List.cons.inj he
          exact absurd hc (not_closes_zero_close inside)
    · obtain ⟨n, hn⟩ := exists_opened hz
      rw [readGroup_cons hn, cons_eq_ok]
      constructor
      · rintro ⟨more, rfl, h⟩
        obtain ⟨rfl, hc⟩ := ih.mp h
        exact ⟨rfl, (closes_cons hn more).mpr hc⟩
      · rintro ⟨he, hc⟩
        cases inside with
        | nil => exact absurd ⟨closes_nil.mp hc, (List.cons.inj he).1⟩ hz
        | cons d inside =>
          obtain ⟨rfl, rfl⟩ := List.cons.inj he
          exact ⟨inside, rfl, ih.mpr ⟨rfl, (closes_cons hn inside).mp hc⟩⟩

theorem readString_plain {c : Char} (hq : c ≠ '"') (hb : c ≠ '\\') (cs : List Char) :
    readString (c :: cs) = Piece.cons c (readString cs) := by
  rw [readString]
  all_goals simp_all

theorem readString_sound {cs piece rest : List Char} (h : readString cs = .ok (piece, rest)) :
    ∃ inside, piece = inside ++ ['"'] ∧ cs = inside ++ '"' :: rest ∧ unbroken inside = true := by
  fun_induction readString cs generalizing piece with
  | case1 => simp at h
  | case2 cs =>
    obtain ⟨rfl, rfl⟩ := Prod.mk.inj (Except.ok.inj h)
    exact ⟨[], rfl, rfl, rfl⟩
  | case3 => simp at h
  | case4 c cs ih =>
    simp only [cons_eq_ok] at h
    obtain ⟨_, rfl, more, rfl, hm⟩ := h
    obtain ⟨inside, rfl, rfl, hi⟩ := ih hm
    exact ⟨'\\' :: c :: inside, rfl, rfl, hi⟩
  | case5 c cs hq hl hb ih =>
    obtain ⟨more, rfl, hm⟩ := cons_eq_ok.mp h
    obtain ⟨inside, rfl, rfl, hi⟩ := ih hm
    have hc : c ≠ '\\' := by
      intro hc
      cases hs : inside ++ '"' :: rest with
      | nil => exact hl hc hs
      | cons d ds => exact hb d ds hc hs
    exact ⟨c :: inside, rfl, rfl, by simpa [unbroken, hc, hi] using hq⟩

theorem readString_complete {inside : List Char} (h : unbroken inside = true)
    (rest : List Char) : readString (inside ++ '"' :: rest) = .ok (inside ++ ['"'], rest) := by
  fun_induction unbroken inside with
  | case1 => rfl
  | case2 c cs ih =>
    rw [List.cons_append, List.cons_append, readString, ih h]
    rfl
  | case3 c cs _ ih =>
    simp only [Bool.and_eq_true, decide_eq_true_eq] at h
    rw [List.cons_append, readString_plain h.1.1 h.1.2, ih h.2]
    rfl

theorem isWordChar_iff {c : Char} : isWordChar c = true ↔ ¬EndsWord c := by
  simp [isWordChar, EndsWord]
  tauto

theorem readWord_sound {cs word rest : List Char} (h : readWord cs = (word, rest)) :
    cs = word ++ rest ∧ (∀ c ∈ word, ¬EndsWord c) ∧ ∀ d r, rest = d :: r → EndsWord d := by
  obtain ⟨rfl, rfl⟩ := Prod.mk.inj h
  refine ⟨List.takeWhile_append_dropWhile.symm, ?_, ?_⟩
  · intro c hc
    exact isWordChar_iff.mp (List.mem_takeWhile_imp hc)
  · intro d r hr
    have hd := List.head?_dropWhile_not isWordChar cs
    rw [hr] at hd
    by_contra hn
    simp [isWordChar_iff.mpr hn] at hd

theorem readWord_complete {word : List Char} (hw : ∀ c ∈ word, ¬EndsWord c) {d : Char}
    (hd : EndsWord d) (rest : List Char) : readWord (word ++ d :: rest) = (word, d :: rest) := by
  have hw' : ∀ c ∈ word, isWordChar c = true := fun c hc => isWordChar_iff.mpr (hw c hc)
  have hd' : ¬isWordChar d = true := fun h => isWordChar_iff.mp h hd
  rw [readWord, List.takeWhile_append_of_pos hw', List.dropWhile_append_of_pos hw',
    List.takeWhile_cons_of_neg hd', List.dropWhile_cons_of_neg hd', List.append_nil]

def Sound (levels : Nat) (read : List Char → Except Fault (Invocation × List Char)) : Prop :=
  ∀ cs i rest, read cs = .ok (i, rest) →
    ∃ text, cs = text ++ rest ∧ CallText i.name i.arguments text ∧ i.depth ≤ levels

def Complete (levels : Nat) (read : List Char → Except Fault (Invocation × List Char)) : Prop :=
  ∀ i text rest, CallText i.name i.arguments text → i.depth ≤ levels →
    read (text ++ rest) = .ok (i, rest)

section

variable {levels : Nat} {read : List Char → Except Fault (Invocation × List Char)}

theorem readArgument_word {c : Char} (hc : c ≠ '\x7b') (hp : c ≠ '(') (hq : c ≠ '"')
    (cs : List Char) : readArgument read (c :: cs) = .ok (literalOf (readWord (c :: cs))) := by
  rw [readArgument]
  all_goals simp_all

theorem readArgument_sound (hr : Sound levels read) {c : Char} {cs rest : List Char}
    {a : Argument} (hw : isWhiteSpace c = false) (hb : c ≠ '\x7d') (hne : rest ≠ [])
    (h : readArgument read (c :: cs) = .ok (a, rest)) :
    ∃ text, c :: cs = text ++ rest ∧ ArgumentText a text rest ∧ a.depth ≤ levels := by
  by_cases hc : c = '\x7b'
  · subst hc
    obtain ⟨⟨i, r⟩, hi, he⟩ := bind_eq_ok.mp h
    obtain ⟨rfl, rfl⟩ := Prod.mk.inj (Except.ok.inj he)
    obtain ⟨text, ht, hcall, hd⟩ := hr _ _ _ hi
    exact ⟨text, ht, .call hcall, hd⟩
  by_cases hp : c = '('
  · subst hp
    obtain ⟨⟨inside, r⟩, hg, he⟩ := map_eq_ok.mp h
    obtain ⟨rfl, rfl⟩ := Prod.mk.inj he
    obtain ⟨rfl, hbal⟩ := readGroup_eq_ok.mp hg
    exact ⟨'(' :: inside ++ [')'], by simp, .group hbal, Nat.zero_le _⟩
  by_cases hq : c = '"'
  · subst hq
    obtain ⟨⟨piece, r⟩, hs, he⟩ := map_eq_ok.mp h
    obtain ⟨rfl, rfl⟩ := Prod.mk.inj he
    obtain ⟨more, rfl, hm⟩ := cons_eq_ok.mp hs
    obtain ⟨inside, rfl, rfl, hu⟩ := readString_sound hm
    exact ⟨'"' :: inside ++ ['"'], by simp, .quoted hu, Nat.zero_le _⟩
  · rw [readArgument_word hc hp hq] at h
    generalize hword : readWord (c :: cs) = piece at h
    obtain ⟨word, r⟩ := piece
    obtain ⟨rfl, rfl⟩ := Prod.mk.inj (Except.ok.inj h)
    obtain ⟨he, hall, hend⟩ := readWord_sound hword
    obtain ⟨d, r, rfl⟩ := List.exists_cons_of_ne_nil hne
    have hd := hend d r rfl
    cases word with
    | nil =>
      -- Nothing that ends a word comes first, so a word is never empty.
      obtain ⟨rfl, -⟩ := List.cons.inj he
      exact absurd hd (by simp [EndsWord, hw, hc, hb])
    | cons x word =>
      obtain ⟨rfl, -⟩ := List.cons.inj he
      exact ⟨c :: word, he, .word hall hp hq hd, Nat.zero_le _⟩

theorem readArgument_complete (hr : Complete levels read) {a : Argument} {text after : List Char}
    (h : ArgumentText a text after) (hd : a.depth ≤ levels) :
    readArgument read (text ++ after) = .ok (a, after) := by
  cases h with
  | @call name arguments text after h =>
    obtain ⟨cs, rfl⟩ := h.head
    have hi := hr ⟨name, arguments⟩ _ after h hd
    rw [List.cons_append] at hi ⊢
    rw [readArgument, hi]
    rfl
  | @group inside after h =>
    have hg : readGroup 0 (inside ++ ')' :: after) = .ok (inside, after) :=
      readGroup_eq_ok.mpr ⟨rfl, closes_zero.mpr h⟩
    simp [readArgument, hg, Except.map, literalOf]
  | @quoted inside after h =>
    have hs := readString_complete h after
    simp [readArgument, hs, Except.map, Piece.cons, literalOf]
  | @word c d cs after hw hp hq hend =>
    have hc : c ≠ '\x7b' := fun hc => hw c (by simp) (.inr (.inl hc))
    rw [List.cons_append, readArgument_word hc hp hq, ← List.cons_append,
      readWord_complete hw hend]
    rfl

theorem readArguments_close {w : List Char} (hw : Blank w) (fuel : Nat) (rest : List Char) :
    readArguments read (fuel + 1) (w ++ '\x7d' :: rest) = .ok ([], rest) := by
  rw [readArguments, skipWhiteSpace_append hw, skipWhiteSpace_cons (by decide)]
  rfl

theorem readArguments_next {w : List Char} (hw : Blank w) {c : Char} (hc : isWhiteSpace c = false)
    (hb : c ≠ '\x7d') (fuel : Nat) (cs : List Char) :
    readArguments read (fuel + 1) (w ++ c :: cs) = (do
      let (a, rest) ← readArgument read (c :: cs)
      let (as, rest) ← readArguments read fuel rest
      return (a :: as, rest)) := by
  rw [readArguments, skipWhiteSpace_append hw, skipWhiteSpace_cons hc]
  split
  next h => simp at h
  next r h => exact absurd (List.cons.inj h).1 hb
  next d r _ h =>
    obtain ⟨rfl, rfl⟩ := List.cons.inj h
    rfl

theorem readArguments_sound (hr : Sound levels read) {fuel : Nat} {cs rest : List Char}
    {as : List Argument} (h : readArguments read fuel cs = .ok (as, rest)) :
    ∃ body, cs = body ++ '\x7d' :: rest ∧ BodyText as body ∧ Argument.depthAll as ≤ levels := by
  induction fuel generalizing cs as with
  | zero => simp [readArguments] at h
  | succ fuel ih =>
    obtain ⟨w, hw, hcs⟩ := exists_blank_skip cs
    rw [readArguments] at h
    split at h
    next => simp at h
    next r hs =>
      obtain ⟨rfl, rfl⟩ := Prod.mk.inj (Except.ok.inj h)
      exact ⟨w, by rw [← hs, ← hcs], .done hw, Nat.zero_le _⟩
    next c r hb hs =>
      obtain ⟨⟨a, after⟩, ha, h⟩ := bind_eq_ok.mp h
      obtain ⟨⟨as, r'⟩, has, h⟩ := bind_eq_ok.mp h
      obtain ⟨rfl, rfl⟩ := Prod.mk.inj (Except.ok.inj h)
      obtain ⟨body, rfl, hbody, hd⟩ := ih has
      obtain ⟨text, ht, harg, hda⟩ :=
        readArgument_sound hr (head_skipWhiteSpace hs) hb (by simp) ha
      refine ⟨w ++ text ++ body, ?_, .more hw ?_ hbody, Nat.max_le.mpr ⟨hda, hd⟩⟩
      · rw [hcs, hs, ht, List.append_assoc, List.append_assoc]
      · apply ArgumentText.restrict _ (by simp)
        · exact r'
        · simpa using harg

theorem readArguments_complete (hr : Complete levels read) {as : List Argument}
    {body : List Char} (hb : BodyText as body) (hd : Argument.depthAll as ≤ levels) {fuel : Nat}
    (hf : body.length < fuel) (rest : List Char) :
    readArguments read fuel (body ++ '\x7d' :: rest) = .ok (as, rest) := by
  induction as generalizing body fuel with
  | nil =>
    obtain ⟨fuel, rfl⟩ : ∃ n, fuel = n + 1 := ⟨fuel - 1, by omega⟩
    cases hb with
    | done hw => exact readArguments_close hw fuel rest
  | cons a as ih =>
    obtain ⟨fuel, rfl⟩ : ∃ n, fuel = n + 1 := ⟨fuel - 1, by omega⟩
    cases hb with
    | @more _ _ w text body hw ha hb =>
      obtain ⟨hda, hdas⟩ := Nat.max_le.mp hd
      obtain ⟨c, cs, rfl, hc, hne⟩ := ha.head
      have harg := readArgument_complete hr (ha.extend rest) hda
      have hlen : body.length < fuel := by
        simp only [List.length_append, List.length_cons] at hf
        omega
      rw [List.append_assoc, List.append_assoc, List.cons_append,
        readArguments_next hw hc hne]
      simp only [List.cons_append, List.append_assoc, List.nil_append] at harg
      rw [harg, ok_bind]
      simp only [ih hb hdas hlen, ok_bind]
      rfl

end

theorem nameText_of_trimmed {n : List Char} (hn : ∀ c ∈ n, ¬EndsName c) (ht : trimmed n ≠ []) :
    NameText (String.ofList (trimmed n)) n :=
  ⟨hn, by simp, by simpa using ht⟩

theorem readInvocation_bare {cs n rest : List Char} (hr : readName cs = .ok (n, '\x7d' :: rest))
    (ht : trimmed n ≠ []) (levels : Nat) :
    readInvocation (levels + 1) ('\x7b' :: cs) = .ok (⟨String.ofList (trimmed n), []⟩, rest) := by
  simp only [readInvocation, if_true, hr, ok_bind, if_neg ht]
  rfl

theorem readInvocation_applied {cs n rest : List Char} (hr : readName cs = .ok (n, ':' :: rest))
    (ht : trimmed n ≠ []) (levels : Nat) :
    readInvocation (levels + 1) ('\x7b' :: cs) = (do
      let (arguments, rest) ← readArguments (readInvocation levels) (rest.length + 1) rest
      return (⟨String.ofList (trimmed n), arguments⟩, rest)) := by
  simp only [readInvocation, if_true, hr, ok_bind, if_neg ht]

theorem readInvocation_sound (levels : Nat) : Sound levels (readInvocation levels) := by
  induction levels with
  | zero =>
    intro cs i rest h
    simp [readInvocation] at h
  | succ levels ih =>
    intro cs i rest h
    cases cs with
    | nil => simp [readInvocation] at h
    | cons c cs =>
      by_cases hc : c = '\x7b'
      · subst hc
        cases hname : readName cs with
        | error e => simp [readInvocation, hname] at h
        | ok piece =>
          obtain ⟨n, r⟩ := piece
          obtain ⟨rfl, hn, hr⟩ := readName_sound hname
          by_cases ht : trimmed n = []
          · simp [readInvocation, hname, ht] at h
          · have hN := nameText_of_trimmed hn ht
            obtain ⟨r, rfl | rfl⟩ := hr
            · rw [readInvocation_applied hname ht] at h
              obtain ⟨⟨as, r'⟩, has, h⟩ := bind_eq_ok.mp h
              obtain ⟨rfl, rfl⟩ := Prod.mk.inj (Except.ok.inj h)
              obtain ⟨body, rfl, hbody, hd⟩ := readArguments_sound ih has
              exact ⟨_, by simp, .applied hN hbody, Nat.succ_le_succ hd⟩
            · rw [readInvocation_bare hname ht] at h
              obtain ⟨rfl, rfl⟩ := Prod.mk.inj (Except.ok.inj h)
              exact ⟨_, by simp, .bare hN, Nat.succ_le_succ (Nat.zero_le _)⟩
      · simp [readInvocation, hc] at h

theorem readInvocation_complete (levels : Nat) : Complete levels (readInvocation levels) := by
  induction levels with
  | zero =>
    intro i text rest h hd
    simp [Invocation.depth] at hd
  | succ levels ih =>
    rintro ⟨name, arguments⟩ text rest h hd
    have hd' : Argument.depthAll arguments ≤ levels := Nat.le_of_succ_le_succ hd
    cases h with
    | @bare _ n hn =>
      have hname := readName_complete hn.plain (.inr rfl) rest
      have ht : trimmed n ≠ [] := by simpa [hn.trims] using hn.ne_empty
      rw [List.append_assoc, List.cons_append, List.singleton_append,
        readInvocation_bare hname ht, hn.trims, String.ofList_toList]
    | @applied _ _ n body hn hb =>
      have hname := readName_complete hn.plain (.inl rfl) (body ++ '\x7d' :: rest)
      have ht : trimmed n ≠ [] := by simpa [hn.trims] using hn.ne_empty
      have hf : body.length < (body ++ '\x7d' :: rest).length + 1 := by
        rw [List.length_append]
        omega
      have hargs := readArguments_complete ih hb hd' hf rest
      have he : '\x7b' :: n ++ ':' :: body ++ ['\x7d'] ++ rest =
          '\x7b' :: (n ++ ':' :: (body ++ '\x7d' :: rest)) := by simp
      rw [he, readInvocation_applied hname ht, hargs, ok_bind, hn.trims, String.ofList_toList]
      rfl

/-- A trimmed text is read if the whole of it stands for an invocation of not too many levels. -/
theorem readWhole_eq_ok {cs : List Char} {i : Invocation} :
    readWhole (trimmed cs) = .ok i ↔
      CallText i.name i.arguments (trimmed cs) ∧ i.depth ≤ Invocation.maxNesting := by
  rw [readWhole, bind_eq_ok]
  constructor
  · rintro ⟨⟨j, rest⟩, hj, h⟩
    obtain ⟨text, ht, hcall, hd⟩ := readInvocation_sound _ _ _ _ hj
    by_cases hs : skipWhiteSpace rest = []
    · obtain rfl : j = i := by simpa [hs, pure, Except.pure] using h
      have hrest : rest = [] := eq_nil_of_trimmed_append ht (skipWhiteSpace_eq_nil.mp hs)
      rw [ht, hrest, List.append_nil]
      exact ⟨hcall, hd⟩
    · simp [hs] at h
  · rintro ⟨h, hd⟩
    have hi := readInvocation_complete _ i (trimmed cs) [] h hd
    rw [List.append_nil] at hi
    exact ⟨(i, []), hi, rfl⟩

end Reader

theorem parse_eq_ok {text : String} {i : Invocation} :
    Invocation.parse text = .ok i ↔
      CallText i.name i.arguments (trim text).toList ∧ i.depth ≤ Invocation.maxNesting := by
  rw [toList_trim, ← Reader.readWhole_eq_ok, Invocation.parse]
  cases Reader.readWhole (trimmed text.toList) with
  | error fault => simp
  | ok j => simp

/-- A text is read as an invocation exactly if, without the white space around it, it stands for
that invocation in the grammar and the invocation has no more levels than allowed. Any other text
is refused as malformed. -/
theorem parse_iff_grammar (text : String) :
    (∀ i, Invocation.parse text = .ok i ↔
      CallText i.name i.arguments (trim text).toList ∧ i.depth ≤ Invocation.maxNesting) ∧
    ((∃ fault, Invocation.parse text = .error ⟨trim text, fault⟩) ↔
      ¬∃ i : Invocation, CallText i.name i.arguments (trim text).toList ∧
        i.depth ≤ Invocation.maxNesting) := by
  refine ⟨fun i => parse_eq_ok, ?_⟩
  constructor
  · rintro ⟨fault, hf⟩ ⟨i, hi⟩
    rw [parse_eq_ok.mpr hi] at hf
    cases hf
  · intro hnone
    rw [Invocation.parse]
    cases h : Reader.readWhole (trimmed text.toList) with
    | error fault => exact ⟨fault, rfl⟩
    | ok i =>
      rw [Reader.readWhole_eq_ok, ← toList_trim] at h
      exact absurd ⟨i, h⟩ hnone

end Phrasebook
