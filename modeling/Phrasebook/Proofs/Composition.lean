import Phrasebook.Proofs.Balance

/-! Units one after another. A unit that is laid out below another one comes out as it does on its
own, deeper by the level at which the other one ends. -/
namespace Phrasebook

open Text

def netOf (us : List Invocation) : Int :=
  total ((commandsOf us).map (·.signature.net))

theorem total_declared (us : List Invocation) : total (declared us) = netOf us := by
  rw [declared, netOf]
  induction commandsOf us with
  | nil => rfl
  | cons c cs ih =>
    rw [List.flatMap_cons, total_append, ih, List.map_cons, total_cons]
    rfl

theorem netOf_append (us vs : List Invocation) : netOf (us ++ vs) = netOf us + netOf vs := by
  rw [netOf, commandsOf, List.filterMap_append, List.map_append, total_append]
  rfl

section Lines

variable (unit : String)

theorem indented_eq_empty (level : Int) {text : String} :
    indented unit level text = "" ↔ text = "" := by
  by_cases h : text = ""
  · simp [indented, h]
  · simp [indented, h]

/-- What is indented twice is indented by the sum. -/
theorem indented_indented {a b : Int} (ha : 0 ≤ a) (hb : 0 ≤ b) (text : String) :
    indented unit a (indented unit b text) = indented unit (a + b) text := by
  by_cases h : text = ""
  · simp [indented, h]
  · have hinner : indented unit b text = repeated unit b.toNat ++ text := if_neg h
    have hne : indented unit b text ≠ "" := by
      rwa [Ne, indented_eq_empty]
    have hsum : (a + b).toNat = a.toNat + b.toNat := Int.toNat_add ha hb
    rw [indented, if_neg hne, hinner, indented, if_neg h, hsum, repeated_add, String.append_assoc]

end Lines

namespace Page

def below (unit : String) (top page : Page) : Page :=
  ⟨top.lines ++ page.lines.map (indented unit top.level), top.level + page.level⟩

structure Below (unit : String) (top page whole : Page) : Prop where
  level : 0 ≤ page.level
  whole : whole = top.below unit page

variable {unit : String} {top page whole : Page}

theorem below_start (unit : String) (top : Page) : Below unit top start top := by
  refine ⟨Int.le_refl 0, ?_⟩
  simp [below, start]

/-- Below another page a line is written as on a page of its own, but deeper. -/
theorem Below.place (htop : 0 ≤ top.level) (h : Below unit top page whole) {l : Line} {next : Page}
    (hplace : page.place unit l = .ok next) :
    ∃ whole', whole.place unit l = .ok whole' ∧ Below unit top next whole' := by
  obtain ⟨hpage, rfl⟩ := h
  rw [Page.place] at hplace
  split at hplace
  · cases hplace
  · next hlevel =>
    obtain rfl := Except.ok.inj hplace
    have hwhole : ¬(top.below unit page).level + l.delta < 0 := by
      simp only [below]
      omega
    refine ⟨_, by rw [Page.place, if_neg hwhole], ?_, ?_⟩
    · simp only
      omega
    · by_cases hm : l.isMarker = true
      · simp [below, hm, Int.add_assoc]
      · simp [below, hm, Int.add_assoc, indented_indented unit htop hpage]

theorem Below.places (htop : 0 ≤ top.level) (h : Below unit top page whole) {ls : List Line}
    {next : Page} (hrun : ls.foldlM (Page.place unit) page = .ok next) :
    ∃ whole', ls.foldlM (Page.place unit) whole = .ok whole' ∧ Below unit top next whole' :=
  foldlM_simulates (fun hbelow hplace => hbelow.place htop hplace) h hrun

theorem add_eq_ok {l : Language} {i : Invocation} {next : Page} :
    Page.add l unit page i = .ok next ↔ ∃ r, i.render l = .ok r ∧
      ∃ ending, terminator l i r = .ok ending ∧
        (terminate ending r.lines).foldlM (Page.place unit) page = .ok next := by
  simp only [Page.add, bind_eq_ok]

theorem Below.add (htop : 0 ≤ top.level) (h : Below unit top page whole) {l : Language}
    {i : Invocation} {next : Page} (hadd : Page.add l unit page i = .ok next) :
    ∃ whole', Page.add l unit whole i = .ok whole' ∧ Below unit top next whole' := by
  obtain ⟨r, hr, ending, he, hrun⟩ := add_eq_ok.mp hadd
  obtain ⟨whole', hwhole, hnext⟩ := h.places htop hrun
  exact ⟨whole', add_eq_ok.mpr ⟨r, hr, ending, he, hwhole⟩, hnext⟩

theorem Below.adds (htop : 0 ≤ top.level) (h : Below unit top page whole) {l : Language}
    {us : List Invocation} {next : Page} (hrun : us.foldlM (Page.add l unit) page = .ok next) :
    ∃ whole', us.foldlM (Page.add l unit) whole = .ok whole' ∧ Below unit top next whole' :=
  foldlM_simulates (fun hbelow hadd => hbelow.add htop hadd) h hrun

end Page

section Units

variable {l : Language} {unit : String} {us vs : List Invocation}

theorem Page.level_add {page next : Page} {i : Invocation} (hpage : 0 ≤ page.level)
    (h : Page.add l unit page i = .ok next) :
    0 ≤ next.level ∧ next.level = page.level + netOf [i] := by
  obtain ⟨r, hr, ending, he, -⟩ := Page.add_eq_ok.mp h
  have hfollows := follows_add hr he unit hpage
  rw [h] at hfollows
  have hlevel := levelAfter?_eq_some hpage hfollows.level_eq
  rwa [total_declared] at hlevel

/-- After a unit a page stands at the level that the commands of the unit come to. -/
theorem Page.level_adds {page next : Page} (hpage : 0 ≤ page.level)
    (h : us.foldlM (Page.add l unit) page = .ok next) :
    0 ≤ next.level ∧ next.level = page.level + netOf us := by
  induction us generalizing page with
  | nil =>
    obtain rfl := Except.ok.inj h
    exact ⟨hpage, (Int.add_zero _).symm⟩
  | cons i us ih =>
    rw [List.foldlM_cons] at h
    obtain ⟨page₁, hi, hrest⟩ := bind_eq_ok.mp h
    obtain ⟨hpage₁, hlevel₁⟩ := Page.level_add hpage hi
    obtain ⟨hnext, hlevel⟩ := ih hpage₁ hrest
    have hnet : netOf (i :: us) = netOf [i] + netOf us := netOf_append [i] us
    exact ⟨hnext, by omega⟩

theorem indentation_of_renderUnit {lines : List String} (h : renderUnit l us = .ok lines) :
    ∃ unit, l.fragment .generalIndentation = some unit := by
  cases hunit : l.fragment .generalIndentation with
  | none =>
    rw [renderUnit, hunit] at h
    cases h
  | some unit => exact ⟨unit, rfl⟩

/-- What fails in a unit fails alike in every unit that goes on after it. -/
theorem renderUnit_append_error {e : RenderError} (h : renderUnit l us = .error e) :
    renderUnit l (us ++ vs) = .error e := by
  cases hunit : l.fragment .generalIndentation with
  | none =>
    rw [renderUnit, hunit] at h ⊢
    exact h
  | some unit =>
    rw [renderUnit_eq hunit] at h ⊢
    rw [List.foldlM_append]
    cases hrun : us.foldlM (Page.add l unit) Page.start with
    | error e' =>
      rw [hrun] at h
      exact h
    | ok page =>
      rw [hrun] at h
      cases h

/-- What is written after a unit is what is written without it, at the level the unit leaves. -/
theorem renderUnit_append_ok (hunit : l.fragment .generalIndentation = some unit)
    {above below : List String} (hus : renderUnit l us = .ok above)
    (hvs : renderUnit l vs = .ok below) :
    0 ≤ netOf us ∧
      renderUnit l (us ++ vs) = .ok (above ++ below.map (indented unit (netOf us))) := by
  rw [renderUnit_eq hunit, map_eq_ok] at hus hvs
  obtain ⟨top, htop, rfl⟩ := hus
  obtain ⟨page, hpage, rfl⟩ := hvs
  obtain ⟨hnonneg, hlevel⟩ := Page.level_adds (Int.le_refl 0) htop
  have hnet : top.level = netOf us := by
    rw [hlevel]
    exact Int.zero_add _
  obtain ⟨whole, hwhole, hbelow⟩ := (Page.below_start unit top).adds hnonneg hpage
  have hlines : whole.lines = top.lines ++ page.lines.map (indented unit (netOf us)) := by
    rw [hbelow.whole, Page.below, hnet]
  refine ⟨hnet ▸ hnonneg, ?_⟩
  rw [renderUnit_eq hunit, List.foldlM_append, htop, ok_bind, hwhole, ← hlines]
  rfl

end Units

/-- A unit that fails does so whatever comes after it. Of two units that are written, the second one
is written below the first one with the indentation before each line that is not blank, once for
each block that the first one leaves open. Inside one more block it is one unit deeper. -/
theorem renderUnit_append (l : Language) (us vs : List Invocation) :
    (∀ e, renderUnit l us = .error e → renderUnit l (us ++ vs) = .error e) ∧
    ∀ above below, renderUnit l us = .ok above → renderUnit l vs = .ok below →
      ∃ unit, l.fragment .generalIndentation = some unit ∧ 0 ≤ netOf us ∧
        renderUnit l (us ++ vs) = .ok (above ++ below.map (indented unit (netOf us))) ∧
        ∀ o opened, netOf [o] = 1 → renderUnit l (us ++ [o]) = .ok opened →
          renderUnit l (us ++ [o] ++ vs) =
            .ok (opened ++ (below.map (indented unit (netOf us))).map (indented unit 1)) := by
  refine ⟨fun e he => renderUnit_append_error he, fun above below hus hvs => ?_⟩
  obtain ⟨unit, hunit⟩ := indentation_of_renderUnit hus
  obtain ⟨hnet, happend⟩ := renderUnit_append_ok hunit hus hvs
  refine ⟨unit, hunit, hnet, happend, fun o opened ho hopened => ?_⟩
  have hinside := (renderUnit_append_ok hunit hopened hvs).2
  have hdepth : netOf (us ++ [o]) = 1 + netOf us := by
    rw [netOf_append, ho, Int.add_comm]
  have htwice : (indented unit 1) ∘ (indented unit (netOf us)) = indented unit (1 + netOf us) :=
    funext fun line => indented_indented unit (by decide) hnet line
  rw [hinside, hdepth, List.map_map, htwice]

/-- A statement, a blank line and an opened loop: at the top, in a branch, in a branch of a branch,
and after an end that ends nothing. -/
theorem renderUnit_append_branch :
    let l := BuiltIn.csharp.language
    let branch : Invocation := ⟨"if start", [.literal "x"]⟩
    let vs : List Invocation :=
      [⟨"print", [.literal "y"]⟩, ⟨"blank line", []⟩, ⟨"while start", [.literal "z"]⟩]
    renderUnit l vs = .ok ["System.Console.WriteLine(y);", "", "while (z)", "\x7b"] ∧
    renderUnit l ([branch] ++ vs) = .ok (["if (x)", "\x7b"] ++
      ["    System.Console.WriteLine(y);", "", "    while (z)", "    \x7b"]) ∧
    renderUnit l ([branch] ++ [branch] ++ vs) = .ok (["if (x)", "\x7b", "    if (x)", "    \x7b"] ++
      ["        System.Console.WriteLine(y);", "", "        while (z)", "        \x7b"]) ∧
    renderUnit l ([⟨"if end", []⟩] ++ vs) = .error (.unbalanced 0) := by
  intro l branch vs
  have hbranch : renderUnit l [branch] = .ok ["if (x)", "\x7b"] := by
    dsimp only [l, branch]
    rfl
  have hbranches : renderUnit l ([branch] ++ [branch]) =
      .ok ["if (x)", "\x7b", "    if (x)", "    \x7b"] := by
    dsimp only [l, branch]
    rfl
  have hvs : renderUnit l vs = .ok ["System.Console.WriteLine(y);", "", "while (z)", "\x7b"] := by
    dsimp only [l, vs]
    rfl
  have hend : renderUnit l [⟨"if end", []⟩] = .error (.unbalanced 0) := by
    dsimp only [l]
    rfl
  have hnet : netOf [branch] = 1 := by
    dsimp only [branch]
    rfl
  obtain ⟨unit, hunit, -, happend, hinside⟩ := (renderUnit_append l [branch] vs).2 _ _ hbranch hvs
  obtain rfl : "    " = unit := Option.some.inj hunit
  rw [hnet] at happend hinside
  refine ⟨hvs, happend.trans rfl, (hinside branch _ hnet hbranches).trans rfl, ?_⟩
  exact (renderUnit_append l [⟨"if end", []⟩] vs).1 _ hend

end Phrasebook
