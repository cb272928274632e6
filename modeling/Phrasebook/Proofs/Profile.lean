import Phrasebook.BuiltIn
import Phrasebook.Proofs.Lines
import Phrasebook.Proofs.Script

/-! The static profile of the commands: the indentation that a signature declares is the one that
every rendering has, in every language. Commands fall into a few kinds, and both the signature and
the script of a command are of its kind. -/
namespace Phrasebook

open Catalog Rendering Script Text

inductive Kind where
  | line
  | lines
  | statement
  | opener
  | continuer
  | closer
deriving DecidableEq

def Command.kind : Command → Kind
  | .importItems => .lines
  | .dictionarySet | .functionCall | .listPush | .operation | .print | .returnValue
  | .throwException | .variableDeclaration => .statement
  | .classStart | .enumStart | .foreachPairStart | .foreachStart | .functionStart | .ifStart
  | .tryStart | .whileStart => .opener
  | .catchStart | .elseIfStart | .elseStart | .finallyStart => .continuer
  | .classEnd | .enumEnd | .foreachEnd | .functionEnd | .ifEnd | .tryEnd | .whileEnd => .closer
  | _ => .line

def Command.statements : List Command :=
  [.dictionarySet, .functionCall, .listPush, .operation, .print, .returnValue, .throwException,
   .variableDeclaration]

namespace Kind

def changes : Kind → List Int
  | .line | .lines | .statement => []
  | .opener => [1]
  | .continuer => [-1, 1]
  | .closer => [-1]

def Shape : Kind → Rendering → Prop
  | .line, r => ∃ text, r = .line text
  | .lines, r => ∃ texts, r = ⟨linesOf 0 texts, false⟩
  | .statement, r => ∃ text, r = .statement text
  | k, r => Phrasebook.changes r.lines = k.changes ∧ r.isStatement = false

theorem Shape.changes_eq {k : Kind} {r : Rendering} (h : k.Shape r) :
    Phrasebook.changes r.lines = k.changes := by
  cases k with
  | line =>
    obtain ⟨text, rfl⟩ := h
    rfl
  | lines =>
    obtain ⟨texts, rfl⟩ := h
    exact changes_linesOf_zero texts
  | statement =>
    obtain ⟨text, rfl⟩ := h
    rfl
  | opener | continuer | closer => exact h.1

theorem Shape.isStatement_iff {k : Kind} {r : Rendering} (h : k.Shape r) :
    r.isStatement = true ↔ k = .statement := by
  cases k with
  | line | lines | statement =>
    obtain ⟨_, rfl⟩ := h
    simp [Rendering.line, Rendering.single, Rendering.statement]
  | opener | continuer | closer => simp [h.2]

end Kind

namespace Command

theorem indentation_eq (c : Command) : c.signature.indentation = c.kind.changes := by
  cases c <;> rfl

theorem kind_statement_iff (c : Command) : c.kind = .statement ↔ c ∈ statements := by
  cases c <;> decide

theorem kind_of_indentation_nil {c : Command} (h : c.signature.indentation = [])
    (hc : c ≠ .importItems) : c.kind = .line ∨ c.kind = .statement := by
  cases c <;> simp_all [signature, kind]

end Command

section Scripts

variable {n : Nat} {given : List String}

@[simp] theorem openBlock_shape (header : String) :
    (openBlock header : Script n Rendering).Keeps .any given Kind.opener.Shape := by
  refine .last fun ender => ?_
  obtain ⟨us, hus, he⟩ := close_linesOf [] (List.cons_ne_nil header []) false ender 1
  have hline : (Rendering.line header).close ender 1 = ⟨linesOf 1 us, false⟩ := he
  rw [keeps_pure, hline]
  exact ⟨changes_linesOf hus (by decide), rfl⟩

@[simp] theorem continueBlock_shape (header : String) :
    (continueBlock header : Script n Rendering).Keeps .any given Kind.continuer.Shape := by
  refine .last fun left => .last fun ender => ?_
  -- The marker comes first and stays as it is; the ender goes to the lines after it.
  obtain ⟨us, hus, he⟩ :=
    close_linesOf [⟨"", -1⟩] (splitLines_ne_nil (left ++ header)) false ender 1
  have hheaded : (((Rendering.empty false).marker (-1)).pushText (left ++ header) 0).close ender 1 =
      ⟨[⟨"", -1⟩] ++ linesOf 1 us, false⟩ := he
  rw [keeps_pure, hheaded]
  refine ⟨?_, rfl⟩
  rw [changes_append, changes_linesOf hus (by decide)]
  rfl

@[simp] theorem closeBlock_shape :
    (closeBlock : Script n Rendering).Keeps .any given Kind.closer.Shape := by
  refine .last fun ending => ?_
  rw [keeps_pure]
  by_cases h : ending = ""
  · simp only [h, if_true]
    exact ⟨rfl, rfl⟩
  · simp only [h, if_false]
    exact ⟨rfl, rfl⟩

@[simp] theorem line_shape (text : String) : Kind.line.Shape (.line text) :=
  ⟨text, rfl⟩

@[simp] theorem statement_shape (text : String) : Kind.statement.Shape (.statement text) :=
  ⟨text, rfl⟩

@[simp] theorem single_shape (text : String) : Kind.opener.Shape (.single text 1) :=
  ⟨rfl, rfl⟩

/-- Lines of its own after the opening of a block leave it an opener. -/
theorem foldl_push_shape {r : Rendering} (h : Kind.opener.Shape r) (lines : List String) :
    Kind.opener.Shape (lines.foldl (fun r line => r.push line 0) r) := by
  rw [foldl_push]
  refine ⟨?_, h.2⟩
  rw [changes_append, changes_linesOf_zero, List.append_nil]
  exact h.1

theorem foreachPairStart_shape : foreachPairStart.Keeps .any given Kind.opener.Shape := by
  refine .last fun container => .last fun pairName => .last fun keyName => ?_
  refine .last fun keyType => .last fun valueName => .last fun valueType => ?_
  refine .last fun asMethod => keeps_ite.mpr ⟨fun _ => ?_, fun _ => ?_⟩
  · exact .last fun text => single_shape text
  · refine .last fun declared => .last fun asPair => .last fun asKeys => .last fun binding => ?_
    refine .last fun range => .last fun keyword => .last fun header => keeps_bind.mpr ?_
    refine (openBlock_shape header).mono fun opened ho => ?_
    exact .last fun lines => foldl_push_shape ho lines

theorem importLines_flat (package : String) (items : List String) :
    (importLines package items : Script n (List Line)).Keeps .any given
      fun ls => ∃ texts, ls = linesOf 0 texts := by
  induction items with
  | nil => exact ⟨[], rfl⟩
  | cons item items ih =>
    refine .last fun text => keeps_bind.mpr (ih.mono fun ls hls => ?_)
    obtain ⟨texts, rfl⟩ := hls
    exact ⟨text :: texts, by simp [linesOf_zero]⟩

theorem importItems_shape :
    (importItems : Script n Rendering).Keeps .any given Kind.lines.Shape := by
  refine .last fun package => .last fun items => ?_
  refine .last fun explicitly => keeps_ite.mpr ⟨fun _ => ?_, fun _ => ?_⟩
  · refine keeps_bind.mpr ((importLines_flat package items).mono fun ls hls => ?_)
    obtain ⟨texts, rfl⟩ := hls
    exact ⟨texts, rfl⟩
  · exact .last fun text => ⟨[text], rfl⟩

end Scripts

/-- Every way through the script of a command ends in a rendering of the command's kind. -/
theorem script_shape (c : Command) (given : List String) :
    (script c).Keeps .any given c.kind.Shape := by
  cases c <;> dsimp only [script, Command.rank, Command.kind]
  case classEnd | enumEnd | foreachEnd | functionEnd | ifEnd | tryEnd | whileEnd =>
    exact closeBlock_shape
  case foreachPairStart => exact foreachPairStart_shape
  case importItems => exact importItems_shape
  case boolean =>
    cases h : Vocabulary.truthKeyword? (given[0]?.getD "") <;> simp [boolean, h]
  case memberVariable =>
    cases h : Vocabulary.privacyMark? (given[0]?.getD "") <;> simp [memberVariable, h]
  case classStart => cases h : given[1]? <;> simp [classStart, h]
  case returnValue => cases h : given[0]? <;> simp [returnValue, h]
  case variableDeclaration => cases h : given[2]? <;> simp [variableDeclaration, h]
  -- All others come to a line, a statement or a block by steps that do not matter here.
  case enumStart | foreachStart | functionStart | ifStart | tryStart | whileStart =>
    simp [enumStart, foreachStart, functionStart, ifStart, tryStart, whileStart]
  case catchStart | elseIfStart | elseStart | finallyStart =>
    simp [catchStart, elseIfStart, elseStart, finallyStart]
  case dictionarySet | functionCall | listPush | operation | print | throwException =>
    simp [dictionarySet, functionCall, listPush, operation, Catalog.print, throwException]
  case blankLine | commentBlock | commentBlockEnd | commentBlockStart | commentLine | enumMember =>
    simp [blankLine, commentBlock, commentBlockEnd, commentBlockStart, commentLine, enumMember]
  all_goals
    simp [arrayInitialize, arrayType, Catalog.cast, concatenate, dictionaryIndex, dictionaryNew,
      genericType, isNotNull, isNull, Catalog.lambda, listLength, listNew, newInstance,
      Catalog.negation, null, numberToString, packagePath, stringLength, thisInstance,
      variableInline]

theorem run_shape {l : Language} {c : Command} {given : List String} {r : Rendering}
    (h : c.run l given = .ok r) : c.kind.Shape r := by
  obtain ⟨-, help, he⟩ := Command.eval_of_run h
  exact (script_shape c given).result he

/-- Whatever the language and the arguments, a rendering of a command changes the level exactly as
the signature says; it is a statement for eight commands only; and if there is no change of level it
is one line, or for imports some lines. -/
theorem run_profile {l : Language} {c : Command} {given : List String} {r : Rendering}
    (h : c.run l given = .ok r) :
    changes r.lines = c.signature.indentation ∧ r.net = c.signature.net ∧
      (r.isStatement = true ↔ c ∈ Command.statements) ∧
      (c.signature.indentation = [] → c ≠ .importItems → ∃ text, r.lines = [⟨text, 0⟩]) ∧
      (c = .importItems → ∀ line ∈ r.lines, line.delta = 0) := by
  have hr := run_shape h
  have hchanges : changes r.lines = c.signature.indentation := by
    rw [hr.changes_eq, c.indentation_eq]
  refine ⟨hchanges, ?_, ?_, ?_, ?_⟩
  · rw [Rendering.net, Signature.net, ← hchanges, total_changes]
  · rw [hr.isStatement_iff, c.kind_statement_iff]
  · intro hi hc
    rcases Command.kind_of_indentation_nil hi hc with hk | hk
    · rw [hk] at hr
      obtain ⟨text, rfl⟩ := hr
      exact ⟨text, rfl⟩
    · rw [hk] at hr
      obtain ⟨text, rfl⟩ := hr
      exact ⟨text, rfl⟩
  · rintro rfl line hline
    obtain ⟨texts, rfl⟩ := hr
    rw [linesOf_zero] at hline
    obtain ⟨text, -, rfl⟩ := List.mem_map.mp hline
    rfl

theorem run_profile_csharp :
    (∃ r, Command.foreachPairStart.run BuiltIn.csharp.language
        ["ages", "pair", "name", "string", "age", "int"] = .ok r ∧
      r.lines.length = 4 ∧ changes r.lines = [1]) ∧
    (∃ r, Command.importItems.run BuiltIn.csharp.language ["System", "IO", "Text"] = .ok r ∧
      r.lines.length = 2 ∧ ∀ line ∈ r.lines, line.delta = 0) := by
  have hloop : Command.foreachPairStart.run BuiltIn.csharp.language
      ["ages", "pair", "name", "string", "age", "int"] =
      .ok ⟨[⟨"foreach (KeyValuePair<string, int> pair in ages)", 0⟩, ⟨"\x7b", 1⟩,
        ⟨"string name = pair.Key;", 0⟩, ⟨"int age = pair.Value;", 0⟩], false⟩ := rfl
  have himport : Command.importItems.run BuiltIn.csharp.language ["System", "IO", "Text"] =
      .ok ⟨[⟨"using System.IO;", 0⟩, ⟨"using System.Text;", 0⟩], false⟩ := rfl
  exact ⟨⟨_, hloop, rfl, (run_profile hloop).1⟩,
    ⟨_, himport, rfl, (run_profile himport).2.2.2.2 rfl⟩⟩

end Phrasebook
