import Phrasebook.Text.Lines
import Phrasebook.Text.LetterCase

/-! Case styles: how a sequence of words becomes one identifier. -/
namespace Phrasebook

open Text

inductive WordForm where
  | keep
  | lower
  | upper
  | capital
  | camel
deriving DecidableEq, Repr

def WordForm.apply : WordForm → Nat → String → String
  | .keep, _, word => word
  | .lower, _, word => lowercase word
  | .upper, _, word => uppercase word
  | .capital, _, word => capitalize word
  | .camel, 0, word => lowercase word
  | .camel, _ + 1, word => capitalize word

inductive Finish where
  | keep
  | relativePath
deriving DecidableEq, Repr

def Finish.apply : Finish → String → String
  | .keep, joined => joined
  | .relativePath, joined => "./" ++ joined

structure Convention where
  form : WordForm := .keep
  separator : String := ""
  finish : Finish := .keep
deriving DecidableEq, Repr

namespace Convention

def formed (k : Convention) (i : Nat) : List String → List String
  | [] => []
  | word :: words => k.form.apply i word :: k.formed (i + 1) words

/-- One identifier out of the words; no words give the empty text, unfinished. -/
def convert (k : Convention) : List String → String
  | [] => ""
  | word :: words => k.finish.apply (join k.separator (k.formed 0 (word :: words)))

end Convention

inductive CaseStyle where
  | none
  | camel
  | pascal
  | snake
  | upperSnake
  | kebab
  | packageLower
  | packageUpper
  | fileSystemLower
  | fileSystemUpper
deriving DecidableEq, Repr

namespace CaseStyle

def all : List CaseStyle :=
  [.none, .camel, .pascal, .snake, .upperSnake, .kebab, .packageLower, .packageUpper,
   .fileSystemLower, .fileSystemUpper]

theorem mem_all (style : CaseStyle) : style ∈ all := by
  cases style <;> simp [all]

def name : CaseStyle → String
  | .none => "none"
  | .camel => "camel"
  | .pascal => "pascal"
  | .snake => "snake"
  | .upperSnake => "upper-snake"
  | .kebab => "kebab"
  | .packageLower => "package-lower"
  | .packageUpper => "package-upper"
  | .fileSystemLower => "file-system-lower"
  | .fileSystemUpper => "file-system-upper"

def convention : CaseStyle → Convention
  | .none => { }
  | .camel => { form := .camel }
  | .pascal => { form := .capital }
  | .snake => { form := .lower, separator := "_" }
  | .upperSnake => { form := .upper, separator := "_" }
  | .kebab => { form := .lower, separator := "-" }
  | .packageLower => { form := .lower, separator := "." }
  | .packageUpper => { form := .capital, separator := "." }
  | .fileSystemLower => { form := .lower, separator := "/", finish := .relativePath }
  | .fileSystemUpper => { form := .capital, separator := "/", finish := .relativePath }

def convert (style : CaseStyle) (words : List String) : String :=
  style.convention.convert words

def ofName? (name : String) : Option CaseStyle :=
  all.find? (·.name = name)

def ofText? (text : String) : Option CaseStyle :=
  ofName? (String.ofList ((lowercase text).toList.map fun c => if c = '_' then '-' else c))

def unknownMessage (text : String) : String :=
  "unknown case style '" ++ text ++ "'"

end CaseStyle

end Phrasebook
