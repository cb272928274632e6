import Phrasebook.Script

/-! Commands for lines that are neither expressions nor statements: blank lines, comments, members
of enumerations, imports. -/
namespace Phrasebook.Catalog

open Script Text

variable {n : Nat}

def blankLine : Script n Rendering :=
  return .line ""

def commentText (left : String) : List String → String
  | [] => trimEnd left
  | words => left ++ join " " words

def commentLine : Script n Rendering := do
  let left ← text .commentLineLeft
  return .line (commentText left (← args 0))

def commentBlock : Script n Rendering := do
  let left ← text .commentBlockLeft
  return .line (commentText left (← args 0))

def commentBlockStart : Script n Rendering := do
  return .line (← text .commentBlockStart)

def commentBlockEnd : Script n Rendering := do
  return .line (← text .commentBlockEnd)

def enumMember : Script n Rendering := do
  return .line (← phrase [arg 0, text .enumValueMiddle, arg 1, text .enumValueRight])

def importLine (package items : String) : Script n String := do
  if ← flag .importItemsBeforePackage then
    phrase [text .importLeft, pure items, text .importMiddle, pure package, text .importRight]
  else
    phrase [text .importLeft, pure package, text .importMiddle, pure items, text .importRight]

def importLines (package : String) : List String → Script n (List Line)
  | [] => return []
  | item :: items => do
    let line ← importLine package item
    return ⟨line, 0⟩ :: (← importLines package items)

def importItems : Script n Rendering := do
  let package ← arg 0
  let items ← args 1
  if ← flag .importExplicitLines then
    return ⟨← importLines package items, false⟩
  else
    return .line (← importLine package (join ", " items))

end Phrasebook.Catalog
