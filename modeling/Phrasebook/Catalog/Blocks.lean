import Phrasebook.Catalog.Expressions

/-! Commands that open a block, go on with another one in its place, or close it. -/
namespace Phrasebook.Catalog

open Script Text

variable {n : Nat}

def openBlock (header : String) : Script n Rendering := do
  return (Rendering.line header).close (← text .styleBlockStart) 1

def continueBlock (header : String) : Script n Rendering := do
  let left ← text .styleBlockContinueLeft
  let headed := ((Rendering.empty false).marker (-1)).pushText (left ++ header) 0
  return headed.close (← text .styleBlockStart) 1

def closeBlock : Script n Rendering := do
  let ending ← text .styleBlockEnd
  let outside := (Rendering.empty false).marker (-1)
  return if ending = "" then outside else outside.push ending 0

def conditionHeader (keyword condition : String) : Script n String :=
  phrase [pure keyword, text .conditionalStartLeft, pure condition, text .conditionalStartRight]

def ifStart : Script n Rendering := do
  openBlock (← conditionHeader (← text .conditionalIfKeyword) (← arg 0))

def elseIfStart : Script n Rendering := do
  continueBlock (← conditionHeader (← text .conditionalElseIfKeyword) (← arg 0))

def elseStart : Script n Rendering := do
  continueBlock (← text .conditionalElseKeyword)

def whileStart : Script n Rendering := do
  openBlock (← conditionHeader (← text .loopWhileKeyword) (← arg 0))

def tryStart : Script n Rendering := do
  openBlock (← text .exceptionTryKeyword)

def catchStart : Script n Rendering := do
  let start ← phrase [text .exceptionCatchKeyword, text .exceptionCatchLeft]
  let type ← do
    if ← flag .exceptionCatchTypes then phrase [arg 0, text .exceptionCatchMiddle] else pure ""
  let name ← phrase [arg 1, text .exceptionCatchRight]
  continueBlock (start ++ type ++ name)

def finallyStart : Script n Rendering := do
  continueBlock (← text .exceptionFinallyKeyword)

def classStart : Script n Rendering := do
  let start ← phrase [text .classDefineStart, arg 0]
  match ← arg? 1 with
  | some parent =>
    openBlock (← phrase
      [pure start, text .classExtendsLeft, pure parent, text .classExtendsRight])
  | none => openBlock start

def enumStart : Script n Rendering := do
  openBlock (← phrase [text .enumStartLeft, arg 0, text .enumStartRight])

def functionStart : Script 1 Rendering := do
  let type ← arg 1
  let explicit ← flag .functionExplicitReturnTypes
  let after ← flag .variableTypesAfterName
  let start ← text .functionDefineStart
  let before ← if explicit && !after then phrase [pure type, text .variableTypeRight] else pure ""
  let parameters ← phrase
    [arg 0, text .functionParametersLeft, parameterList 2, text .functionParametersRight]
  let behind ←
    if explicit && after then phrase [text .functionReturnTypeMiddle, pure type] else pure ""
  openBlock (start ++ before ++ parameters ++ behind)

end Phrasebook.Catalog
