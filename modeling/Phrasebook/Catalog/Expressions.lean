import Phrasebook.Script

/-! Commands whose one line stands in an expression or a type. -/
namespace Phrasebook.Catalog

open Script Text

variable {n : Nat}

def listed (start : Nat) : Script n String := do
  return join ", " (← args start)

def boolean : Script n Rendering := do
  let word ← arg 0
  match Vocabulary.truthKeyword? word with
  | some keyword => return .line (← text keyword)
  | none => .refuse .truth word

def concatenate : Script n Rendering := do
  let separator ← text .stringConcatenate
  return .line (join separator ((← arg 0) :: (← args 1)))

def negation : Script n Rendering := do
  return .line (← phrase [text (.operator .negation), arg 0])

def numberToString : Script n Rendering := do
  return .line (← phrase [text .numberToStringLeft, arg 0, text .numberToStringRight])

def stringLength : Script n Rendering := do
  return .line (← phrase [text .stringLengthLeft, arg 0, text .stringLengthRight])

def listLength : Script n Rendering := do
  return .line (← phrase [text .listLengthLeft, arg 0, text .listLengthRight])

def dictionaryIndex : Script n Rendering := do
  return .line (← phrase [arg 0, text .dictionaryIndexLeft, arg 1, text .dictionaryIndexRight])

def null : Script n Rendering := do
  return .line (← text .variableNullKeyword)

def isNull : Script n Rendering := do
  return .line (← phrase
    [text .variableIsNullLeft, arg 0, text .variableIsNullMiddle, text .variableNullRight])

def isNotNull : Script n Rendering := do
  return .line (← phrase
    [text .variableIsNotNullLeft, arg 0, text .variableIsNotNullMiddle, text .variableNullRight])

def thisInstance : Script n Rendering := do
  return .line (← text .classThisKeyword)

def cast : Script n Rendering := do
  let value ← arg 1
  if ← flag .variableCastsRequired then
    return .line (← phrase [text .variableCastLeft, arg 0, text .variableCastRight, pure value])
  else
    return .line value

def variableInline : Script n Rendering := do
  let name ← arg 0
  let type ← arg 1
  if ← flag .variableExplicitTypes then
    if ← flag .variableTypesAfterName then
      return .line (← phrase [pure name, text .variableTypeLeft, pure type])
    else
      return .line (← phrase [pure type, text .variableTypeRight, pure name])
  else
    return .line name

def arrayType : Script n Rendering := do
  return .line (← phrase [text .arrayTypeLeft, arg 0, text .arrayTypeRight])

def genericType : Script n Rendering := do
  let name ← arg 0
  if ← flag .genericUsed then
    let left ← text .genericLeft
    let middle ← text .genericMiddle
    let types := join middle (← args 1)
    let right ← text .genericRight
    return .line (name ++ left ++ types ++ right)
  else
    return .line name

def memberVariable : Script n Rendering := do
  let word ← arg 0
  match Vocabulary.privacyMark? word with
  | some privacy => do
    let mark ← text privacy
    let access ← text .memberVariableAccess
    let name ← arg 2
    if ← flag .memberVariableInstanceImplicit then
      return .line (access ++ mark ++ name)
    else
      return .line ((← arg 1) ++ access ++ mark ++ name)
  | none => .refuse .privacy word

def newInstance : Script n Rendering := do
  return .line (← phrase
    [text .classNewStart, arg 0, text .classNewMiddle, listed 1, text .classNewEnd])

def packagePath : Script n Rendering := do
  let style ← style
  return .line (style.convert (← args 0))

def construct (className : String) : Script n String :=
  phrase [text .classNewStart, pure className, text .classNewMiddle, text .classNewEnd]

def arrayInitialize : Script 1 Rendering := do
  let items := phrase [text .arrayInitializeLeft, listed 1, text .arrayInitializeRight]
  if ← flag .arrayInitializeTyped then
    let start ← text .classNewStart
    let type ← take .arrayType [← arg 0]
    return .line (start ++ type ++ (← items))
  else
    return .line (← items)

def dictionaryNew : Script 1 Rendering := do
  if ← flag .dictionaryTypedInitialization then
    let className ← text .dictionaryClassName
    return .line (← construct (← take .genericType [className, ← arg 0, ← arg 1]))
  else
    return .line (← text .dictionaryEmpty)

def listNew : Script 1 Rendering := do
  if ← flag .listTypedInitialization then
    let className ← text .listClassName
    return .line (← construct (← take .genericType [className, ← arg 0]))
  else
    return .line (← text .listEmpty)

def typedName (name type : String) : Script 1 String :=
  take .variableInline [name, type]

/-- Each pair as a typed name. A name without a type is given to the command as it is, which then
finds an argument too few. -/
def typedNames : List (String × Option String) → Script 1 (List String)
  | [] => return []
  | (name, type) :: rest => do
    let typed ← take .variableInline (name :: type.toList)
    return typed :: (← typedNames rest)

def parameterList (start : Nat) : Script 1 String := do
  return join ", " (← typedNames (← argPairs start))

def lambda : Script 1 Rendering := do
  let parameters ← phrase
    [text .lambdaParametersLeft, parameterList 2, text .lambdaParametersRight]
  let explicit ← flag .functionExplicitReturnTypes
  let stated ← if explicit then flag .variableTypesAfterName else pure false
  let type ← if stated then phrase [text .functionReturnTypeMiddle, arg 0] else pure ""
  let body ← phrase [text .lambdaBodyLeft, arg 1, text .lambdaBodyRight]
  return .line (parameters ++ type ++ body)

end Phrasebook.Catalog
