import Phrasebook.Catalog.Expressions

/-! Commands whose one line is a statement. -/
namespace Phrasebook.Catalog

open Script Text

variable {n : Nat}

def print : Script n Rendering := do
  return .statement (← phrase [text .outputPrintLeft, arg 0, text .outputPrintRight])

def functionCall : Script n Rendering := do
  return .statement (← phrase
    [arg 0, text .functionCallLeft, listed 1, text .functionCallRight])

def listPush : Script n Rendering := do
  return .statement (← phrase [arg 0, text .listPushLeft, arg 1, text .listPushRight])

def returnValue : Script n Rendering := do
  let keyword ← text .functionReturnKeyword
  match ← arg? 0 with
  | some value => return .statement (keyword ++ " " ++ value)
  | none => return .statement keyword

def throwException : Script n Rendering := do
  return .statement (← phrase
    [text .exceptionThrowLeft, arg 0, text .exceptionThrowMiddle, arg 1,
     text .exceptionThrowRight])

def operatorText (name : String) : Script n String := do
  match ← spelled name with
  | some operator => return operator
  | none => .refuse .operators name

/-- The text so far, then each operator with the value it applies, from left to right. An operator
without a value is passed over. -/
def operate (left : String) : List (String × Option String) → Script n String
  | [] => return left
  | (name, some right) :: rest => do
    let operator ← operatorText name
    operate (left ++ operator ++ right) rest
  | (_, none) :: rest => operate left rest

def operation : Script n Rendering := do
  return .statement (← operate (← arg 0) (← argPairs 1))

def dictionarySet : Script 1 Rendering := do
  let entry ← take .dictionaryIndex [← arg 0, ← arg 1]
  return .statement (← phrase [pure entry, text (.operator .equals), arg 2])

def variableDeclaration : Script 1 Rendering := do
  let declared ← do
    if ← flag .variableDeclarationRequired then
      let declaration ← text .variableDeclaration
      let typed ← typedName (← arg 0) (← arg 1)
      pure (declaration ++ typed)
    else
      arg 0
  match ← arg? 2 with
  | some value => return .statement (declared ++ (← text (.operator .equals)) ++ value)
  | none => return .statement declared

end Phrasebook.Catalog
