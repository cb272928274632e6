import Phrasebook.Catalog.Blocks

/-! Loops over the values or the pairs of a container. Four policies decide their shape: whether
the loop is a method of the container, whether variables are declared, whether a pair is one
object, and whether pairs are reached through their keys. -/
namespace Phrasebook.Catalog

open Script Text

def foreachStart : Script 1 Rendering := do
  let container ← arg 0
  let value ← arg 1
  let type ← arg 2
  if ← flag .loopForeachAsMethod then
    return .single (← phrase
      [pure container, text .loopForeachGetValues, pure value, text .loopForeachRight]) 1
  else
    let binding ← do
      if ← flag .variableDeclarationRequired then
        let declaration ← text .variableDeclaration
        let typed ← typedName value type
        pure (declaration ++ typed)
      else
        pure value
    let keyword ← text .loopForeachKeyword
    let range ← phrase
      [text .loopForeachMiddle, pure container, text .loopForeachGetValues, text .loopForeachRight]
    openBlock (← conditionHeader keyword (binding ++ range))

structure PairLoop where
  container : String
  pairName : String
  keyName : String
  keyType : String
  valueName : String
  valueType : String

def declarationLine (name type value : String) : Script 2 String := do
  let declaration ← take .variableDeclaration [name, type, value]
  return declaration ++ (← text .styleSemicolon)

namespace PairLoop

def iterated (p : PairLoop) (asKeys : Bool) : String :=
  if asKeys then p.keyName else p.pairName

def binding (p : PairLoop) (declared asPair asKeys : Bool) : Script 2 String := do
  if declared then
    let type ← do
      if asPair then
        take .genericType [← text .loopForeachPairClass, p.keyType, p.valueType]
      else
        pure p.keyType
    let declaration ← text .variableDeclaration
    let typed ← take .variableInline [p.iterated asKeys, type]
    return declaration ++ typed
  else
    return if asPair then p.keyName else p.keyName ++ ", " ++ p.valueName

def extraction (p : PairLoop) (declared asPair asKeys : Bool) : Script 2 (List String) := do
  if declared && asPair then
    let key ← phrase [pure p.pairName, text .loopForeachPairsRetrieveKey]
    let value ← phrase [pure p.pairName, text .loopForeachPairsRetrieveValue]
    let first ← declarationLine p.keyName p.keyType key
    let second ← declarationLine p.valueName p.valueType value
    return [first, second]
  else if asKeys then
    let value ← take .dictionaryIndex [p.container, p.keyName]
    return [← declarationLine p.valueName p.valueType value]
  else
    return []

end PairLoop

def foreachPairStart : Script 2 Rendering := do
  let p : PairLoop := ⟨← arg 0, ← arg 1, ← arg 2, ← arg 3, ← arg 4, ← arg 5⟩
  if ← flag .loopForeachAsMethod then
    return .single (← phrase
      [pure p.container, text .loopForeachGetPairs, pure (p.keyName ++ ", " ++ p.valueName),
       text .loopForeachRight]) 1
  else
    let declared ← flag .variableDeclarationRequired
    let asPair ← flag .loopForeachPairsAsPair
    let asKeys ← flag .loopForeachPairsAsKeys
    let binding ← p.binding declared asPair asKeys
    let range ← phrase
      [text .loopForeachPairsMiddle, pure p.container, text .loopForeachGetPairs,
       text .loopForeachRight]
    let header ← conditionHeader (← text .loopForeachKeyword) (binding ++ range)
    let opened ← openBlock header
    let lines ← p.extraction declared asPair asKeys
    return lines.foldl (fun r line => r.push line 0) opened

end Phrasebook.Catalog
