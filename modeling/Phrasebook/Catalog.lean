import Phrasebook.Catalog.Expressions
import Phrasebook.Catalog.Lines
import Phrasebook.Catalog.Loops
import Phrasebook.Catalog.Statements

/-! The script of every command. -/
namespace Phrasebook.Catalog

def script : (c : Command) → Script c.rank Rendering
  | .arrayInitialize => arrayInitialize
  | .arrayType => arrayType
  | .blankLine => blankLine
  | .boolean => boolean
  | .cast => cast
  | .catchStart => catchStart
  | .classEnd => closeBlock
  | .classStart => classStart
  | .commentBlock => commentBlock
  | .commentBlockEnd => commentBlockEnd
  | .commentBlockStart => commentBlockStart
  | .commentLine => commentLine
  | .concatenate => concatenate
  | .dictionaryIndex => dictionaryIndex
  | .dictionaryNew => dictionaryNew
  | .dictionarySet => dictionarySet
  | .elseIfStart => elseIfStart
  | .elseStart => elseStart
  | .enumEnd => closeBlock
  | .enumMember => enumMember
  | .enumStart => enumStart
  | .finallyStart => finallyStart
  | .foreachEnd => closeBlock
  | .foreachPairStart => foreachPairStart
  | .foreachStart => foreachStart
  | .functionCall => functionCall
  | .functionEnd => closeBlock
  | .functionStart => functionStart
  | .genericType => genericType
  | .ifEnd => closeBlock
  | .ifStart => ifStart
  | .importItems => importItems
  | .isNotNull => isNotNull
  | .isNull => isNull
  | .lambda => lambda
  | .listLength => listLength
  | .listNew => listNew
  | .listPush => listPush
  | .memberVariable => memberVariable
  | .newInstance => newInstance
  | .negation => negation
  | .null => null
  | .numberToString => numberToString
  | .operation => operation
  | .packagePath => packagePath
  | .print => print
  | .returnValue => returnValue
  | .stringLength => stringLength
  | .thisInstance => thisInstance
  | .throwException => throwException
  | .tryEnd => closeBlock
  | .tryStart => tryStart
  | .variableDeclaration => variableDeclaration
  | .variableInline => variableInline
  | .whileEnd => closeBlock
  | .whileStart => whileStart

end Phrasebook.Catalog
