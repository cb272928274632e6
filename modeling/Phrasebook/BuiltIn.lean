import Phrasebook.Language.Error

/-! The built-in languages. For every property there is what each of them has for it, so that they
are complete by construction. -/
namespace Phrasebook

inductive BuiltIn where
  | csharp
  | javascript
  | python
  | ruby
deriving DecidableEq, Repr

namespace BuiltIn

def all : List BuiltIn :=
  [.csharp, .javascript, .python, .ruby]

def name : BuiltIn → String
  | .csharp => "csharp"
  | .javascript => "javascript"
  | .python => "python"
  | .ruby => "ruby"

def ofName? (name : String) : Option BuiltIn :=
  all.find? (·.name = name)

def nicknames : BuiltIn → List String
  | .csharp => ["csharp", "c#", "cs"]
  | .javascript => ["javascript", "js"]
  | .python => ["python", "py"]
  | .ruby => ["ruby", "rb"]

def ofText? (text : String) : Option BuiltIn :=
  all.find? fun b => b.nicknames.contains (Text.lowercase text)

def named (text : String) : Except LanguageError BuiltIn :=
  match ofText? text with
  | some b => .ok b
  | none => .error (.unknownLanguage text)

def inEach {α : Type} (csharp javascript python ruby : α) : BuiltIn → α
  | .csharp => csharp
  | .javascript => javascript
  | .python => python
  | .ruby => ruby

def operator : Operator → BuiltIn → String
  | .conjunction => inEach " && " " && " " and " " && "
  | .disjunction => inEach " || " " || " " or " " || "
  | .negation => inEach "!" "!" "not " "!"
  | .equalTo => inEach " == " " === " " == " " == "
  | .notEqualTo => inEach " != " " !== " " != " " != "
  | .greaterThan => inEach " > " " > " " > " " > "
  | .greaterThanOrEqualTo => inEach " >= " " >= " " >= " " >= "
  | .lessThan => inEach " < " " < " " < " " < "
  | .lessThanOrEqualTo => inEach " <= " " <= " " <= " " <= "
  | .plus => inEach " + " " + " " + " " + "
  | .minus => inEach " - " " - " " - " " - "
  | .times => inEach " * " " * " " * " " * "
  | .divideBy => inEach " / " " / " " / " " / "
  | .modulo => inEach " % " " % " " % " " % "
  | .equals => inEach " = " " = " " = " " = "
  | .increaseBy => inEach " += " " += " " += " " += "
  | .decreaseBy => inEach " -= " " -= " " -= " " -= "

def fragment : Fragment → BuiltIn → String
  | .arrayInitializeLeft => inEach " \x7b " "[" "[" "["
  | .arrayInitializeRight => inEach " \x7d" "]" "]" "]"
  | .arrayTypeLeft => inEach "" "" "list[" ""
  | .arrayTypeRight => inEach "[]" "[]" "]" "[]"
  | .booleanTrueKeyword => inEach "true" "true" "True" "true"
  | .booleanFalseKeyword => inEach "false" "false" "False" "false"
  | .classDefineStart => inEach "public class " "class " "class " "class "
  | .classExtendsLeft => inEach " : " " extends " "(" " < "
  | .classExtendsRight => inEach "" "" ")" ""
  | .classNewStart => inEach "new " "new " "" ""
  | .classNewMiddle => inEach "(" "(" "(" ".new("
  | .classNewEnd => inEach ")" ")" ")" ")"
  | .classThisKeyword => inEach "this" "this" "self" "self"
  | .genericLeft => inEach "<" "<" "[" "<"
  | .genericMiddle => inEach ", " ", " ", " ", "
  | .genericRight => inEach ">" ">" "]" ">"
  | .memberPublicKeyword => inEach "public " "" "" ""
  | .memberProtectedKeyword => inEach "protected " "" "" ""
  | .memberPrivateKeyword => inEach "private " "" "" ""
  | .memberVariableAccess => inEach "." "." "." "@"
  | .memberVariablePublicMark => inEach "" "" "" ""
  | .memberVariableProtectedMark => inEach "" "_" "_" ""
  | .memberVariablePrivateMark => inEach "" "_" "__" ""
  | .commentBlockStart => inEach "/*" "/*" "\"\"\"" "=begin"
  | .commentBlockLeft => inEach " * " " * " "" ""
  | .commentBlockEnd => inEach " */" " */" "\"\"\"" "=end"
  | .commentLineLeft => inEach "// " "// " "# " "# "
  | .conditionalIfKeyword => inEach "if" "if" "if" "if"
  | .conditionalElseIfKeyword => inEach "else if" "else if" "elif" "elsif"
  | .conditionalElseKeyword => inEach "else" "else" "else" "else"
  | .conditionalStartLeft => inEach " (" " (" " " " "
  | .conditionalStartRight => inEach ")" ")" "" ""
  | .dictionaryClassName => inEach "Dictionary" "Object" "dict" "Hash"
  | .dictionaryEmpty => inEach "new Dictionary<object, object>()" "\x7b\x7d" "\x7b\x7d" "\x7b\x7d"
  | .dictionaryIndexLeft => inEach "[" "[" "[" "["
  | .dictionaryIndexRight => inEach "]" "]" "]" "]"
  | .enumStartLeft => inEach "enum " "const " "class " "module "
  | .enumStartRight => inEach "" " =" "(Enum)" ""
  | .enumValueMiddle => inEach " = " ": " " = " " = "
  | .enumValueRight => inEach "," "," "" ""
  | .exceptionTryKeyword => inEach "try" "try" "try" "begin"
  | .exceptionCatchKeyword => inEach "catch" "catch" "except" "rescue"
  | .exceptionCatchLeft => inEach " (" " (" " " " "
  | .exceptionCatchMiddle => inEach " " " " " as " " => "
  | .exceptionCatchRight => inEach ")" ")" "" ""
  | .exceptionFinallyKeyword => inEach "finally" "finally" "finally" "ensure"
  | .exceptionThrowLeft => inEach "throw new " "throw new " "raise " "raise "
  | .exceptionThrowMiddle => inEach "(" "(" "(" ".new("
  | .exceptionThrowRight => inEach ")" ")" ")" ")"
  | .functionDefineStart => inEach "public static " "function " "def " "def "
  | .functionReturnTypeMiddle => inEach "" "" " -> " ""
  | .functionReturnKeyword => inEach "return" "return" "return" "return"
  | .functionParametersLeft => inEach "(" "(" "(" "("
  | .functionParametersRight => inEach ")" ")" ")" ")"
  | .functionCallLeft => inEach "(" "(" "(" "("
  | .functionCallRight => inEach ")" ")" ")" ")"
  | .generalName => inEach "C#" "JavaScript" "Python" "Ruby"
  | .generalExtension => inEach "cs" "js" "py" "rb"
  | .generalIndentation => inEach "    " "    " "    " "  "
  | .importLeft => inEach "using " "import \x7b " "from " "require_relative \""
  | .importMiddle => inEach "." " \x7d from \"" " import " "/"
  | .importRight => inEach ";" "\";" "" "\""
  | .lambdaParametersLeft => inEach "(" "(" "lambda " "->("
  | .lambdaParametersRight => inEach ")" ")" "" ")"
  | .lambdaBodyLeft => inEach " => " " => " ": " " \x7b "
  | .lambdaBodyRight => inEach "" "" "" " \x7d"
  | .listClassName => inEach "List" "Array" "list" "Array"
  | .listEmpty => inEach "new List<object>()" "[]" "[]" "[]"
  | .listPushLeft => inEach ".Add(" ".push(" ".append(" ".push("
  | .listPushRight => inEach ")" ")" ")" ")"
  | .listLengthLeft => inEach "" "" "len(" ""
  | .listLengthRight => inEach ".Count" ".length" ")" ".length"
  | .loopForeachKeyword => inEach "foreach" "for" "for" "for"
  | .loopForeachMiddle => inEach " in " " of " " in " " in "
  | .loopForeachPairsMiddle => inEach " in " " in " " in " " in "
  | .loopForeachRight => inEach "" "" "" "|"
  | .loopForeachGetValues => inEach "" "" "" ".each do |"
  | .loopForeachGetPairs => inEach "" "" ".items()" ".each do |"
  | .loopForeachPairClass => inEach "KeyValuePair" "Array" "tuple" "Array"
  | .loopForeachPairsRetrieveKey => inEach ".Key" "[0]" "[0]" "[0]"
  | .loopForeachPairsRetrieveValue => inEach ".Value" "[1]" "[1]" "[1]"
  | .loopWhileKeyword => inEach "while" "while" "while" "while"
  | .numberToStringLeft => inEach "" "" "str(" ""
  | .numberToStringRight => inEach ".ToString()" ".toString()" ")" ".to_s"
  | .operator o => operator o
  | .outputPrintLeft => inEach "System.Console.WriteLine(" "console.log(" "print(" "puts "
  | .outputPrintRight => inEach ")" ")" ")" ""
  | .stringConcatenate => inEach " + " " + " " + " " + "
  | .stringLengthLeft => inEach "" "" "len(" ""
  | .stringLengthRight => inEach ".Length" ".length" ")" ".length"
  | .styleSemicolon => inEach ";" ";" "" ""
  | .styleBlockStart => inEach "\n\x7b" " \x7b" ":" ""
  | .styleBlockContinueLeft => inEach "\x7d\n" "\x7d " "" ""
  | .styleBlockEnd => inEach "\x7d" "\x7d" "" "end"
  | .variableCastLeft => inEach "(" "" "" ""
  | .variableCastRight => inEach ")" "" "" ""
  | .variableDeclaration => inEach "" "let " "" ""
  | .variableTypeLeft => inEach "" ": " ": " ""
  | .variableTypeRight => inEach " " " " " " " "
  | .variableNullKeyword => inEach "null" "null" "None" "nil"
  | .variableNullRight => inEach "null" "null" "None" ""
  | .variableIsNullLeft => inEach "" "" "" ""
  | .variableIsNullMiddle => inEach " == " " === " " is " ".nil?"
  | .variableIsNotNullLeft => inEach "" "" "" "!"
  | .variableIsNotNullMiddle => inEach " != " " !== " " is not " ".nil?"

def policy : Policy → BuiltIn → Bool
  | .arrayInitializeTyped => inEach true false false false
  | .genericUsed => inEach true false true false
  | .memberVariableInstanceImplicit => inEach false false false true
  | .dictionaryTypedInitialization => inEach true false false false
  | .exceptionCatchTypes => inEach true false true true
  | .functionExplicitReturnTypes => inEach true false false false
  | .importExplicitLines => inEach true false false true
  | .importItemsBeforePackage => inEach false true false false
  | .listTypedInitialization => inEach true false false false
  | .loopForeachAsMethod => inEach false false false true
  | .loopForeachPairsAsPair => inEach true false false false
  | .loopForeachPairsAsKeys => inEach false true false false
  | .variableCastsRequired => inEach true false false false
  | .variableDeclarationRequired => inEach true true false false
  | .variableExplicitTypes => inEach true false false false
  | .variableTypesAfterName => inEach false true true false

def importStyle : BuiltIn → CaseStyle :=
  inEach .packageUpper .fileSystemLower .packageLower .fileSystemLower

def language (b : BuiltIn) : Language :=
  Language.assemble
    { name := b.name
      fragment := fun f => some (fragment f b)
      policy := fun p => some (policy p b)
      importStyle := some (importStyle b)
      spellings := [] }

end BuiltIn

end Phrasebook
