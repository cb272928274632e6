import Phrasebook.Operator
import Phrasebook.Text.Lines

/-! The properties that describe a language: fragments of text, yes-or-no policies and the case
style of import paths. Each has a place, which is a group and a key within it. -/
namespace Phrasebook

inductive Group where
  | arrays
  | booleans
  | classes
  | generics
  | members
  | memberVariables
  | comments
  | conditionals
  | dictionaries
  | enums
  | exceptions
  | functions
  | general
  | imports
  | lambdas
  | lists
  | loops
  | numbers
  | operators
  | output
  | strings
  | style
  | variables
deriving DecidableEq, Repr

namespace Group

def all : List Group :=
  [.arrays, .booleans, .classes, .generics, .members, .memberVariables, .comments, .conditionals,
   .dictionaries, .enums, .exceptions, .functions, .general, .imports, .lambdas, .lists, .loops,
   .numbers, .operators, .output, .strings, .style, .variables]

theorem mem_all (g : Group) : g ∈ all := by
  cases g <;> simp [all]

def path : Group → List String
  | .arrays => ["arrays"]
  | .booleans => ["booleans"]
  | .classes => ["classes"]
  | .generics => ["classes", "generics"]
  | .members => ["classes", "members"]
  | .memberVariables => ["classes", "members", "variables"]
  | .comments => ["comments"]
  | .conditionals => ["conditionals"]
  | .dictionaries => ["dictionaries"]
  | .enums => ["enums"]
  | .exceptions => ["exceptions"]
  | .functions => ["functions"]
  | .general => ["general"]
  | .imports => ["imports"]
  | .lambdas => ["lambdas"]
  | .lists => ["lists"]
  | .loops => ["loops"]
  | .numbers => ["numbers"]
  | .operators => ["operators"]
  | .output => ["output"]
  | .strings => ["strings"]
  | .style => ["style"]
  | .variables => ["variables"]

/-- The keys of the group's table under which other groups are nested. -/
def nested : Group → List String
  | .classes => ["generics", "members"]
  | .members => ["variables"]
  | _ => []

end Group

inductive Fragment where
  | arrayInitializeLeft | arrayInitializeRight | arrayTypeLeft | arrayTypeRight
  | booleanTrueKeyword | booleanFalseKeyword
  | classDefineStart | classExtendsLeft | classExtendsRight | classNewStart | classNewMiddle
  | classNewEnd | classThisKeyword
  | genericLeft | genericMiddle | genericRight
  | memberPublicKeyword | memberProtectedKeyword | memberPrivateKeyword
  | memberVariableAccess | memberVariablePublicMark | memberVariableProtectedMark
  | memberVariablePrivateMark
  | commentBlockStart | commentBlockLeft | commentBlockEnd | commentLineLeft
  | conditionalIfKeyword | conditionalElseIfKeyword | conditionalElseKeyword
  | conditionalStartLeft | conditionalStartRight
  | dictionaryClassName | dictionaryEmpty | dictionaryIndexLeft | dictionaryIndexRight
  | enumStartLeft | enumStartRight | enumValueMiddle | enumValueRight
  | exceptionTryKeyword | exceptionCatchKeyword | exceptionCatchLeft | exceptionCatchMiddle
  | exceptionCatchRight | exceptionFinallyKeyword | exceptionThrowLeft | exceptionThrowMiddle
  | exceptionThrowRight
  | functionDefineStart | functionReturnTypeMiddle | functionReturnKeyword
  | functionParametersLeft | functionParametersRight | functionCallLeft | functionCallRight
  | generalName | generalExtension | generalIndentation
  | importLeft | importMiddle | importRight
  | lambdaParametersLeft | lambdaParametersRight | lambdaBodyLeft | lambdaBodyRight
  | listClassName | listEmpty | listPushLeft | listPushRight | listLengthLeft | listLengthRight
  | loopForeachKeyword | loopForeachMiddle | loopForeachPairsMiddle | loopForeachRight
  | loopForeachGetValues | loopForeachGetPairs | loopForeachPairClass
  | loopForeachPairsRetrieveKey | loopForeachPairsRetrieveValue | loopWhileKeyword
  | numberToStringLeft | numberToStringRight
  | operator (o : Operator)
  | outputPrintLeft | outputPrintRight
  | stringConcatenate | stringLengthLeft | stringLengthRight
  | styleSemicolon | styleBlockStart | styleBlockContinueLeft | styleBlockEnd
  | variableCastLeft | variableCastRight | variableDeclaration | variableTypeLeft
  | variableTypeRight | variableNullKeyword | variableNullRight | variableIsNullLeft
  | variableIsNullMiddle | variableIsNotNullLeft | variableIsNotNullMiddle
deriving DecidableEq

inductive Policy where
  | arrayInitializeTyped
  | genericUsed
  | memberVariableInstanceImplicit
  | dictionaryTypedInitialization
  | exceptionCatchTypes
  | functionExplicitReturnTypes
  | importExplicitLines
  | importItemsBeforePackage
  | listTypedInitialization
  | loopForeachAsMethod
  | loopForeachPairsAsPair
  | loopForeachPairsAsKeys
  | variableCastsRequired
  | variableDeclarationRequired
  | variableExplicitTypes
  | variableTypesAfterName
deriving DecidableEq, Repr

def Fragment.place : Fragment → Group × String
  | .arrayInitializeLeft => (.arrays, "initialize_left")
  | .arrayInitializeRight => (.arrays, "initialize_right")
  | .arrayTypeLeft => (.arrays, "type_left")
  | .arrayTypeRight => (.arrays, "type_right")
  | .booleanTrueKeyword => (.booleans, "true_keyword")
  | .booleanFalseKeyword => (.booleans, "false_keyword")
  | .classDefineStart => (.classes, "define_start")
  | .classExtendsLeft => (.classes, "extends_left")
  | .classExtendsRight => (.classes, "extends_right")
  | .classNewStart => (.classes, "new_start")
  | .classNewMiddle => (.classes, "new_middle")
  | .classNewEnd => (.classes, "new_end")
  | .classThisKeyword => (.classes, "this_keyword")
  | .genericLeft => (.generics, "left")
  | .genericMiddle => (.generics, "middle")
  | .genericRight => (.generics, "right")
  | .memberPublicKeyword => (.members, "public_keyword")
  | .memberProtectedKeyword => (.members, "protected_keyword")
  | .memberPrivateKeyword => (.members, "private_keyword")
  | .memberVariableAccess => (.memberVariables, "access")
  | .memberVariablePublicMark => (.memberVariables, "public_prefix")
  | .memberVariableProtectedMark => (.memberVariables, "protected_prefix")
  | .memberVariablePrivateMark => (.memberVariables, "private_prefix")
  | .commentBlockStart => (.comments, "block_start")
  | .commentBlockLeft => (.comments, "block_left")
  | .commentBlockEnd => (.comments, "block_end")
  | .commentLineLeft => (.comments, "line_left")
  | .conditionalIfKeyword => (.conditionals, "if_keyword")
  | .conditionalElseIfKeyword => (.conditionals, "else_if_keyword")
  | .conditionalElseKeyword => (.conditionals, "else_keyword")
  | .conditionalStartLeft => (.conditionals, "start_left")
  | .conditionalStartRight => (.conditionals, "start_right")
  | .dictionaryClassName => (.dictionaries, "class_name")
  | .dictionaryEmpty => (.dictionaries, "empty")
  | .dictionaryIndexLeft => (.dictionaries, "index_left")
  | .dictionaryIndexRight => (.dictionaries, "index_right")
  | .enumStartLeft => (.enums, "start_left")
  | .enumStartRight => (.enums, "start_right")
  | .enumValueMiddle => (.enums, "value_middle")
  | .enumValueRight => (.enums, "value_right")
  | .exceptionTryKeyword => (.exceptions, "try_keyword")
  | .exceptionCatchKeyword => (.exceptions, "catch_keyword")
  | .exceptionCatchLeft => (.exceptions, "catch_left")
  | .exceptionCatchMiddle => (.exceptions, "catch_middle")
  | .exceptionCatchRight => (.exceptions, "catch_right")
  | .exceptionFinallyKeyword => (.exceptions, "finally_keyword")
  | .exceptionThrowLeft => (.exceptions, "throw_left")
  | .exceptionThrowMiddle => (.exceptions, "throw_middle")
  | .exceptionThrowRight => (.exceptions, "throw_right")
  | .functionDefineStart => (.functions, "define_start")
  | .functionReturnTypeMiddle => (.functions, "return_type_middle")
  | .functionReturnKeyword => (.functions, "return_keyword")
  | .functionParametersLeft => (.functions, "parameters_left")
  | .functionParametersRight => (.functions, "parameters_right")
  | .functionCallLeft => (.functions, "call_left")
  | .functionCallRight => (.functions, "call_right")
  | .generalName => (.general, "name")
  | .generalExtension => (.general, "extension")
  | .generalIndentation => (.general, "indentation")
  | .importLeft => (.imports, "left")
  | .importMiddle => (.imports, "middle")
  | .importRight => (.imports, "right")
  | .lambdaParametersLeft => (.lambdas, "parameters_left")
  | .lambdaParametersRight => (.lambdas, "parameters_right")
  | .lambdaBodyLeft => (.lambdas, "body_left")
  | .lambdaBodyRight => (.lambdas, "body_right")
  | .listClassName => (.lists, "class_name")
  | .listEmpty => (.lists, "empty")
  | .listPushLeft => (.lists, "push_left")
  | .listPushRight => (.lists, "push_right")
  | .listLengthLeft => (.lists, "length_left")
  | .listLengthRight => (.lists, "length_right")
  | .loopForeachKeyword => (.loops, "foreach_keyword")
  | .loopForeachMiddle => (.loops, "foreach_middle")
  | .loopForeachPairsMiddle => (.loops, "foreach_pairs_middle")
  | .loopForeachRight => (.loops, "foreach_right")
  | .loopForeachGetValues => (.loops, "foreach_get_values")
  | .loopForeachGetPairs => (.loops, "foreach_get_pairs")
  | .loopForeachPairClass => (.loops, "foreach_pair_class")
  | .loopForeachPairsRetrieveKey => (.loops, "foreach_pairs_retrieve_key")
  | .loopForeachPairsRetrieveValue => (.loops, "foreach_pairs_retrieve_value")
  | .loopWhileKeyword => (.loops, "while_keyword")
  | .numberToStringLeft => (.numbers, "to_string_left")
  | .numberToStringRight => (.numbers, "to_string_right")
  | .operator o => (.operators, o.field)
  | .outputPrintLeft => (.output, "print_left")
  | .outputPrintRight => (.output, "print_right")
  | .stringConcatenate => (.strings, "concatenate")
  | .stringLengthLeft => (.strings, "length_left")
  | .stringLengthRight => (.strings, "length_right")
  | .styleSemicolon => (.style, "semicolon")
  | .styleBlockStart => (.style, "block_start")
  | .styleBlockContinueLeft => (.style, "block_continue_left")
  | .styleBlockEnd => (.style, "block_end")
  | .variableCastLeft => (.variables, "cast_left")
  | .variableCastRight => (.variables, "cast_right")
  | .variableDeclaration => (.variables, "declaration")
  | .variableTypeLeft => (.variables, "type_left")
  | .variableTypeRight => (.variables, "type_right")
  | .variableNullKeyword => (.variables, "null_keyword")
  | .variableNullRight => (.variables, "null_right")
  | .variableIsNullLeft => (.variables, "is_null_left")
  | .variableIsNullMiddle => (.variables, "is_null_middle")
  | .variableIsNotNullLeft => (.variables, "is_not_null_left")
  | .variableIsNotNullMiddle => (.variables, "is_not_null_middle")

def Policy.place : Policy → Group × String
  | .arrayInitializeTyped => (.arrays, "initialize_typed")
  | .genericUsed => (.generics, "used")
  | .memberVariableInstanceImplicit => (.memberVariables, "instance_implicit")
  | .dictionaryTypedInitialization => (.dictionaries, "typed_initialization")
  | .exceptionCatchTypes => (.exceptions, "catch_types")
  | .functionExplicitReturnTypes => (.functions, "explicit_return_types")
  | .importExplicitLines => (.imports, "explicit_lines")
  | .importItemsBeforePackage => (.imports, "items_before_package")
  | .listTypedInitialization => (.lists, "typed_initialization")
  | .loopForeachAsMethod => (.loops, "foreach_as_method")
  | .loopForeachPairsAsPair => (.loops, "foreach_pairs_as_pair")
  | .loopForeachPairsAsKeys => (.loops, "foreach_pairs_as_keys")
  | .variableCastsRequired => (.variables, "casts_required")
  | .variableDeclarationRequired => (.variables, "declaration_required")
  | .variableExplicitTypes => (.variables, "explicit_types")
  | .variableTypesAfterName => (.variables, "types_after_name")

inductive Property where
  | fragment (f : Fragment)
  | policy (p : Policy)
  | importStyle
deriving DecidableEq

def Group.properties : Group → List Property
  | .arrays =>
    [.fragment .arrayInitializeLeft, .fragment .arrayInitializeRight,
     .policy .arrayInitializeTyped, .fragment .arrayTypeLeft, .fragment .arrayTypeRight]
  | .booleans => [.fragment .booleanTrueKeyword, .fragment .booleanFalseKeyword]
  | .classes =>
    [.fragment .classDefineStart, .fragment .classExtendsLeft, .fragment .classExtendsRight,
     .fragment .classNewStart, .fragment .classNewMiddle, .fragment .classNewEnd,
     .fragment .classThisKeyword]
  | .generics =>
    [.policy .genericUsed, .fragment .genericLeft, .fragment .genericMiddle,
     .fragment .genericRight]
  | .members =>
    [.fragment .memberPublicKeyword, .fragment .memberProtectedKeyword,
     .fragment .memberPrivateKeyword]
  | .memberVariables =>
    [.fragment .memberVariableAccess, .policy .memberVariableInstanceImplicit,
     .fragment .memberVariablePublicMark, .fragment .memberVariableProtectedMark,
     .fragment .memberVariablePrivateMark]
  | .comments =>
    [.fragment .commentBlockStart, .fragment .commentBlockLeft, .fragment .commentBlockEnd,
     .fragment .commentLineLeft]
  | .conditionals =>
    [.fragment .conditionalIfKeyword, .fragment .conditionalElseIfKeyword,
     .fragment .conditionalElseKeyword, .fragment .conditionalStartLeft,
     .fragment .conditionalStartRight]
  | .dictionaries =>
    [.policy .dictionaryTypedInitialization, .fragment .dictionaryClassName,
     .fragment .dictionaryEmpty, .fragment .dictionaryIndexLeft, .fragment .dictionaryIndexRight]
  | .enums =>
    [.fragment .enumStartLeft, .fragment .enumStartRight, .fragment .enumValueMiddle,
     .fragment .enumValueRight]
  | .exceptions =>
    [.fragment .exceptionTryKeyword, .fragment .exceptionCatchKeyword,
     .fragment .exceptionCatchLeft, .fragment .exceptionCatchMiddle,
     .fragment .exceptionCatchRight, .policy .exceptionCatchTypes,
     .fragment .exceptionFinallyKeyword, .fragment .exceptionThrowLeft,
     .fragment .exceptionThrowMiddle, .fragment .exceptionThrowRight]
  | .functions =>
    [.fragment .functionDefineStart, .policy .functionExplicitReturnTypes,
     .fragment .functionReturnTypeMiddle, .fragment .functionReturnKeyword,
     .fragment .functionParametersLeft, .fragment .functionParametersRight,
     .fragment .functionCallLeft, .fragment .functionCallRight]
  | .general =>
    [.fragment .generalName, .fragment .generalExtension, .fragment .generalIndentation]
  | .imports =>
    [.policy .importExplicitLines, .policy .importItemsBeforePackage, .fragment .importLeft,
     .fragment .importMiddle, .fragment .importRight, .importStyle]
  | .lambdas =>
    [.fragment .lambdaParametersLeft, .fragment .lambdaParametersRight, .fragment .lambdaBodyLeft,
     .fragment .lambdaBodyRight]
  | .lists =>
    [.policy .listTypedInitialization, .fragment .listClassName, .fragment .listEmpty,
     .fragment .listPushLeft, .fragment .listPushRight, .fragment .listLengthLeft,
     .fragment .listLengthRight]
  | .loops =>
    [.fragment .loopForeachKeyword, .fragment .loopForeachMiddle,
     .fragment .loopForeachPairsMiddle, .fragment .loopForeachRight,
     .fragment .loopForeachGetValues, .fragment .loopForeachGetPairs,
     .policy .loopForeachAsMethod, .policy .loopForeachPairsAsPair,
     .policy .loopForeachPairsAsKeys, .fragment .loopForeachPairClass,
     .fragment .loopForeachPairsRetrieveKey, .fragment .loopForeachPairsRetrieveValue,
     .fragment .loopWhileKeyword]
  | .numbers => [.fragment .numberToStringLeft, .fragment .numberToStringRight]
  | .operators => Operator.all.map fun o => .fragment (.operator o)
  | .output => [.fragment .outputPrintLeft, .fragment .outputPrintRight]
  | .strings =>
    [.fragment .stringConcatenate, .fragment .stringLengthLeft, .fragment .stringLengthRight]
  | .style =>
    [.fragment .styleSemicolon, .fragment .styleBlockStart, .fragment .styleBlockContinueLeft,
     .fragment .styleBlockEnd]
  | .variables =>
    [.fragment .variableCastLeft, .fragment .variableCastRight, .policy .variableCastsRequired,
     .fragment .variableDeclaration, .policy .variableDeclarationRequired,
     .policy .variableExplicitTypes, .fragment .variableTypeLeft, .fragment .variableTypeRight,
     .policy .variableTypesAfterName, .fragment .variableNullKeyword,
     .fragment .variableNullRight, .fragment .variableIsNullLeft, .fragment .variableIsNullMiddle,
     .fragment .variableIsNotNullLeft, .fragment .variableIsNotNullMiddle]

namespace Property

def all : List Property :=
  Group.all.flatMap Group.properties

def place : Property → Group × String
  | .fragment f => f.place
  | .policy p => p.place
  | .importStyle => (.imports, "case")

def group (p : Property) : Group :=
  p.place.1

def field (p : Property) : String :=
  p.place.2

def groupPath (p : Property) : String :=
  Text.join "." p.group.path

def path (p : Property) : String :=
  p.groupPath ++ "." ++ p.field

def ofPath? (path : String) : Option Property :=
  all.find? (·.path = path)

def missingMessage (p : Property) : String :=
  "property '" ++ p.path ++ "' is not defined"

end Property

end Phrasebook
