import Phrasebook.Signature
import Phrasebook.Text.WhiteSpace

/-! The commands, each with its signature and its rank. A command is rendered with the help of
commands of lower rank only. -/
namespace Phrasebook

inductive Command where
  | arrayInitialize
  | arrayType
  | blankLine
  | boolean
  | cast
  | catchStart
  | classEnd
  | classStart
  | commentBlock
  | commentBlockEnd
  | commentBlockStart
  | commentLine
  | concatenate
  | dictionaryIndex
  | dictionaryNew
  | dictionarySet
  | elseIfStart
  | elseStart
  | enumEnd
  | enumMember
  | enumStart
  | finallyStart
  | foreachEnd
  | foreachPairStart
  | foreachStart
  | functionCall
  | functionEnd
  | functionStart
  | genericType
  | ifEnd
  | ifStart
  | importItems
  | isNotNull
  | isNull
  | lambda
  | listLength
  | listNew
  | listPush
  | memberVariable
  | newInstance
  | negation
  | null
  | numberToString
  | operation
  | packagePath
  | print
  | returnValue
  | stringLength
  | thisInstance
  | throwException
  | tryEnd
  | tryStart
  | variableDeclaration
  | variableInline
  | whileEnd
  | whileStart
deriving DecidableEq, Repr

namespace Parameter

def required (name description : String) : Parameter :=
  .single ⟨name, description, true⟩

def optional (name description : String) : Parameter :=
  .single ⟨name, description, false⟩

def anyNumber (name description : String) (slots : List (String × String)) : Parameter :=
  .repeating ⟨name, description, false, slots.map fun (n, d) => ⟨n, d, true⟩⟩

def atLeastOne (name description : String) (slots : List (String × String)) : Parameter :=
  .repeating ⟨name, description, true, slots.map fun (n, d) => ⟨n, d, true⟩⟩

end Parameter

namespace Command

def all : List Command :=
  [.arrayInitialize, .arrayType, .blankLine, .boolean, .cast, .catchStart, .classEnd, .classStart,
   .commentBlock, .commentBlockEnd, .commentBlockStart, .commentLine, .concatenate,
   .dictionaryIndex, .dictionaryNew, .dictionarySet, .elseIfStart, .elseStart, .enumEnd,
   .enumMember, .enumStart, .finallyStart, .foreachEnd, .foreachPairStart, .foreachStart,
   .functionCall, .functionEnd, .functionStart, .genericType, .ifEnd, .ifStart, .importItems,
   .isNotNull, .isNull, .lambda, .listLength, .listNew, .listPush, .memberVariable, .newInstance,
   .negation, .null, .numberToString, .operation, .packagePath, .print, .returnValue,
   .stringLength, .thisInstance, .throwException, .tryEnd, .tryStart, .variableDeclaration,
   .variableInline, .whileEnd, .whileStart]

theorem mem_all (c : Command) : c ∈ all := by
  cases c <;> simp [all]

def commentWords : Parameter :=
  .anyNumber "words" "Words of the comment." [("word", "A word of the comment.")]

def typedParameters : Parameter :=
  .anyNumber "parameters" "Parameters, each a name followed by a type."
    [("parameter-name", "A parameter name."), ("parameter-type", "A parameter type.")]

def signature : Command → Signature
  | .arrayInitialize =>
    ⟨"array initialize", "A new array holding the given items.",
      [.required "type" "The type of the items.",
       .anyNumber "items" "Starting items."
          [("item", "A starting item.")]],
      []⟩
  | .arrayType =>
    ⟨"array type", "The type of an array of items.",
      [.required "type" "The type of the items."],
      []⟩
  | .blankLine => ⟨"blank line", "An empty line.", [], []⟩
  | .boolean => ⟨"boolean", "A boolean literal.", [.required "value" "Either true or false."], []⟩
  | .cast =>
    ⟨"cast", "Casts a value to a type.",
      [.required "type" "The type to cast to.",
       .required "value" "The value to cast."],
      []⟩
  | .catchStart =>
    ⟨"catch start", "Continues a try block with a handler for an exception type.",
      [.required "exception-type" "The type of exception to catch.",
       .required "name" "The caught exception's name."],
      [-1, 1]⟩
  | .classEnd => ⟨"class end", "Ends a class declaration.", [], [-1]⟩
  | .classStart =>
    ⟨"class start", "Starts a class declaration.",
      [.required "name" "The class name.",
       .optional "parent" "A class to extend."],
      [1]⟩
  | .commentBlock => ⟨"comment block", "A line inside a block comment.", [commentWords], []⟩
  | .commentBlockEnd => ⟨"comment block end", "Ends a block comment.", [], []⟩
  | .commentBlockStart => ⟨"comment block start", "Starts a block comment.", [], []⟩
  | .commentLine => ⟨"comment line", "A single-line comment.", [commentWords], []⟩
  | .concatenate =>
    ⟨"concatenate", "Joins strings together.",
      [.required "left" "The first string.",
       .atLeastOne "rest" "Strings to append."
          [("right", "A string to append.")]],
      []⟩
  | .dictionaryIndex =>
    ⟨"dictionary index", "Looks up a dictionary value by key.",
      [.required "container" "The dictionary.",
       .required "key" "The key to look up."],
      []⟩
  | .dictionaryNew =>
    ⟨"dictionary new", "A new, empty dictionary.",
      [.required "key-type" "The type of the keys.",
       .required "value-type" "The type of the values."],
      []⟩
  | .dictionarySet =>
    ⟨"dictionary set", "Stores a value in a dictionary under a key.",
      [.required "container" "The dictionary.",
       .required "key" "The key to store under.",
       .required "value" "The value to store."],
      []⟩
  | .elseIfStart =>
    ⟨"else if start", "Continues a conditional with another condition.",
      [.required "condition" "The condition to check."],
      [-1, 1]⟩
  | .elseStart => ⟨"else start", "Continues a conditional with a fallback block.", [], [-1, 1]⟩
  | .enumEnd => ⟨"enum end", "Ends an enum declaration.", [], [-1]⟩
  | .enumMember =>
    ⟨"enum member", "A member of an enum.",
      [.required "name" "The member name.",
       .required "value" "The member value."],
      []⟩
  | .enumStart =>
    ⟨"enum start", "Starts an enum declaration.",
      [.required "name" "The enum name."],
      [1]⟩
  | .finallyStart =>
    ⟨"finally start", "Continues a try block with a block that always runs.",
      [],
      [-1, 1]⟩
  | .foreachEnd => ⟨"foreach end", "Ends a foreach loop.", [], [-1]⟩
  | .foreachPairStart =>
    ⟨"foreach pair start", "Starts a foreach loop over a container's key/value pairs.",
      [.required "container" "A container to iterate over.",
       .required "pair-name" "The name of the pair variable.",
       .required "key-name" "The name of the key variable.",
       .required "key-type" "The type of the key variable.",
       .required "value-name" "The name of the value variable.",
       .required "value-type" "The type of the value variable."],
      [1]⟩
  | .foreachStart =>
    ⟨"foreach start", "Starts a foreach loop over a container's values.",
      [.required "container" "A container to iterate over.",
       .required "value-name" "The name of the value variable.",
       .required "value-type" "The type of the value variable."],
      [1]⟩
  | .functionCall =>
    ⟨"function call", "Calls a function.",
      [.required "name" "The function to call.",
       .anyNumber "arguments" "Arguments to pass."
          [("argument", "An argument.")]],
      []⟩
  | .functionEnd => ⟨"function end", "Ends a function.", [], [-1]⟩
  | .functionStart =>
    ⟨"function start", "Starts a function.",
      [.required "name" "The function name.",
       .required "return-type" "The return type.",
       typedParameters],
      [1]⟩
  | .genericType =>
    ⟨"generic type", "A type name with generic type arguments.",
      [.required "name" "The generic type name.",
       .atLeastOne "type arguments" "Types filling the generic parameters."
          [("type-argument", "A type argument.")]],
      []⟩
  | .ifEnd => ⟨"if end", "Ends a conditional.", [], [-1]⟩
  | .ifStart =>
    ⟨"if start", "Starts a conditional.",
      [.required "condition" "The condition to check."],
      [1]⟩
  | .importItems =>
    ⟨"import", "Imports items from a package.",
      [.required "package" "A package to import from.",
       .atLeastOne "items" "Items to import from the package."
          [("item", "An item to import.")]],
      []⟩
  | .isNotNull =>
    ⟨"is not null", "Checks that a value is not null.",
      [.required "value" "The value to check."],
      []⟩
  | .isNull =>
    ⟨"is null", "Checks that a value is null.",
      [.required "value" "The value to check."],
      []⟩
  | .lambda =>
    ⟨"lambda", "An inline anonymous function.",
      [.required "return-type" "The return type.",
       .required "body" "The returned expression.",
       typedParameters],
      []⟩
  | .listLength =>
    ⟨"list length", "The number of items in a list.",
      [.required "list" "The list to measure."],
      []⟩
  | .listNew =>
    ⟨"list new", "A new, empty list.",
      [.required "item-type" "The type of the items."],
      []⟩
  | .listPush =>
    ⟨"list push", "Adds an item to the end of a list.",
      [.required "list" "The list to add to.",
       .required "item" "The item to add."],
      []⟩
  | .memberVariable =>
    ⟨"member variable", "Accesses a member variable of an instance.",
      [.required "privacy" "One of public, protected or private.",
       .required "instance" "The instance to look within.",
       .required "name" "The member name."],
      []⟩
  | .newInstance =>
    ⟨"new", "Creates a new instance of a class.",
      [.required "class-name" "The class to instantiate.",
       .anyNumber "arguments" "Constructor arguments."
          [("argument", "A constructor argument.")]],
      []⟩
  | .negation =>
    ⟨"not", "Logically negates a value.",
      [.required "value" "The value to negate."],
      []⟩
  | .null => ⟨"null", "The null value.", [], []⟩
  | .numberToString =>
    ⟨"number to string", "Converts a number to a string.",
      [.required "value" "The number to convert."],
      []⟩
  | .operation =>
    ⟨"operation", "Applies operators to values, left to right.",
      [.required "left" "The first value.",
       .atLeastOne "operations" "Operators and the values they apply."
          [("operator", "An operator name, e.g. \"plus\"."),
           ("right", "The value the operator applies.")]],
      []⟩
  | .packagePath =>
    ⟨"package path", "A package path in the language's import casing.",
      [.atLeastOne "words" "Segments of the path."
          [("word", "A path segment.")]],
      []⟩
  | .print => ⟨"print", "Prints a value.", [.required "value" "The value to print."], []⟩
  | .returnValue =>
    ⟨"return", "Returns from a function.",
      [.optional "value" "The value to return."],
      []⟩
  | .stringLength =>
    ⟨"string length", "The length of a string.",
      [.required "string" "The string to measure."],
      []⟩
  | .thisInstance => ⟨"this", "The current instance.", [], []⟩
  | .throwException =>
    ⟨"throw", "Throws a new exception.",
      [.required "exception-type" "The type of exception to throw.",
       .required "message" "The exception message."],
      []⟩
  | .tryEnd => ⟨"try end", "Ends a try block and its handlers.", [], [-1]⟩
  | .tryStart => ⟨"try start", "Starts a try block.", [], [1]⟩
  | .variableDeclaration =>
    ⟨"variable", "Declares a variable, optionally with a starting value.",
      [.required "name" "The variable name.",
       .required "type" "The variable type.",
       .optional "value" "A starting value."],
      []⟩
  | .variableInline =>
    ⟨"variable inline", "A variable name with its type, as used in parameter lists.",
      [.required "name" "The variable name.",
       .required "type" "The variable type."],
      []⟩
  | .whileEnd => ⟨"while end", "Ends a while loop.", [], [-1]⟩
  | .whileStart =>
    ⟨"while start", "Starts a while loop.",
      [.required "condition" "The condition to keep looping on."],
      [1]⟩

def name (c : Command) : String :=
  c.signature.name

def ofName? (name : String) : Option Command :=
  all.find? (·.name = Text.trim name)

/-- How many commands deep the help goes that a command takes from others. -/
def rank : Command → Nat
  | .foreachPairStart => 2
  | .arrayInitialize | .dictionaryNew | .dictionarySet | .listNew | .foreachStart
  | .functionStart | .lambda | .variableDeclaration => 1
  | _ => 0

theorem rank_lt (c : Command) : c.rank < 3 := by
  cases c <;> decide

end Command

end Phrasebook
