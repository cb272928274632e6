import Phrasebook.Language
import Phrasebook.Text.Quoted
import Phrasebook.Toml.Value

/-! Why a language cannot be had, with the words for it. -/
namespace Phrasebook

inductive StyleFault where
  | notName
  | unknownName (name : String)
  | noName
  | manyNames
  | content (found : Toml.Value)

inductive DefinitionFault where
  | unknownGroup (key : String)
  | notTable (group : Group) (found : Toml.Value)
  | unknownField (group : Group) (key : String)
  | notText (fragment : Fragment) (found : Toml.Value)
  | notFlag (policy : Policy) (found : Toml.Value)
  | notStyle (fault : StyleFault)

inductive LanguageError where
  | unknownLanguage (name : String)
  | unreadable (language : String)
  | invalidGroup (language : String) (fault : DefinitionFault)
  | incomplete (language : String) (unset : List Property)

def choiceText (names : List String) : String :=
  match names.map fun name => "`" ++ name ++ "`" with
  | [a, b] => "expected " ++ a ++ " or " ++ b
  | [a] => "expected " ++ a
  | names => "expected one of " ++ Text.join ", " names

def unknownVariantText (name : String) (names : List String) : String :=
  "unknown variant `" ++ name ++ "`, " ++ choiceText names

def Toml.Value.shown : Toml.Value → String
  | .string text => "string " ++ Text.quoted text
  | .integer n => s!"integer `{n}`"
  | .float x => "floating point `" ++ x.text ++ "`"
  | .boolean b => s!"boolean `{b}`"
  | .datetime text => "string " ++ Text.quoted text
  | .array _ => "sequence"
  | .table _ => "map"

def StyleFault.text : StyleFault → String
  | .notName => "invalid type: unit variant, expected string only"
  | .unknownName name => unknownVariantText name (CaseStyle.all.map CaseStyle.name)
  | .noName => "wanted exactly 1 element, found 0 elements"
  | .manyNames => "wanted exactly 1 element, more than 1 element"
  | .content (.array _) => "expected empty array"
  | .content (.table _) => "expected empty table"
  | .content found => s!"expected table, found {found.kind}"

namespace DefinitionFault

def place : DefinitionFault → String
  | .unknownGroup _ => "root"
  | .notTable g _ => Text.join "." g.path
  | .unknownField g _ => Text.join "." g.path
  | .notText f _ => (Property.fragment f).groupPath
  | .notFlag p _ => (Property.policy p).groupPath
  | .notStyle _ => Property.importStyle.groupPath

def text : DefinitionFault → String
  | .unknownGroup key => s!"unknown property group '{key}'"
  | .notTable _ found => s!"expected a table, found {found.kind}"
  | .unknownField g key =>
    "unknown field `" ++ key ++ "`, " ++ choiceText (g.properties.map Property.field)
  | .notText _ found => s!"invalid type: {found.shown}, expected a string"
  | .notFlag _ found => s!"invalid type: {found.shown}, expected a boolean"
  | .notStyle fault => fault.text

end DefinitionFault

namespace LanguageError

def message : LanguageError → String
  | .unknownLanguage name => s!"unknown language '{name}'"
  | .unreadable language => s!"failed to parse definition of language '{language}'"
  | .invalidGroup language fault =>
    s!"invalid '{fault.place}' properties for language '{language}': {fault.text}"
  | .incomplete language unset => s!"language '{language}' is missing {unset.length} properties"

def code : LanguageError → String
  | .unknownLanguage _ => "glossa::unknown_language"
  | .unreadable _ => "glossa::parse_error"
  | .invalidGroup _ _ => "glossa::invalid_group"
  | .incomplete _ _ => "glossa::incomplete_language"

def help : LanguageError → Option String
  | .unknownLanguage _ => some "built-in languages are: csharp, javascript, python, ruby"
  | .unreadable _ => none
  | .invalidGroup _ fault => some s!"check the keys and value types of the [{fault.place}] table"
  | .incomplete _ unset =>
    some ("every property a command may read must be defined: " ++
      Text.join ", " (unset.map Property.path))

end LanguageError

def Language.validate (l : Language) : Except LanguageError Unit :=
  match l.unset with
  | [] => .ok ()
  | unset => .error (.incomplete l.name unset)

end Phrasebook
