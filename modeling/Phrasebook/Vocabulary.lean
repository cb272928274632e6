import Phrasebook.Command
import Phrasebook.Property

/-! Vocabularies: the arguments that have to be one of a few words. -/
namespace Phrasebook

inductive Vocabulary where
  | truth
  | privacy
  | operators
deriving DecidableEq, Repr

namespace Vocabulary

def words : Vocabulary → List String
  | .truth => ["true", "false"]
  | .privacy => ["public", "protected", "private"]
  | .operators => Operator.all.map Operator.name

def command : Vocabulary → Command
  | .truth => .boolean
  | .privacy => .memberVariable
  | .operators => .operation

def parameter : Vocabulary → String
  | .truth => "value"
  | .privacy => "privacy"
  | .operators => "operator"

def expected : Vocabulary → String
  | .truth => "'true' or 'false'"
  | .privacy => "'public', 'protected' or 'private'"
  | .operators => "an operator name such as 'plus' or 'equal to'"

def truthKeyword? (word : String) : Option Fragment :=
  if word = "true" then some .booleanTrueKeyword
  else if word = "false" then some .booleanFalseKeyword
  else none

def privacyMark? (word : String) : Option Fragment :=
  if word = "public" then some .memberVariablePublicMark
  else if word = "protected" then some .memberVariableProtectedMark
  else if word = "private" then some .memberVariablePrivateMark
  else none

end Vocabulary

end Phrasebook
