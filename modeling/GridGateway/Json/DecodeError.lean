import GridGateway.Decimal.Shortest
import GridGateway.Json.Draft
import GridGateway.Text.Integer
import GridGateway.Text.Quoted

/-!
# Refused documents

The reasons for which a document does not fit a type. A document whose text is at fault is malformed and has no
further text; all other reasons name what was found and what was expected.
-/

namespace GridGateway.Json

/-- What was found in a place where something else was expected. -/
inductive Found where
  | null
  | bool (b : Bool)
  | int (n : Int)
  | float (x : Float)
  | str (s : String)
  | sequence
  | map

/-- The words for what was found. -/
def Found.describe : Found → String
  | .null => "null"
  | .bool true => "boolean `true`"
  | .bool false => "boolean `false`"
  | .int n => "integer `" ++ Text.signedDecimal n ++ "`"
  | .float x => "floating point `" ++ Decimal.shortestText x ++ "`"
  | .str s => "string " ++ Text.quoted s
  | .sequence => "sequence"
  | .map => "map"

/-- Why a document was refused. -/
inductive DecodeError where
  /-- The text is no document, or its form rules out every value of the type. -/
  | malformed
  /-- A value of another kind than expected. -/
  | invalidType (found : Found) (expected : String)
  /-- A value of the right kind outside the range expected. -/
  | invalidValue (found : Found) (expected : String)
  /-- A list with the wrong number of items. -/
  | invalidLength (length : Nat) (expected : String)
  /-- A word outside a closed vocabulary. -/
  | unknownVariant (word : String) (expected : List String)
  /-- A member that must be there is absent. -/
  | missingField (name : String)
  /-- A member is there twice. -/
  | duplicateField (name : String)
  /-- A contract whose kind is none of the known ones. -/
  | unknownContractKind (word : String)
  /-- A contract whose details do not fit its kind. -/
  | contractDetails (kind : String) (reason : DecodeError)

/-- A list of words to choose from. -/
def oneOf : List String → String
  | [] => ""
  | [a] => "`" ++ a ++ "`"
  | [a, b] => "`" ++ a ++ "` or `" ++ b ++ "`"
  | words => "one of " ++ ", ".intercalate (words.map fun w => "`" ++ w ++ "`")

namespace DecodeError

/-- The text of a refusal; a malformed document has none. -/
def message : DecodeError → String
  | malformed => ""
  | invalidType found expected => "invalid type: " ++ found.describe ++ ", expected " ++ expected
  | invalidValue found expected => "invalid value: " ++ found.describe ++ ", expected " ++ expected
  | invalidLength length expected => "invalid length " ++ Text.decimal length ++ ", expected " ++ expected
  | unknownVariant word expected => "unknown variant `" ++ word ++ "`, expected " ++ oneOf expected
  | missingField name => "missing field `" ++ name ++ "`"
  | duplicateField name => "duplicate field `" ++ name ++ "`"
  | unknownContractKind word => "unknown contract type " ++ Text.quoted word
  | contractDetails kind reason => "invalid " ++ kind ++ " contract details: " ++ reason.message

/-- Whether the text itself is at fault. -/
def isMalformed : DecodeError → Bool
  | malformed => true
  | _ => false

end DecodeError

end GridGateway.Json
