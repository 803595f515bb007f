import ScriptTree.Json.Value
import ScriptTree.Text.Quoted

/-!
# Values that do not fit

A JSON value is read as a record, a name out of a list, a text, and so on. A `Mismatch` says why a
value does not fit; `Mismatch.message` has the wording.
-/

namespace ScriptTree.Json
set_option autoImplicit false
open Number

/-- What a value is, as a message shows it. -/
inductive Found where
  | null
  | bool (b : Bool)
  | integer (n : Int)
  | real (x : Binary64)
  | string (s : String)
  | sequence
  | map

/-- What a value should have been. -/
inductive Expected where
  | string
  | bool
  | byte
  | unit
  | sequence
  | map
  | singleKeyMap
  | stringOrMap
  | record (name : String)

/-- How many elements a sequence should have had. -/
inductive ExpectedLength where
  | fields (record : String) (count : Nat)
  | elements (count : Nat)

/-- Why a value does not fit. -/
inductive Mismatch where
  | wrongType (found : Found) (expected : Expected)
  | wrongValue (found : Found) (expected : Expected)
  | wrongLength (length : Nat) (expected : ExpectedLength)
  | missingField (name : String)
  | duplicateField (name : String)
  | unknownName (name : String) (choices : List String)
  | missingNodeType
  | unknownNodeType (name : String)
  | noLiteral

/-- What a value is. -/
def found : Json → Found
  | null => .null
  | bool b => .bool b
  | integer n => .integer n
  | real x => .real x
  | string s => .string s
  | array _ => .sequence
  | object _ => .map

/-- How a message shows what a value is. -/
def Found.describe : Found → String
  | .null => "null"
  | .bool b => s!"boolean `{b}`"
  | .integer n => "integer `" ++ String.ofList (integerText n) ++ "`"
  | .real x => "floating point `" ++ String.ofList (realText x) ++ "`"
  | .string s => "string " ++ Text.quoted s
  | .sequence => "sequence"
  | .map => "map"

/-- How a message says what a value should have been. -/
def Expected.describe : Expected → String
  | .string => "a string"
  | .bool => "a boolean"
  | .byte => "u8"
  | .unit => "unit"
  | .sequence => "a sequence"
  | .map => "a map"
  | .singleKeyMap => "map with a single key"
  | .stringOrMap => "string or map"
  | .record name => "struct " ++ name

/-- How a message says how many elements a sequence should have had. -/
def ExpectedLength.describe : ExpectedLength → String
  | .fields record count => s!"struct {record} with {count} elements"
  | .elements count => s!"{count} elements in sequence"

/-- The names that could have stood in the place of an unknown one. -/
def choicesText (choices : List String) : String :=
  match choices.map fun c => "`" ++ c ++ "`" with
  | [a] => "expected " ++ a
  | [a, b] => "expected " ++ a ++ " or " ++ b
  | names => "expected one of " ++ String.intercalate ", " names

/-- The wording of a mismatch. -/
def Mismatch.message : Mismatch → String
  | .wrongType found expected => s!"invalid type: {found.describe}, expected {expected.describe}"
  | .wrongValue found expected => s!"invalid value: {found.describe}, expected {expected.describe}"
  | .wrongLength length expected => s!"invalid length {length}, expected {expected.describe}"
  | .missingField name => s!"missing field `{name}`"
  | .duplicateField name => s!"duplicate field `{name}`"
  | .unknownName name choices => s!"unknown variant `{name}`, {choicesText choices}"
  | .missingNodeType => "node is missing a string `type` field"
  | .unknownNodeType name =>
    "unknown node type " ++ Text.quoted name ++ " (comments need a string `value`)"
  | .noLiteral => "data did not match any variant of untagged enum LiteralValue"

end ScriptTree.Json
