import ScriptTree.Operator.Table
import ScriptTree.Node.Encode
import ScriptTree.Text.Blank

/-!
# Listings of an operator table

A table is written as a JSON object with a member for each token, or as lines of columns.
-/

namespace ScriptTree
set_option autoImplicit false

/-- The JSON form of a row. -/
def OperatorRow.toJson (info : OperatorRow) : Json :=
  .object [("precedence", .integer info.precedence.toNat),
    ("associativity", wordJson info.associativity), ("type", wordJson info.resultType)]

/-- A text followed by spaces up to a width, counted in characters. -/
def padRight (width : Nat) (cs : List Char) : List Char :=
  cs ++ List.replicate (width - cs.length) ' '

/-- A text after spaces up to a width, counted in characters. -/
def padLeft (width : Nat) (cs : List Char) : List Char :=
  List.replicate (width - cs.length) ' ' ++ cs

/-- A line of the listing. -/
def listingLine (token precedence associativity type : List Char) : List Char :=
  padRight 6 token ++ ' ' :: padLeft 4 precedence ++ ' ' :: ' ' :: padRight 5 associativity ++
    ' ' :: ' ' :: type ++ ['\n']

/-- The line of a row. -/
def listingRow (token : String) (info : OperatorRow) : List Char :=
  listingLine token.toList (Text.decimalDigits info.precedence.toNat)
    (Named.word info.associativity).toList (Named.word info.resultType).toList

namespace OperatorTable

/-- The JSON form of a table. -/
def toJson (t : OperatorTable) : Json :=
  .object (t.entries.map fun (token, info) => (token, info.toJson))

/-- The JSON text of a table, indented. -/
def toText (t : OperatorTable) : String :=
  t.toJson.toIndented

/-- The listing of a table: a line of titles and a line for each row, without blanks at the end. -/
def listing (t : OperatorTable) : String :=
  String.ofList (Text.trimEnd
    (listingLine "token".toList "prec".toList "assoc".toList "type".toList ++
      t.entries.flatMap fun (token, info) => listingRow token info))

end OperatorTable

end ScriptTree
