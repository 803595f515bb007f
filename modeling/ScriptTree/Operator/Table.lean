import ScriptTree.Dictionary
import ScriptTree.Node.Names

/-!
# Operator tables

A table gives, for the token of an operator, how tightly it binds, to which side it groups, and
the type of its result. The rows are ordered by token.
-/

namespace ScriptTree
set_option autoImplicit false

/-- The side to which equal operators group. -/
inductive Associativity where
  | left
  | right
deriving DecidableEq, Repr

instance : Named Associativity where
  word
    | .left => "left"
    | .right => "right"
  all := [.left, .right]

/-- A row of a table. -/
structure OperatorRow where
  precedence : UInt8
  associativity : Associativity
  resultType : ValueType
deriving DecidableEq

/-- The rows of a table under their tokens. -/
abbrev OperatorTable : Type := Dictionary OperatorRow

namespace OperatorTable

/-- The built-in table. -/
def standard : OperatorTable :=
  .ofEntries
    [("^", ⟨8, .right, .number⟩),
      ("*", ⟨7, .left, .number⟩), ("/", ⟨7, .left, .number⟩), ("%", ⟨7, .left, .number⟩),
      ("+", ⟨6, .left, .number⟩), ("-", ⟨6, .left, .number⟩), ("++", ⟨6, .left, .string⟩),
      ("<", ⟨5, .left, .bool⟩), ("<=", ⟨5, .left, .bool⟩),
      (">", ⟨5, .left, .bool⟩), (">=", ⟨5, .left, .bool⟩),
      ("==", ⟨4, .left, .bool⟩), ("!=", ⟨4, .left, .bool⟩),
      ("===", ⟨4, .left, .bool⟩), ("!==", ⟨4, .left, .bool⟩),
      ("&&", ⟨3, .left, .bool⟩), ("||", ⟨2, .left, .bool⟩)]

/-- The type of an operator's result. -/
def resultType? (t : OperatorTable) (token : String) : Option ValueType :=
  (t.get? token).map OperatorRow.resultType

end OperatorTable

end ScriptTree
