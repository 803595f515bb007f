import ScriptTree.Build.Coercion
import ScriptTree.Operator.Table

/-!
# Templates

A template makes a node of nodes that are already built. A node that comes to stand inside of an
expression loses one wrapper, and an expression that is meant to stand as a statement gets one.
The templates for operators and calls depend on a `Vocabulary`: the operator table, and the names
that stand for a primitive of the host.
-/

namespace ScriptTree.Build
set_option autoImplicit false

/-- A primitive of the host. -/
inductive Primitive where
  | print
deriving DecidableEq, Repr

/-- The names that stand for primitives. -/
abbrev Primitives : Type := Dictionary Primitive

namespace Primitives

/-- The built-in names. -/
def standard : Primitives :=
  .ofEntries [("print", .print)]

/-- The primitive that a callee stands for; only a bare identifier stands for one. -/
def resolve? (t : Primitives) (callee : Node) : Option Primitive :=
  callee.identifierName?.bind t.get?

end Primitives

/-- What templates look up. -/
structure Vocabulary where
  operators : OperatorTable
  primitives : Primitives

/-- The built-in vocabulary. -/
def Vocabulary.standard : Vocabulary :=
  ⟨.standard, .standard⟩

/-- An operator that the table does not have. -/
structure UnknownOperator where
  token : String
deriving DecidableEq

/-! ## Literals and names -/

/-- A numeric literal. -/
def number (raw : String) : Node :=
  .literal (.number (toNumber raw)) raw (some .number)

/-- A truth value: only the text `false` is false. -/
def boolean (raw : String) : Node :=
  .literal (.bool (raw != "false")) raw (some .bool)

/-- A null, whose type is to be inferred. -/
def null (raw : String) : Node :=
  .literal .null raw (some .needsInference)

/-- A string. -/
def string (raw : String) : Node :=
  .literal (.string raw) raw (some .string)

/-- A name. -/
def identifier (name : String) : Node :=
  .identifier name

/-- A comment. -/
def comment (kind text : String) : Node :=
  .comment ⟨kind, text⟩

/-! ## Functions and declarations -/

/-- A function of one expression. -/
def arrow (params : List Node) (body : Node) : Node :=
  .arrow none params body.unwrap false true

/-- A constant with a value that is bare already. -/
def constant (id init : Node) : Node :=
  .declaration [⟨id, init⟩] .constWord

/-- A constant. -/
def declaration (id value : Node) : Node :=
  constant id value.unwrap

/-- A constant that is a function. -/
def functionDeclaration (id : Node) (params : List Node) (body : Node) : Node :=
  constant id (arrow params body)

/-- A function as a statement. -/
def lambda (params : List Node) (body : Node) : Node :=
  .statement (arrow params body)

/-- A function that is called at once; this is also a local binding. -/
def letIn (params arguments : List Node) (body : Node) : Node :=
  .call (arrow params body) (arguments.map Node.unwrap) none false

/-! ## Containers -/

/-- A program. -/
def program (body : List Node) : Node :=
  .program body .script

/-- A block. -/
def block (body : List Node) : Node :=
  .block body

/-- A list of values. -/
def array (elements : List Node) : Node :=
  .array elements

/-- A property under a key. -/
def property (key value : Node) : Property Node :=
  ⟨key, false, value.unwrap, .init, false, false⟩

/-- An object. -/
def object (properties : List (Property Node)) : Node :=
  .object properties

/-! ## Expressions -/

/-- Access to a property, by name or by the value of an expression. -/
def access (owner property : Node) (computed : Bool) : Node :=
  .statement (.member computed owner.unwrap property.unwrap)

/-- A choice between two expressions. -/
def conditional (test consequent alternate : Node) : Node :=
  .statement (.conditional test.unwrap consequent.unwrap alternate.unwrap)

/-- A member of a global object. -/
def globalMember (owner name : String) : Node :=
  .member false (.identifier owner) (.identifier name)

/-- A power. -/
def power (base exponent : Node) : Node :=
  .call (globalMember "Math" "pow") [base, exponent] (some .number) true

/-- Concatenation: of two strings a string, and otherwise a list. -/
def concat (left right : Node) : Node :=
  let sType : ValueType :=
    if left.sType? = some .string ∧ right.sType? = some .string then .string else .list
  .call (.member false left (.identifier "concat")) [right] (some sType) false

/-- The operator of the host for an operator token. -/
def hostOperator (token : String) : String :=
  match token with
  | "++" => "+"
  | "==" => "==="
  | "!=" => "!=="
  | token => token

/-- A binary operation, with the type that the table has for its result. -/
def binary (v : Vocabulary) (left : Node) (token : String) (right : Node) :
    Except UnknownOperator Node :=
  match v.operators.resultType? token with
  | none => .error ⟨token⟩
  | some t =>
    if token = "^" then .ok (power left.unwrap right.unwrap)
    else .ok (.binary (hostOperator token) (some t) left.unwrap right.unwrap)

/-- A unary operation. -/
def unary (operator : String) (argument : Node) : Node :=
  .unary operator argument.unwrap true

/-! ## Calls -/

/-- A statement that writes values to the console. -/
def consoleLog (arguments : List Node) : Node :=
  .statement (.call (globalMember "console" "log") arguments none false)

/-- A statement that prints values. -/
def print (arguments : List Node) : Node :=
  consoleLog (arguments.map Node.unwrap)

/-- A statement that reports a message when the program runs. -/
def complain (message : String) : Node :=
  consoleLog [.literal (.string message) message none]

/-- The node of a primitive. -/
def Primitive.build : Primitive → List Node → Node
  | .print => Build.print

/-- A call; a name that stands for a primitive becomes the node of the primitive. -/
def call (v : Vocabulary) (callee : Node) (arguments : List Node) : Node :=
  match v.primitives.resolve? callee with
  | some p => p.build arguments
  | none => .call callee.unwrap (arguments.map Node.unwrap) none false

end ScriptTree.Build

namespace ScriptTree.OperatorTable
set_option autoImplicit false

/-- The row of an operator that the table is expected to have. -/
def lookup (t : OperatorTable) (token : String) : Except Build.UnknownOperator OperatorRow :=
  match t.get? token with
  | some info => .ok info
  | none => .error ⟨token⟩

end ScriptTree.OperatorTable
