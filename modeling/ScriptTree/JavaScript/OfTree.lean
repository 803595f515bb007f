import ScriptTree.JavaScript.Program

/-!
# The program of a tree

`programOfTree` gives the statements of the program that a tree stands for. Wrappers inside of an
expression do not count. The parts of a node are taken in the order in which they are written, and
the first fault is reported.
-/

namespace ScriptTree.JavaScript
set_option autoImplicit false

/-- The places where a name has to stand. -/
inductive Role where
  | declarator
  | dottedProperty
  | parameter
deriving DecidableEq, Repr

/-- How a message calls a place. -/
def Role.describe : Role → String
  | .declarator => "declarator id"
  | .dottedProperty => "dotted member property"
  | .parameter => "parameter"

/-- Why a tree is no program. -/
inductive ProgramFault where
  | nestedProgram
  | notExpression (typeName : String)
  | notIdentifier (role : Role) (typeName : String)
  | unknownBinary (operator : String)
  | unknownUnary (operator : String)
deriving DecidableEq

/-- The wording of a fault. -/
def ProgramFault.message : ProgramFault → String
  | .nestedProgram => "Program can only appear at the root"
  | .notExpression typeName => s!"{typeName} cannot appear in expression position"
  | .notIdentifier role typeName =>
    s!"{role.describe} must be an Identifier, found {typeName}"
  | .unknownBinary operator => s!"unsupported binary operator `{operator}`"
  | .unknownUnary operator => s!"unsupported unary operator `{operator}`"

/-- A part of a program, or the fault of the tree. -/
abbrev Checked (α : Type) : Type := Except ProgramFault α

/-- The name that a node is, but for one wrapper. -/
def nameOfNode (role : Role) (n : Node) : Checked String :=
  match n.unwrap.identifierName? with
  | some name => .ok name
  | none => .error (.notIdentifier role n.typeName)

/-- The names that nodes are. -/
def namesOfNodes (role : Role) : List Node → Checked (List String)
  | [] => .ok []
  | n :: rest => do return (← nameOfNode role n) :: (← namesOfNodes role rest)

/-- The operator with a text between two operands. -/
def BinaryOp.ofOperator (operator : String) : Checked BinaryOp :=
  match BinaryOp.ofSymbol? operator with
  | some op => .ok op
  | none => .error (.unknownBinary operator)

/-- The operator with a text before an operand. -/
def UnaryOp.ofOperator (operator : String) : Checked UnaryOp :=
  match UnaryOp.ofSymbol? operator with
  | some op => .ok op
  | none => .error (.unknownUnary operator)

/-- The expression of a literal. -/
def Expr.ofScalar : Scalar → Expr
  | .null => .null
  | .bool b => .bool b
  | .number x => .number x
  | .string s => .string s

/-- The name that a key is, unless it is computed. -/
def staticKey? (key : Node) (computed : Bool) : Option String :=
  if computed then none else key.unwrap.identifierName?

mutual

/-- The expression of a node. -/
def Expr.ofNode : Node → Checked Expr
  | .statement e => Expr.ofNode e
  | .identifier name => .ok (.identifier name)
  | .literal value _ _ => .ok (Expr.ofScalar value)
  | .call callee arguments _ _ => do return .call (← Expr.ofNode callee) (← Expr.ofNodes arguments)
  | .member computed owner property => do
    let owner ← Expr.ofNode owner
    if computed then return .index owner (← Expr.ofNode property)
    else return .dot owner (← nameOfNode .dottedProperty property)
  | .arrow _ params body _ _ => do
    return .arrow (← namesOfNodes .parameter params) (← Expr.ofNode body)
  | .binary operator _ left right => do
    let left ← Expr.ofNode left
    let right ← Expr.ofNode right
    return .binary (← BinaryOp.ofOperator operator) left right
  | .unary operator argument _ => do
    return .unary (← UnaryOp.ofOperator operator) (← Expr.ofNode argument)
  | .conditional test consequent alternate => do
    return .conditional (← Expr.ofNode test) (← Expr.ofNode consequent) (← Expr.ofNode alternate)
  | .array elements => do return .array (← Expr.ofNodes elements)
  | .object properties => do return .object (← Field.ofProperties properties)
  | .program body sourceType => .error (.notExpression (Node.program body sourceType).typeName)
  | .declaration ds kind => .error (.notExpression (Node.declaration ds kind).typeName)
  | .block body => .error (.notExpression (Node.block body).typeName)
  | .comment c => .error (.notExpression (Node.comment c).typeName)

/-- The expressions of nodes. -/
def Expr.ofNodes : List Node → Checked (List Expr)
  | [] => .ok []
  | n :: rest => do return (← Expr.ofNode n) :: (← Expr.ofNodes rest)

/-- The fields of properties. -/
def Field.ofProperties : List (Property Node) → Checked (List (Field Expr))
  | [] => .ok []
  | ⟨key, computed, value, _, _, shorthand⟩ :: rest => do
    let field ← match staticKey? key computed with
      | some name => do pure (Field.named name (← Expr.ofNode value) shorthand)
      | none => do
        let key ← Expr.ofNode key
        let value ← Expr.ofNode value
        pure (if computed then Field.computed key value else Field.written key value)
    return field :: (← Field.ofProperties rest)

end

/-- The bindings of declarators. -/
def bindingsOfDeclarators : List (Declarator Node) → Checked (List (String × Expr))
  | [] => .ok []
  | ⟨id, init⟩ :: rest => do
    let name ← nameOfNode .declarator id
    let init ← Expr.ofNode init
    return (name, init) :: (← bindingsOfDeclarators rest)

mutual

/-- The statement of a node. -/
def Stmt.ofNode : Node → Checked Stmt
  | .declaration ds kind => do return .declaration kind (← bindingsOfDeclarators ds)
  | .block body => do return .block (← Stmt.ofNodes body)
  | .comment c => .ok (.comment c)
  | .program _ _ => .error .nestedProgram
  | n => do return .expression (← Expr.ofNode n)

/-- The statements of nodes. -/
def Stmt.ofNodes : List Node → Checked (List Stmt)
  | [] => .ok []
  | n :: rest => do return (← Stmt.ofNode n) :: (← Stmt.ofNodes rest)

end

/-- The statements of a tree: those of a program, or the tree as one statement. -/
def programOfTree : Node → Checked (List Stmt)
  | .program body _ => Stmt.ofNodes body
  | n => do return [← Stmt.ofNode n]

end ScriptTree.JavaScript
