import ScriptTree.Node

/-!
# JavaScript programs

The expressions and statements that a tree can be made into. A comment stands among the statements.
-/

namespace ScriptTree.JavaScript
set_option autoImplicit false
open Number

/-- Operators before an operand. -/
inductive UnaryOp where
  | minus
  | plus
  | not
  | complement
  | typeof
  | void
  | delete
deriving DecidableEq, Repr

/-- Operators between two operands. -/
inductive BinaryOp where
  | add
  | subtract
  | multiply
  | divide
  | remainder
  | power
  | strictEqual
  | strictUnequal
  | equal
  | unequal
  | less
  | lessEqual
  | greater
  | greaterEqual
  | bitOr
  | bitAnd
  | shiftLeft
  | shiftRight
  | shiftRightZero
  | isIn
  | instanceOf
  | and
  | or
  | coalesce
deriving DecidableEq, Repr

namespace UnaryOp

/-- The text of an operator. -/
def symbol : UnaryOp → String
  | .minus => "-"
  | .plus => "+"
  | .not => "!"
  | .complement => "~"
  | .typeof => "typeof"
  | .void => "void"
  | .delete => "delete"

/-- All operators. -/
def all : List UnaryOp :=
  [.minus, .plus, .not, .complement, .typeof, .void, .delete]

/-- The operator with a text. -/
def ofSymbol? (s : String) : Option UnaryOp :=
  all.find? fun op => op.symbol == s

/-- An operator that is a word. -/
def isWord : UnaryOp → Bool
  | .typeof | .void | .delete => true
  | _ => false

end UnaryOp

namespace BinaryOp

/-- The text of an operator. -/
def symbol : BinaryOp → String
  | .add => "+"
  | .subtract => "-"
  | .multiply => "*"
  | .divide => "/"
  | .remainder => "%"
  | .power => "**"
  | .strictEqual => "==="
  | .strictUnequal => "!=="
  | .equal => "=="
  | .unequal => "!="
  | .less => "<"
  | .lessEqual => "<="
  | .greater => ">"
  | .greaterEqual => ">="
  | .bitOr => "|"
  | .bitAnd => "&"
  | .shiftLeft => "<<"
  | .shiftRight => ">>"
  | .shiftRightZero => ">>>"
  | .isIn => "in"
  | .instanceOf => "instanceof"
  | .and => "&&"
  | .or => "||"
  | .coalesce => "??"

/-- All operators. -/
def all : List BinaryOp :=
  [.add, .subtract, .multiply, .divide, .remainder, .power, .strictEqual, .strictUnequal, .equal,
    .unequal, .less, .lessEqual, .greater, .greaterEqual, .bitOr, .bitAnd, .shiftLeft,
    .shiftRight, .shiftRightZero, .isIn, .instanceOf, .and, .or, .coalesce]

/-- The operator with a text. -/
def ofSymbol? (s : String) : Option BinaryOp :=
  all.find? fun op => op.symbol == s

/-- An operator that may leave its right operand alone. -/
def isLogical : BinaryOp → Bool
  | .and | .or | .coalesce => true
  | _ => false

end BinaryOp

/-- A property of an object, by the form of its key. -/
inductive Field (α : Type) where
  /-- A key that is a name. -/
  | named (name : String) (value : α) (shorthand : Bool)
  /-- Another key that is written out. -/
  | written (key value : α)
  /-- A key that is computed. -/
  | computed (key value : α)

/-- An expression. -/
inductive Expr where
  | identifier (name : String)
  | null
  | bool (b : Bool)
  | number (x : Binary64)
  | string (s : String)
  | call (callee : Expr) (arguments : List Expr)
  | dot (owner : Expr) (name : String)
  | index (owner property : Expr)
  | arrow (params : List String) (body : Expr)
  | binary (op : BinaryOp) (left right : Expr)
  | unary (op : UnaryOp) (argument : Expr)
  | conditional (test consequent alternate : Expr)
  | array (elements : List Expr)
  | object (fields : List (Field Expr))

/-- A statement. -/
inductive Stmt where
  | expression (e : Expr)
  | declaration (kind : DeclarationWord) (bindings : List (String × Expr))
  | block (body : List Stmt)
  | comment (c : Comment)

mutual

/-- The comments of a statement, in order. -/
def Stmt.comments : Stmt → List Comment
  | .block body => Stmt.allComments body
  | .comment c => [c]
  | _ => []

/-- The comments of a list of statements, in order. -/
def Stmt.allComments : List Stmt → List Comment
  | [] => []
  | s :: rest => s.comments ++ Stmt.allComments rest

end

end ScriptTree.JavaScript
