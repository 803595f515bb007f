import ScriptTree.Number.Binary64

/-!
# Trees of a program

A `Node` is an expression, a statement, a comment or a whole program. A node may carry the type
that its value is known to have. An expression stands in the place of a statement with or without
a wrapper, `Node.statement`; the builders take off one wrapper and put on one.
-/

namespace ScriptTree
set_option autoImplicit false
open Number

/-- The type that the value of an expression is known to have. -/
inductive ValueType where
  | number
  | string
  | bool
  | list
  | needsInference
deriving DecidableEq, Repr

/-- Whether a program is a script or a module. -/
inductive SourceType where
  | script
  | esModule
deriving DecidableEq, Repr

/-- The word that opens a declaration. -/
inductive DeclarationWord where
  | constWord
  | letWord
  | varWord
deriving DecidableEq, Repr

/-- What a property of an object defines. -/
inductive PropertyKind where
  | init
  | get
  | set
deriving DecidableEq, Repr

/-- The value of a literal. -/
inductive Scalar where
  | null
  | bool (b : Bool)
  | number (x : Binary64)
  | string (s : String)
deriving DecidableEq

/-- A comment; the kind is free, and `Line` is the only one with a meaning. -/
structure Comment where
  kind : String
  value : String
deriving DecidableEq

/-- A name with its first value. -/
structure Declarator (α : Type) where
  id : α
  init : α

/-- A property of an object. -/
structure Property (α : Type) where
  key : α
  computed : Bool
  value : α
  kind : PropertyKind
  method : Bool
  shorthand : Bool

/-- A node of a tree. -/
inductive Node where
  | program (body : List Node) (sourceType : SourceType)
  | statement (expression : Node)
  | call (callee : Node) (arguments : List Node) (sType : Option ValueType) (isPower : Bool)
  | member (computed : Bool) (owner property : Node)
  | identifier (name : String)
  | literal (value : Scalar) (raw : String) (sType : Option ValueType)
  | declaration (declarators : List (Declarator Node)) (kind : DeclarationWord)
  | arrow (id : Option Node) (params : List Node) (body : Node) (generator expression : Bool)
  | binary (operator : String) (sType : Option ValueType) (left right : Node)
  | unary (operator : String) (argument : Node) (before : Bool)
  | block (body : List Node)
  | conditional (test consequent alternate : Node)
  | array (elements : List Node)
  | object (properties : List (Property Node))
  | comment (c : Comment)

/-- The sorts of node whose JSON form has a fixed record. -/
inductive NodeType where
  | program
  | statement
  | call
  | member
  | identifier
  | literal
  | declaration
  | arrow
  | binary
  | unary
  | block
  | conditional
  | array
  | object
deriving DecidableEq, Repr

/-- The name of each sort of node. -/
def NodeType.name : NodeType → String
  | .program => "Program"
  | .statement => "ExpressionStatement"
  | .call => "CallExpression"
  | .member => "MemberExpression"
  | .identifier => "Identifier"
  | .literal => "Literal"
  | .declaration => "VariableDeclaration"
  | .arrow => "ArrowFunctionExpression"
  | .binary => "BinaryExpression"
  | .unary => "UnaryExpression"
  | .block => "BlockStatement"
  | .conditional => "ConditionalExpression"
  | .array => "ArrayExpression"
  | .object => "ObjectExpression"

/-- All sorts of node. -/
def NodeType.all : List NodeType :=
  [.program, .statement, .call, .member, .identifier, .literal, .declaration, .arrow, .binary,
    .unary, .block, .conditional, .array, .object]

/-- The sort of node that has a name. -/
def NodeType.ofName? (name : String) : Option NodeType :=
  NodeType.all.find? fun t => t.name == name

namespace Node

/-- The sort of a node; a comment has none. -/
def nodeType? : Node → Option NodeType
  | .program _ _ => some .program
  | .statement _ => some .statement
  | .call _ _ _ _ => some .call
  | .member _ _ _ => some .member
  | .identifier _ => some .identifier
  | .literal _ _ _ => some .literal
  | .declaration _ _ => some .declaration
  | .arrow _ _ _ _ _ => some .arrow
  | .binary _ _ _ _ => some .binary
  | .unary _ _ _ => some .unary
  | .block _ => some .block
  | .conditional _ _ _ => some .conditional
  | .array _ => some .array
  | .object _ => some .object
  | .comment _ => none

/-- The name of a node's sort; for a comment, its kind. -/
def typeName : Node → String
  | .comment c => c.kind
  | n => (n.nodeType?.map NodeType.name).getD ""

/-- The node without one wrapper. -/
def unwrap : Node → Node
  | .statement e => e
  | n => n

/-- Whether the node is a wrapper. -/
def isWrapped : Node → Bool
  | .statement _ => true
  | _ => false

/-- The type that a node carries. -/
def sType? : Node → Option ValueType
  | .literal _ _ t => t
  | .call _ _ t _ => t
  | .binary _ t _ _ => t
  | _ => none

/-- The name of an identifier. -/
def identifierName? : Node → Option String
  | .identifier name => some name
  | _ => none

/-- The word that opens a declaration. -/
def declarationWord? : Node → Option DeclarationWord
  | .declaration _ kind => some kind
  | _ => none

end Node

/-- Equality of literals; numbers are equal as numbers. -/
def Scalar.same : Scalar → Scalar → Bool
  | .null, .null => true
  | .bool a, .bool b => a == b
  | .number x, .number y => x.same y
  | .string s, .string t => s == t
  | _, _ => false

mutual

/-- Equality of nodes; the numbers in them are equal as numbers. -/
def Node.same (n m : Node) : Bool :=
  match n with
  | .program b s => match m with
    | .program b' s' => Node.sameAll b b' && s == s'
    | _ => false
  | .statement e => match m with
    | .statement e' => e.same e'
    | _ => false
  | .call c a t p => match m with
    | .call c' a' t' p' => c.same c' && Node.sameAll a a' && t == t' && p == p'
    | _ => false
  | .member c o p => match m with
    | .member c' o' p' => c == c' && o.same o' && p.same p'
    | _ => false
  | .identifier i => match m with
    | .identifier i' => i == i'
    | _ => false
  | .literal v r t => match m with
    | .literal v' r' t' => v.same v' && r == r' && t == t'
    | _ => false
  | .declaration ds k => match m with
    | .declaration ds' k' => Node.sameDeclarators ds ds' && k == k'
    | _ => false
  | .arrow none ps b g e => match m with
    | .arrow none ps' b' g' e' => Node.sameAll ps ps' && b.same b' && g == g' && e == e'
    | _ => false
  | .arrow (some i) ps b g e => match m with
    | .arrow (some i') ps' b' g' e' =>
      i.same i' && Node.sameAll ps ps' && b.same b' && g == g' && e == e'
    | _ => false
  | .binary o t l r => match m with
    | .binary o' t' l' r' => o == o' && t == t' && l.same l' && r.same r'
    | _ => false
  | .unary o a b => match m with
    | .unary o' a' b' => o == o' && a.same a' && b == b'
    | _ => false
  | .block b => match m with
    | .block b' => Node.sameAll b b'
    | _ => false
  | .conditional t c a => match m with
    | .conditional t' c' a' => t.same t' && c.same c' && a.same a'
    | _ => false
  | .array es => match m with
    | .array es' => Node.sameAll es es'
    | _ => false
  | .object ps => match m with
    | .object ps' => Node.sameProperties ps ps'
    | _ => false
  | .comment c => match m with
    | .comment c' => c == c'
    | _ => false

/-- Equality of lists of nodes. -/
def Node.sameAll : List Node → List Node → Bool
  | [], [] => true
  | n :: ns, n' :: ns' => n.same n' && Node.sameAll ns ns'
  | _, _ => false

/-- Equality of lists of declarators. -/
def Node.sameDeclarators : List (Declarator Node) → List (Declarator Node) → Bool
  | [], [] => true
  | ⟨i, v⟩ :: ds, ⟨i', v'⟩ :: ds' => i.same i' && v.same v' && Node.sameDeclarators ds ds'
  | _, _ => false

/-- Equality of lists of properties. -/
def Node.sameProperties : List (Property Node) → List (Property Node) → Bool
  | [], [] => true
  | ⟨k, c, v, d, m, s⟩ :: ps, ⟨k', c', v', d', m', s'⟩ :: ps' =>
    k.same k' && c == c' && v.same v' && d == d' && m == m' && s == s' &&
      Node.sameProperties ps ps'
  | _, _ => false

end

instance : BEq Node := ⟨Node.same⟩

end ScriptTree
