import ScriptTree.JavaScript.Render

/-!
# What the text of a tree depends on

`Node.strip` takes off all that the text of a tree does not show: the types that nodes carry, the
raw texts of literals, and the wrappers. A wrapper stays where it can be seen. A statement keeps one
of them, and a node that has to be a name keeps all of its own, because such a node is looked at
through one wrapper and is called by the outermost one in a message. A tree is rendered, or refused
with a fault, as its stripped tree is: `Node.render_strip`.
-/

namespace ScriptTree
set_option autoImplicit false
open JavaScript

/-- The place of a node, which decides on its wrappers. -/
inductive Position where
  /-- A statement keeps its outermost wrapper. -/
  | statement
  /-- An expression keeps no wrapper. -/
  | expression
  /-- A declared name, a parameter, a dotted property or a key keeps its wrappers. -/
  | name
deriving DecidableEq, Repr

/-- The place of the property of a member. -/
def Position.ofProperty (computed : Bool) : Position :=
  if computed then .expression else .name

mutual

/-- The node without types, raw texts and flags, and with the wrappers that its place keeps. -/
def Node.stripAt (p : Position) : Node → Node
  | .statement e =>
    match p with
    | .statement => .statement (e.stripAt .expression)
    | .expression => e.stripAt .expression
    | .name => .statement (e.stripAt .name)
  | .program body _ => .program (stripAll .statement body) .script
  | .call callee arguments _ _ =>
    .call (callee.stripAt .expression) (stripAll .expression arguments) none false
  | .member computed owner property =>
    .member computed (owner.stripAt .expression) (property.stripAt (.ofProperty computed))
  | .identifier name => .identifier name
  | .literal value _ _ => .literal value "" none
  | .declaration ds kind => .declaration (stripDeclarators ds) kind
  | .arrow _ params body _ _ =>
    .arrow none (stripAll .name params) (body.stripAt .expression) false true
  | .binary operator _ left right =>
    .binary operator none (left.stripAt .expression) (right.stripAt .expression)
  | .unary operator argument _ => .unary operator (argument.stripAt .expression) true
  | .block body => .block (stripAll .statement body)
  | .conditional test consequent alternate =>
    .conditional (test.stripAt .expression) (consequent.stripAt .expression)
      (alternate.stripAt .expression)
  | .array elements => .array (stripAll .expression elements)
  | .object properties => .object (stripProperties properties)
  | .comment c => .comment c

/-- The same for the nodes of a list, which all stand in one sort of place. -/
def Node.stripAll (p : Position) : List Node → List Node
  | [] => []
  | n :: rest => n.stripAt p :: stripAll p rest

/-- The same for declarators. -/
def Node.stripDeclarators : List (Declarator Node) → List (Declarator Node)
  | [] => []
  | ⟨id, init⟩ :: rest => ⟨id.stripAt .name, init.stripAt .expression⟩ :: stripDeclarators rest

/-- The same for properties. -/
def Node.stripProperties : List (Property Node) → List (Property Node)
  | [] => []
  | ⟨key, computed, value, kind, method, shorthand⟩ :: rest =>
    ⟨key.stripAt .name, computed, value.stripAt .expression, kind, method, shorthand⟩ ::
      stripProperties rest

end

/-- The tree without all that its text does not show. -/
def Node.strip (t : Node) : Node :=
  t.stripAt .statement

namespace JavaScript

/-! ## Names -/

theorem identifierName?_stripAt (n : Node) :
    (n.stripAt .name).identifierName? = n.identifierName? := by
  cases n <;> rfl

theorem identifierName?_unwrap_stripAt (n : Node) :
    (n.stripAt .name).unwrap.identifierName? = n.unwrap.identifierName? := by
  cases n with
  | statement e => exact identifierName?_stripAt e
  | _ => rfl

theorem typeName_stripAt (n : Node) : (n.stripAt .name).typeName = n.typeName := by
  cases n <;> rfl

theorem nameOfNode_stripAt (role : Role) (n : Node) :
    nameOfNode role (n.stripAt .name) = nameOfNode role n := by
  rw [nameOfNode, nameOfNode, identifierName?_unwrap_stripAt, typeName_stripAt]

theorem namesOfNodes_stripAll (role : Role) (ns : List Node) :
    namesOfNodes role (Node.stripAll .name ns) = namesOfNodes role ns := by
  induction ns with
  | nil => rfl
  | cons n rest ih => rw [Node.stripAll, namesOfNodes, namesOfNodes, nameOfNode_stripAt, ih]

theorem staticKey?_stripAt (key : Node) (computed : Bool) :
    staticKey? (key.stripAt .name) computed = staticKey? key computed := by
  rw [staticKey?, staticKey?, identifierName?_unwrap_stripAt]

/-! ## Expressions and statements -/

mutual

/-- An expression is read through all wrappers, so it does not matter which of them are kept. -/
theorem Expr.ofNode_stripAt (p : Position) (n : Node) :
    Expr.ofNode (n.stripAt p) = Expr.ofNode n := by
  cases n with
  | statement e => cases p <;> exact Expr.ofNode_stripAt _ e
  | identifier name => rfl
  | literal value raw sType => rfl
  | program body sourceType => rfl
  | declaration ds kind => rfl
  | block body => rfl
  | comment c => rfl
  | call callee arguments sType isPower =>
    rw [Node.stripAt, Expr.ofNode, Expr.ofNode, Expr.ofNode_stripAt .expression callee,
      Expr.ofNodes_stripAll .expression arguments]
  | member computed owner property =>
    rw [Node.stripAt, Expr.ofNode, Expr.ofNode, Expr.ofNode_stripAt .expression owner]
    cases computed with
    | true =>
      have inner := Expr.ofNode_stripAt .expression property
      simp only [Position.ofProperty, if_true, inner]
    | false => simp only [Position.ofProperty, Bool.false_eq_true, if_false, nameOfNode_stripAt]
  | arrow id params body generator expression =>
    rw [Node.stripAt, Expr.ofNode, Expr.ofNode, namesOfNodes_stripAll,
      Expr.ofNode_stripAt .expression body]
  | binary operator sType left right =>
    rw [Node.stripAt, Expr.ofNode, Expr.ofNode, Expr.ofNode_stripAt .expression left,
      Expr.ofNode_stripAt .expression right]
  | unary operator argument before =>
    rw [Node.stripAt, Expr.ofNode, Expr.ofNode, Expr.ofNode_stripAt .expression argument]
  | conditional test consequent alternate =>
    rw [Node.stripAt, Expr.ofNode, Expr.ofNode, Expr.ofNode_stripAt .expression test,
      Expr.ofNode_stripAt .expression consequent, Expr.ofNode_stripAt .expression alternate]
  | array elements =>
    rw [Node.stripAt, Expr.ofNode, Expr.ofNode, Expr.ofNodes_stripAll .expression elements]
  | object properties =>
    rw [Node.stripAt, Expr.ofNode, Expr.ofNode, Field.ofProperties_strip properties]

theorem Expr.ofNodes_stripAll (p : Position) (ns : List Node) :
    Expr.ofNodes (Node.stripAll p ns) = Expr.ofNodes ns := by
  cases ns with
  | nil => rfl
  | cons n rest =>
    rw [Node.stripAll, Expr.ofNodes, Expr.ofNodes, Expr.ofNode_stripAt p n,
      Expr.ofNodes_stripAll p rest]

theorem Field.ofProperties_strip (ps : List (Property Node)) :
    Field.ofProperties (Node.stripProperties ps) = Field.ofProperties ps := by
  match ps with
  | [] => rfl
  | ⟨key, computed, value, kind, method, shorthand⟩ :: rest =>
    rw [Node.stripProperties, Field.ofProperties, Field.ofProperties, staticKey?_stripAt,
      Expr.ofNode_stripAt .name key, Expr.ofNode_stripAt .expression value,
      Field.ofProperties_strip rest]

end

theorem bindingsOfDeclarators_strip (ds : List (Declarator Node)) :
    bindingsOfDeclarators (Node.stripDeclarators ds) = bindingsOfDeclarators ds := by
  induction ds with
  | nil => rfl
  | cons d rest ih =>
    rw [Node.stripDeclarators, bindingsOfDeclarators, bindingsOfDeclarators, nameOfNode_stripAt,
      Expr.ofNode_stripAt, ih]

mutual

theorem Stmt.ofNode_stripAt (n : Node) : Stmt.ofNode (n.stripAt .statement) = Stmt.ofNode n := by
  cases n with
  | declaration ds kind =>
    rw [Node.stripAt, Stmt.ofNode, Stmt.ofNode, bindingsOfDeclarators_strip]
  | block body => rw [Node.stripAt, Stmt.ofNode, Stmt.ofNode, Stmt.ofNodes_stripAll body]
  | comment c => rfl
  | program body sourceType => rfl
  | _ =>
    -- Any other node stays an expression, and its one wrapper is not looked at.
    exact congrArg (fun x => x >>= fun e => pure (Stmt.expression e))
      (Expr.ofNode_stripAt .statement _)

theorem Stmt.ofNodes_stripAll (ns : List Node) :
    Stmt.ofNodes (Node.stripAll .statement ns) = Stmt.ofNodes ns := by
  cases ns with
  | nil => rfl
  | cons n rest =>
    rw [Node.stripAll, Stmt.ofNodes, Stmt.ofNodes, Stmt.ofNode_stripAt n,
      Stmt.ofNodes_stripAll rest]

end

theorem programOfTree_strip (t : Node) : programOfTree t.strip = programOfTree t := by
  cases t with
  | program body sourceType => exact Stmt.ofNodes_stripAll body
  | _ => exact congrArg (fun x => x >>= fun s => pure [s]) (Stmt.ofNode_stripAt _)

end JavaScript

/-- **The text of a tree shows neither types nor wrappers.** A tree is rendered as its stripped tree
is, or refused with the same fault. -/
theorem Node.render_strip (t : Node) : t.strip.render = t.render := by
  rw [Node.render, Node.render, programOfTree_strip]

end ScriptTree
