import ScriptTree.JavaScript.Render
import ScriptTree.Proofs.Except
import ScriptTree.Proofs.Node.Parts

/-!
# Trees that become programs

`Node.IsStatement` and `Node.IsExpression` say which trees stand for a statement and for an
expression: where a name has to stand, which operators there are, and what each sort of node may
hold. Just these trees become programs (`programOfTree_eq_ok_iff`); all others are refused.
-/

namespace ScriptTree
set_option autoImplicit false
open JavaScript

/-! ## Names, expressions and statements -/

namespace Node

/-- A node that can be declared: a name, with or without one wrapper. -/
inductive IsBinding : Node → Prop where
  | identifier (name : String) : IsBinding (.identifier name)
  | wrapped (name : String) : IsBinding (.statement (.identifier name))

/-- The operators between two operands. -/
def binaryOperators : List String :=
  ["+", "-", "*", "/", "%", "**", "===", "!==", "==", "!=", "<", "<=", ">", ">=", "|", "&", "<<",
    ">>", ">>>", "in", "instanceof", "&&", "||", "??"]

/-- The operators before an operand. -/
def unaryOperators : List String :=
  ["-", "+", "!", "~", "typeof", "void", "delete"]

/-- A node that stands for an expression. The name of an arrow function is not looked at. -/
inductive IsExpression : Node → Prop where
  | identifier (name : String) : IsExpression (.identifier name)
  | literal (value : Scalar) (raw : String) (sType : Option ValueType) :
    IsExpression (.literal value raw sType)
  | statement {e : Node} (inner : IsExpression e) : IsExpression (.statement e)
  | call {callee : Node} {arguments : List Node} (sType : Option ValueType) (isPower : Bool)
    (called : IsExpression callee) (each : ∀ n ∈ arguments, IsExpression n) :
    IsExpression (.call callee arguments sType isPower)
  | subscript {owner property : Node} (ofOwner : IsExpression owner)
    (ofProperty : IsExpression property) : IsExpression (.member true owner property)
  | dotted {owner property : Node} (ofOwner : IsExpression owner)
    (ofProperty : IsBinding property) : IsExpression (.member false owner property)
  | arrow {params : List Node} {body : Node} (id : Option Node) (generator expression : Bool)
    (each : ∀ n ∈ params, IsBinding n) (result : IsExpression body) :
    IsExpression (.arrow id params body generator expression)
  | binary {operator : String} {left right : Node} (sType : Option ValueType)
    (known : operator ∈ binaryOperators) (ofLeft : IsExpression left)
    (ofRight : IsExpression right) : IsExpression (.binary operator sType left right)
  | unary {operator : String} {argument : Node} (before : Bool)
    (known : operator ∈ unaryOperators) (ofArgument : IsExpression argument) :
    IsExpression (.unary operator argument before)
  | conditional {test consequent alternate : Node} (ofTest : IsExpression test)
    (ofConsequent : IsExpression consequent) (ofAlternate : IsExpression alternate) :
    IsExpression (.conditional test consequent alternate)
  | array {elements : List Node} (each : ∀ n ∈ elements, IsExpression n) :
    IsExpression (.array elements)
  | object {properties : List (Property Node)} (keys : ∀ p ∈ properties, IsExpression p.key)
    (values : ∀ p ∈ properties, IsExpression p.value) : IsExpression (.object properties)

/-- A node that stands for a statement. -/
inductive IsStatement : Node → Prop where
  | expression {n : Node} (inner : IsExpression n) : IsStatement n
  | comment (c : Comment) : IsStatement (.comment c)
  | declaration {ds : List (Declarator Node)} (kind : DeclarationWord)
    (names : ∀ d ∈ ds, IsBinding d.id) (values : ∀ d ∈ ds, IsExpression d.init) :
    IsStatement (.declaration ds kind)
  | block {body : List Node} (each : ∀ n ∈ body, IsStatement n) : IsStatement (.block body)

/-- A tree that stands for a program: a list of statements, or a single one. -/
inductive IsProgram : Node → Prop where
  | program {body : List Node} (sourceType : SourceType) (each : ∀ n ∈ body, IsStatement n) :
    IsProgram (.program body sourceType)
  | single {n : Node} (only : IsStatement n) : IsProgram n

end Node

namespace JavaScript
open Node

/-! ## Names and operators -/

theorem isBinding_iff (n : Node) :
    n.IsBinding ↔ ∃ name, n.unwrap.identifierName? = some name := by
  constructor
  · rintro (name | name) <;> exact ⟨name, rfl⟩
  · rintro ⟨name, found⟩
    cases n with
    | identifier name => exact .identifier name
    | statement e =>
      cases e with
      | identifier name => exact .wrapped name
      | _ => cases found
    | _ => cases found

theorem succeeds_nameOfNode (role : Role) (n : Node) :
    Succeeds (nameOfNode role n) ↔ n.IsBinding := by
  rw [isBinding_iff, ← Option.isSome_iff_exists]
  exact succeeds_iff_isSome (fun name found => by rw [nameOfNode, found])
    fun missing => ⟨_, by rw [nameOfNode, missing]⟩

theorem namesOfNodes_eq_mapM (role : Role) (ns : List Node) :
    namesOfNodes role ns = ns.mapM (nameOfNode role) := by
  induction ns with
  | nil => rfl
  | cons n rest ih => rw [namesOfNodes, ih, List.mapM_cons]

theorem succeeds_namesOfNodes (role : Role) (ns : List Node) :
    Succeeds (namesOfNodes role ns) ↔ ∀ n ∈ ns, n.IsBinding := by
  simp only [namesOfNodes_eq_mapM, succeeds_mapM_iff, succeeds_nameOfNode]

theorem isSome_find?_symbol {α : Type} (symbol : α → String) (all : List α) (s : String) :
    (all.find? fun op => symbol op == s).isSome = true ↔ s ∈ all.map symbol := by
  simp [List.find?_isSome]

theorem succeeds_binaryOp (operator : String) :
    Succeeds (BinaryOp.ofOperator operator) ↔ operator ∈ binaryOperators := by
  have symbols : binaryOperators = BinaryOp.all.map BinaryOp.symbol := rfl
  rw [symbols, ← isSome_find?_symbol]
  exact succeeds_iff_isSome
    (fun op found => by rw [BinaryOp.ofOperator, BinaryOp.ofSymbol?, found])
    fun missing => ⟨_, by rw [BinaryOp.ofOperator, BinaryOp.ofSymbol?, missing]⟩

theorem succeeds_unaryOp (operator : String) :
    Succeeds (UnaryOp.ofOperator operator) ↔ operator ∈ unaryOperators := by
  have symbols : unaryOperators = UnaryOp.all.map UnaryOp.symbol := rfl
  rw [symbols, ← isSome_find?_symbol]
  exact succeeds_iff_isSome
    (fun op found => by rw [UnaryOp.ofOperator, UnaryOp.ofSymbol?, found])
    fun missing => ⟨_, by rw [UnaryOp.ofOperator, UnaryOp.ofSymbol?, missing]⟩

/-! ## Expressions -/

theorem ofNodes_eq_mapM (ns : List Node) : Expr.ofNodes ns = ns.mapM Expr.ofNode := by
  induction ns with
  | nil => rfl
  | cons n rest ih => rw [Expr.ofNodes, ih, List.mapM_cons]

theorem succeeds_ofNodes (ns : List Node) :
    Succeeds (Expr.ofNodes ns) ↔ ∀ n ∈ ns, Succeeds (Expr.ofNode n) := by
  rw [ofNodes_eq_mapM, succeeds_mapM_iff]

/-- A key that is a name is an expression, so the form of a field does not matter. -/
theorem succeeds_ofNode_of_staticKey? {key : Node} {computed : Bool} {name : String}
    (static : staticKey? key computed = some name) : Succeeds (Expr.ofNode key) := by
  unfold staticKey? at static
  split at static
  · cases static
  · rcases (isBinding_iff key).2 ⟨name, static⟩ with name | name
    · exact succeeds_ok _
    · exact succeeds_ok _

theorem succeeds_ofProperties (ps : List (Property Node)) :
    Succeeds (Field.ofProperties ps) ↔
      (∀ p ∈ ps, Succeeds (Expr.ofNode p.key)) ∧ ∀ p ∈ ps, Succeeds (Expr.ofNode p.value) := by
  induction ps with
  | nil => exact iff_of_true (succeeds_ok []) ⟨List.forall_mem_nil _, List.forall_mem_nil _⟩
  | cons p rest ih =>
    obtain ⟨key, computed, value, kind, method, shorthand⟩ := p
    rw [Field.ofProperties, List.forall_mem_cons, List.forall_mem_cons]
    split
    · rename_i static
      have isKey := succeeds_ofNode_of_staticKey? static
      simp only [pure_bind]
      rw [succeeds_bind_iff fun _ => succeeds_bind_pure, ih]
      simp only [isKey, true_and, and_left_comm]
    · simp only [pure_bind]
      rw [succeeds_bind_iff fun _ => succeeds_bind_iff fun _ => succeeds_bind_pure, ih]
      simp only [and_assoc, and_left_comm]

section Sorts

variable {callee owner property body left right argument test consequent alternate : Node}
  {arguments params elements : List Node} {properties : List (Property Node)} {operator : String}

theorem succeeds_call (sType : Option ValueType) (isPower : Bool) :
    Succeeds (Expr.ofNode (.call callee arguments sType isPower)) ↔
      Succeeds (Expr.ofNode callee) ∧ ∀ n ∈ arguments, Succeeds (Expr.ofNode n) := by
  rw [Expr.ofNode, succeeds_bind_iff fun _ => succeeds_bind_pure, succeeds_ofNodes]

theorem succeeds_subscript :
    Succeeds (Expr.ofNode (.member true owner property)) ↔
      Succeeds (Expr.ofNode owner) ∧ Succeeds (Expr.ofNode property) := by
  rw [Expr.ofNode]
  simp only [if_true]
  rw [succeeds_bind_iff fun _ => succeeds_bind_pure]

theorem succeeds_dotted :
    Succeeds (Expr.ofNode (.member false owner property)) ↔
      Succeeds (Expr.ofNode owner) ∧ property.IsBinding := by
  rw [Expr.ofNode]
  simp only [Bool.false_eq_true, if_false]
  rw [succeeds_bind_iff fun _ => succeeds_bind_pure, succeeds_nameOfNode]

theorem succeeds_arrow (id : Option Node) (generator expression : Bool) :
    Succeeds (Expr.ofNode (.arrow id params body generator expression)) ↔
      (∀ n ∈ params, n.IsBinding) ∧ Succeeds (Expr.ofNode body) := by
  rw [Expr.ofNode, succeeds_bind_iff fun _ => succeeds_bind_pure, succeeds_namesOfNodes]

theorem succeeds_binary (sType : Option ValueType) :
    Succeeds (Expr.ofNode (.binary operator sType left right)) ↔
      Succeeds (Expr.ofNode left) ∧ Succeeds (Expr.ofNode right) ∧ operator ∈ binaryOperators := by
  rw [Expr.ofNode, succeeds_bind_iff fun _ => succeeds_bind_iff fun _ => succeeds_bind_pure,
    succeeds_binaryOp]

theorem succeeds_unary (before : Bool) :
    Succeeds (Expr.ofNode (.unary operator argument before)) ↔
      operator ∈ unaryOperators ∧ Succeeds (Expr.ofNode argument) := by
  rw [Expr.ofNode, succeeds_bind_iff fun _ => succeeds_bind_pure, succeeds_unaryOp]

theorem succeeds_conditional :
    Succeeds (Expr.ofNode (.conditional test consequent alternate)) ↔
      Succeeds (Expr.ofNode test) ∧ Succeeds (Expr.ofNode consequent) ∧
        Succeeds (Expr.ofNode alternate) := by
  rw [Expr.ofNode, succeeds_bind_iff fun _ => succeeds_bind_iff fun _ => succeeds_bind_pure]

theorem succeeds_array :
    Succeeds (Expr.ofNode (.array elements)) ↔ ∀ n ∈ elements, Succeeds (Expr.ofNode n) := by
  rw [Expr.ofNode, succeeds_bind_pure, succeeds_ofNodes]

theorem succeeds_object :
    Succeeds (Expr.ofNode (.object properties)) ↔
      (∀ p ∈ properties, Succeeds (Expr.ofNode p.key)) ∧
        ∀ p ∈ properties, Succeeds (Expr.ofNode p.value) := by
  rw [Expr.ofNode, succeeds_bind_pure, succeeds_ofProperties]

end Sorts

theorem isExpression_of_succeeds {n : Node} (given : Succeeds (Expr.ofNode n)) :
    n.IsExpression := by
  induction n using Node.induction with
  | step n ih =>
    cases n with
    | identifier name => exact .identifier name
    | literal value raw sType => exact .literal value raw sType
    | statement e => exact .statement (ih e (by simp [children]) given)
    | call callee arguments sType isPower =>
      obtain ⟨called, each⟩ := (succeeds_call sType isPower).1 given
      have inner := List.forall_mem_cons.1 ih
      exact .call sType isPower (inner.1 called) fun n member => inner.2 n member (each n member)
    | member computed owner property =>
      cases computed with
      | true =>
        obtain ⟨ofOwner, ofProperty⟩ := succeeds_subscript.1 given
        exact .subscript (ih owner (by simp [children]) ofOwner)
          (ih property (by simp [children]) ofProperty)
      | false =>
        obtain ⟨ofOwner, name⟩ := succeeds_dotted.1 given
        exact .dotted (ih owner (by simp [children]) ofOwner) name
    | arrow id params body generator expression =>
      obtain ⟨names, result⟩ := (succeeds_arrow id generator expression).1 given
      exact .arrow id generator expression names (ih body (by simp [children]) result)
    | binary operator sType left right =>
      obtain ⟨ofLeft, ofRight, known⟩ := (succeeds_binary sType).1 given
      exact .binary sType known (ih left (by simp [children]) ofLeft)
        (ih right (by simp [children]) ofRight)
    | unary operator argument before =>
      obtain ⟨known, ofArgument⟩ := (succeeds_unary before).1 given
      exact .unary before known (ih argument (by simp [children]) ofArgument)
    | conditional test consequent alternate =>
      obtain ⟨ofTest, ofConsequent, ofAlternate⟩ := succeeds_conditional.1 given
      exact .conditional (ih test (by simp [children]) ofTest)
        (ih consequent (by simp [children]) ofConsequent)
        (ih alternate (by simp [children]) ofAlternate)
    | array elements =>
      have each := succeeds_array.1 given
      exact .array fun n member => ih n member (each n member)
    | object properties =>
      obtain ⟨keys, values⟩ := succeeds_object.1 given
      have inner (p : Property Node) (member : p ∈ properties) (m : Node)
          (part : m ∈ [p.key, p.value]) : Succeeds (Expr.ofNode m) → m.IsExpression :=
        ih m (List.mem_flatMap.2 ⟨p, member, part⟩)
      exact .object (fun p member => inner p member p.key (by simp) (keys p member))
        (fun p member => inner p member p.value (by simp) (values p member))
    | _ => exact absurd given (not_succeeds_error _)

/-- **What becomes an expression.** -/
theorem succeeds_ofNode_iff (n : Node) : Succeeds (Expr.ofNode n) ↔ n.IsExpression := by
  refine ⟨isExpression_of_succeeds, fun expression => ?_⟩
  induction expression with
  | identifier name => exact succeeds_ok _
  | literal value raw sType => exact succeeds_ok _
  | statement _ inner => exact inner
  | call sType isPower _ _ called each => exact (succeeds_call sType isPower).2 ⟨called, each⟩
  | subscript _ _ ofOwner ofProperty => exact succeeds_subscript.2 ⟨ofOwner, ofProperty⟩
  | dotted _ name ofOwner => exact succeeds_dotted.2 ⟨ofOwner, name⟩
  | arrow id generator expression names _ result =>
    exact (succeeds_arrow id generator expression).2 ⟨names, result⟩
  | binary sType known _ _ ofLeft ofRight =>
    exact (succeeds_binary sType).2 ⟨ofLeft, ofRight, known⟩
  | unary before known _ ofArgument => exact (succeeds_unary before).2 ⟨known, ofArgument⟩
  | conditional _ _ _ ofTest ofConsequent ofAlternate =>
    exact succeeds_conditional.2 ⟨ofTest, ofConsequent, ofAlternate⟩
  | array _ each => exact succeeds_array.2 each
  | object _ _ keys values => exact succeeds_object.2 ⟨keys, values⟩

/-! ## Statements -/

theorem succeeds_bindings (ds : List (Declarator Node)) :
    Succeeds (bindingsOfDeclarators ds) ↔
      (∀ d ∈ ds, d.id.IsBinding) ∧ ∀ d ∈ ds, d.init.IsExpression := by
  induction ds with
  | nil => exact iff_of_true (succeeds_ok []) ⟨List.forall_mem_nil _, List.forall_mem_nil _⟩
  | cons d rest ih =>
    rw [bindingsOfDeclarators,
      succeeds_bind_iff fun _ => succeeds_bind_iff fun _ => succeeds_bind_pure, ih,
      succeeds_nameOfNode, succeeds_ofNode_iff, List.forall_mem_cons, List.forall_mem_cons]
    simp only [and_assoc, and_left_comm]

theorem stmtsOfNodes_eq_mapM (ns : List Node) : Stmt.ofNodes ns = ns.mapM Stmt.ofNode := by
  induction ns with
  | nil => rfl
  | cons n rest ih => rw [Stmt.ofNodes, ih, List.mapM_cons]

theorem succeeds_stmtsOfNodes (ns : List Node) :
    Succeeds (Stmt.ofNodes ns) ↔ ∀ n ∈ ns, Succeeds (Stmt.ofNode n) := by
  rw [stmtsOfNodes_eq_mapM, succeeds_mapM_iff]

theorem succeeds_declaration {ds : List (Declarator Node)} (kind : DeclarationWord) :
    Succeeds (Stmt.ofNode (.declaration ds kind)) ↔
      (∀ d ∈ ds, d.id.IsBinding) ∧ ∀ d ∈ ds, d.init.IsExpression := by
  rw [Stmt.ofNode, succeeds_bind_pure, succeeds_bindings]

theorem succeeds_block {body : List Node} :
    Succeeds (Stmt.ofNode (.block body)) ↔ ∀ n ∈ body, Succeeds (Stmt.ofNode n) := by
  rw [Stmt.ofNode, succeeds_bind_pure, succeeds_stmtsOfNodes]

theorem isStatement_of_succeeds {n : Node} (given : Succeeds (Stmt.ofNode n)) :
    n.IsStatement := by
  induction n using Node.induction with
  | step n ih =>
    cases n with
    | declaration ds kind =>
      obtain ⟨names, values⟩ := (succeeds_declaration kind).1 given
      exact .declaration kind names values
    | block body =>
      have each := succeeds_block.1 given
      exact .block fun n member => ih n member (each n member)
    | comment c => exact .comment c
    | program body sourceType => exact absurd given (not_succeeds_error _)
    | _ => exact .expression (isExpression_of_succeeds (succeeds_bind_pure.1 given))

/-- An expression stands for a statement by itself. -/
theorem succeeds_stmt_of_isExpression {n : Node} (expression : n.IsExpression) :
    Succeeds (Stmt.ofNode n) := by
  have given := (succeeds_ofNode_iff n).2 expression
  cases expression <;> exact succeeds_bind_pure.2 given

/-- **What becomes a statement.** -/
theorem succeeds_stmtOfNode_iff (n : Node) : Succeeds (Stmt.ofNode n) ↔ n.IsStatement := by
  refine ⟨isStatement_of_succeeds, fun statement => ?_⟩
  induction statement with
  | expression inner => exact succeeds_stmt_of_isExpression inner
  | comment c => exact succeeds_ok _
  | declaration kind names values => exact (succeeds_declaration kind).2 ⟨names, values⟩
  | block _ each => exact succeeds_block.2 each

/-! ## Programs -/

theorem not_isStatement_program (body : List Node) (sourceType : SourceType) :
    ¬ IsStatement (.program body sourceType) := by
  rintro (inner | _)
  cases inner

theorem succeeds_programOfTree_iff (t : Node) : Succeeds (programOfTree t) ↔ t.IsProgram := by
  cases t with
  | program body sourceType =>
    rw [programOfTree, succeeds_stmtsOfNodes]
    simp only [succeeds_stmtOfNode_iff]
    constructor
    · exact .program sourceType
    · rintro (⟨_, each⟩ | only)
      · exact each
      · exact absurd only (not_isStatement_program body sourceType)
  | _ =>
    refine succeeds_bind_pure.trans ((succeeds_stmtOfNode_iff _).trans ⟨.single, ?_⟩)
    rintro (_ | only)
    exact only

end JavaScript

/-- **Which trees become programs**: lists of statements, and statements. Every other tree is refused,
and then it has no text for that reason. -/
theorem Node.programOfTree_eq_ok_iff (t : Node) :
    ((∃ stmts, programOfTree t = .ok stmts) ↔ t.IsProgram) ∧
      (¬ t.IsProgram → ∃ f, programOfTree t = .error f ∧ t.render = .error (.program f)) := by
  refine ⟨succeeds_programOfTree_iff t, fun refused => ?_⟩
  cases result : programOfTree t with
  | ok stmts => exact absurd ((succeeds_programOfTree_iff t).1 ⟨stmts, result⟩) refused
  | error f => exact ⟨f, rfl, by rw [Node.render, result]⟩

/-- A declaration of a name under a wrapper. -/
def wrappedDeclaration (name : Node) : Node :=
  .block [.declaration [⟨.statement name, .identifier "x"⟩] .letWord]

/-- A declared name may stand under one wrapper, but not under two. -/
theorem Node.programOfTree_eq_ok_iff_wrappedDeclaration :
    (∃ stmts, programOfTree (wrappedDeclaration (.identifier "f")) = .ok stmts) ∧
      ∃ f, (wrappedDeclaration (.statement (.identifier "f"))).render = .error (.program f) := by
  constructor
  · refine (programOfTree_eq_ok_iff _).1.2 (.single (.block ?_))
    refine List.forall_mem_singleton.2 (.declaration .letWord ?_ ?_)
    · exact List.forall_mem_singleton.2 (.wrapped "f")
    · exact List.forall_mem_singleton.2 (.identifier "x")
  · have refused : ¬ (wrappedDeclaration (.statement (.identifier "f"))).IsProgram := by
      rw [← (programOfTree_eq_ok_iff _).1]
      rintro ⟨stmts, given⟩
      cases given
    obtain ⟨f, -, rendered⟩ := (programOfTree_eq_ok_iff _).2 refused
    exact ⟨f, rendered⟩

end ScriptTree
