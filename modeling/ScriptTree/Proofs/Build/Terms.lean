import ScriptTree.Build.Template
import ScriptTree.JavaScript.Render

/-!
# Terms of templates

A `Term` says which templates make an expression, and a `Sentence` which templates make a statement.
Each of them has an expression or a statement of JavaScript that it stands for. Some templates put a
wrapper on what they make and some take one off, but a term always makes a node that becomes the
expression of the term. So a program of sentences is built without a fault and becomes the program
that it stands for: `programOfTree_buildProgram`.
-/

namespace ScriptTree.Build
set_option autoImplicit false
open JavaScript

/-! ## Terms and sentences -/

/-- A token of the built-in operator table. -/
abbrev StandardToken : Type :=
  { token : String // token ∈ OperatorTable.standard.keys }

/-- Templates that make an expression. Parameters and dotted properties are names. -/
inductive Term where
  | number (raw : String)
  | boolean (raw : String)
  | null (raw : String)
  | string (raw : String)
  | identifier (name : String)
  | binary (left : Term) (token : StandardToken) (right : Term)
  | unary (op : UnaryOp) (argument : Term)
  | power (base exponent : Term)
  | concat (left right : Term)
  | call (callee : Term) (arguments : List Term)
  | print (arguments : List Term)
  | complain (message : String)
  | lambda (params : List String) (body : Term)
  | letIn (params : List String) (arguments : List Term) (body : Term)
  | member (owner : Term) (name : String)
  | subscript (owner property : Term)
  | array (elements : List Term)
  | conditional (test consequent alternate : Term)
  | object (entries : List (Term × Term))

/-- Templates that make a statement. What is declared is a name. -/
inductive Sentence where
  | expression (t : Term)
  | declaration (id : String) (value : Term)
  | functionDeclaration (id : String) (params : List String) (body : Term)
  | comment (kind text : String)
  | block (body : List Sentence)

section Building

variable (primitives : Primitives)

mutual

/-- The node that a term makes. -/
def Term.build : Term → Except UnknownOperator Node
  | .number raw => .ok (Build.number raw)
  | .boolean raw => .ok (Build.boolean raw)
  | .null raw => .ok (Build.null raw)
  | .string raw => .ok (Build.string raw)
  | .identifier name => .ok (Build.identifier name)
  | .binary left token right => do
    Build.binary ⟨.standard, primitives⟩ (← left.build) token (← right.build)
  | .unary op argument => do return Build.unary op.symbol (← argument.build)
  | .power base exponent => do return Build.power (← base.build) (← exponent.build)
  | .concat left right => do return Build.concat (← left.build) (← right.build)
  | .call callee arguments => do
    return Build.call ⟨.standard, primitives⟩ (← callee.build) (← Term.buildAll arguments)
  | .print arguments => do return Build.print (← Term.buildAll arguments)
  | .complain message => .ok (Build.complain message)
  | .lambda params body => do return Build.lambda (params.map Build.identifier) (← body.build)
  | .letIn params arguments body => do
    return Build.letIn (params.map Build.identifier) (← Term.buildAll arguments) (← body.build)
  | .member owner name => do return Build.access (← owner.build) (Build.identifier name) false
  | .subscript owner property => do return Build.access (← owner.build) (← property.build) true
  | .array elements => do return Build.array (← Term.buildAll elements)
  | .conditional test consequent alternate => do
    return Build.conditional (← test.build) (← consequent.build) (← alternate.build)
  | .object entries => do return Build.object (← Term.buildEntries entries)

/-- The nodes that terms make. -/
def Term.buildAll : List Term → Except UnknownOperator (List Node)
  | [] => .ok []
  | t :: rest => do return (← t.build) :: (← Term.buildAll rest)

/-- The properties that keys and values make. -/
def Term.buildEntries : List (Term × Term) → Except UnknownOperator (List (Property Node))
  | [] => .ok []
  | (key, value) :: rest => do
    return Build.property (← key.build) (← value.build) :: (← Term.buildEntries rest)

end

mutual

/-- The node that a sentence makes. -/
def Sentence.build : Sentence → Except UnknownOperator Node
  | .expression t => t.build primitives
  | .declaration id value => do
    return Build.declaration (Build.identifier id) (← value.build primitives)
  | .functionDeclaration id params body => do
    return Build.functionDeclaration (Build.identifier id) (params.map Build.identifier)
      (← body.build primitives)
  | .comment kind text => .ok (Build.comment kind text)
  | .block body => do return Build.block (← Sentence.buildAll body)

/-- The nodes that sentences make. -/
def Sentence.buildAll : List Sentence → Except UnknownOperator (List Node)
  | [] => .ok []
  | s :: rest => do return (← s.build) :: (← Sentence.buildAll rest)

end

/-- The tree of a program of sentences. -/
def buildProgram (body : List Sentence) : Except UnknownOperator Node := do
  return program (← Sentence.buildAll primitives body)

end Building

/-! ## What terms and sentences stand for -/

/-- The operator that a token of the built-in table stands for, unless it is the power. -/
def tokenOp : String → BinaryOp
  | "*" => .multiply
  | "/" => .divide
  | "%" => .remainder
  | "+" | "++" => .add
  | "-" => .subtract
  | "<" => .less
  | "<=" => .lessEqual
  | ">" => .greater
  | ">=" => .greaterEqual
  | "==" | "===" => .strictEqual
  | "!=" | "!==" => .strictUnequal
  | "&&" => .and
  | _ => .or

/-- A call of a function of a global object. -/
def globalCall (owner name : String) (arguments : List Expr) : Expr :=
  .call (.dot (.identifier owner) name) arguments

/-- The name that a term is. -/
def Term.name? : Term → Option String
  | .identifier name => some name
  | _ => none

section Meaning

variable (primitives : Primitives)

mutual

/-- The expression that a term stands for. -/
def Term.expr : Term → Expr
  | .number raw => .number (toNumber raw)
  | .boolean raw => .bool (raw != "false")
  | .null _ => .null
  | .string raw => .string raw
  | .identifier name => .identifier name
  | .binary left token right =>
    if token.val = "^" then globalCall "Math" "pow" [left.expr, right.expr]
    else .binary (tokenOp token) left.expr right.expr
  | .unary op argument => .unary op argument.expr
  | .power base exponent => globalCall "Math" "pow" [base.expr, exponent.expr]
  | .concat left right => .call (.dot left.expr "concat") [right.expr]
  | .call callee arguments =>
    match callee.name?.bind primitives.get? with
    | some .print => globalCall "console" "log" (Term.exprs arguments)
    | none => .call callee.expr (Term.exprs arguments)
  | .print arguments => globalCall "console" "log" (Term.exprs arguments)
  | .complain message => globalCall "console" "log" [.string message]
  | .lambda params body => .arrow params body.expr
  | .letIn params arguments body => .call (.arrow params body.expr) (Term.exprs arguments)
  | .member owner name => .dot owner.expr name
  | .subscript owner property => .index owner.expr property.expr
  | .array elements => .array (Term.exprs elements)
  | .conditional test consequent alternate =>
    .conditional test.expr consequent.expr alternate.expr
  | .object entries => .object (Term.fields entries)

/-- The expressions that terms stand for. -/
def Term.exprs : List Term → List Expr
  | [] => []
  | t :: rest => t.expr :: Term.exprs rest

/-- The fields that keys and values stand for. -/
def Term.fields : List (Term × Term) → List (JavaScript.Field Expr)
  | [] => []
  | (key, value) :: rest =>
    (match key.name? with
    | some name => Field.named name value.expr false
    | none => Field.written key.expr value.expr) :: Term.fields rest

end

mutual

/-- The statement that a sentence stands for. -/
def Sentence.stmt : Sentence → Stmt
  | .expression t => .expression (t.expr primitives)
  | .declaration id value => .declaration .constWord [(id, value.expr primitives)]
  | .functionDeclaration id params body =>
    .declaration .constWord [(id, .arrow params (body.expr primitives))]
  | .comment kind text => .comment ⟨kind, text⟩
  | .block body => .block (Sentence.stmts body)

/-- The statements that sentences stand for. -/
def Sentence.stmts : List Sentence → List Stmt
  | [] => []
  | s :: rest => s.stmt :: Sentence.stmts rest

end

end Meaning

/-! ## Templates and expressions -/

theorem ofNode_unwrap (n : Node) : Expr.ofNode n.unwrap = Expr.ofNode n := by
  cases n <;> rfl

theorem ofNodes_map_unwrap (ns : List Node) :
    Expr.ofNodes (ns.map Node.unwrap) = Expr.ofNodes ns := by
  induction ns with
  | nil => rfl
  | cons n rest ih => rw [List.map_cons, Expr.ofNodes, Expr.ofNodes, ofNode_unwrap, ih]

theorem namesOfNodes_identifiers (role : Role) (names : List String) :
    namesOfNodes role (names.map identifier) = .ok names := by
  induction names with
  | nil => rfl
  | cons name rest ih =>
    rw [List.map_cons, namesOfNodes, ih]
    rfl

theorem ofNode_call {callee : Node} {arguments : List Node} {f : Expr} {es : List Expr}
    (first : Expr.ofNode callee = .ok f) (parts : Expr.ofNodes arguments = .ok es)
    (sType : Option ValueType) (isPower : Bool) :
    Expr.ofNode (.call callee arguments sType isPower) = .ok (.call f es) := by
  rw [Expr.ofNode, first, parts]
  rfl

theorem ofNodes_pair {a b : Node} {e f : Expr} (left : Expr.ofNode a = .ok e)
    (right : Expr.ofNode b = .ok f) : Expr.ofNodes [a, b] = .ok [e, f] := by
  rw [Expr.ofNodes, left, Expr.ofNodes, right]
  rfl

theorem ofNode_arrow (params : List String) {body : Node} {e : Expr}
    (last : Expr.ofNode body = .ok e) :
    Expr.ofNode (arrow (params.map identifier) body) = .ok (.arrow params e) := by
  rw [arrow, Expr.ofNode, namesOfNodes_identifiers, ofNode_unwrap, last]
  rfl

theorem ofNode_power {base exponent : Node} {e f : Expr} (left : Expr.ofNode base = .ok e)
    (right : Expr.ofNode exponent = .ok f) :
    Expr.ofNode (power base exponent) = .ok (globalCall "Math" "pow" [e, f]) :=
  ofNode_call rfl (ofNodes_pair left right) _ _

theorem ofNode_consoleLog {arguments : List Node} {es : List Expr}
    (parts : Expr.ofNodes arguments = .ok es) :
    Expr.ofNode (consoleLog arguments) = .ok (globalCall "console" "log" es) :=
  ofNode_call rfl parts none false

/-- Each token of the built-in table has a type, and but for the power an operator. -/
theorem standardToken (token : StandardToken) :
    (∃ t, OperatorTable.standard.resultType? token = some t) ∧
      (token.val ≠ "^" → BinaryOp.ofOperator (hostOperator token) = .ok (tokenOp token)) := by
  obtain ⟨token, listed⟩ := token
  have known : (OperatorTable.standard.keys.all fun token =>
      (OperatorTable.standard.resultType? token).isSome &&
        (token == "^" || BinaryOp.ofSymbol? (hostOperator token) == some (tokenOp token))) =
      true := by
    decide +kernel
  have here := List.all_eq_true.1 known token listed
  simp only [Bool.and_eq_true, Bool.or_eq_true, beq_iff_eq] at here
  refine ⟨Option.isSome_iff_exists.1 here.1, fun noPower => ?_⟩
  rw [BinaryOp.ofOperator, here.2.resolve_left noPower]

theorem ofOperator_symbol (op : UnaryOp) : UnaryOp.ofOperator op.symbol = .ok op := by
  cases op <;> rfl

/-! ## The node of a term -/

/-- A node that a term makes: it becomes the expression of the term, and it is a name, with or
without a wrapper, only if the term is one. -/
structure Makes (primitives : Primitives) (t : Term) (n : Node) : Prop where
  expr : Expr.ofNode n = .ok (t.expr primitives)
  name : n.identifierName? = t.name?
  bareName : n.unwrap.identifierName? = t.name?

section Terms

variable {primitives : Primitives}

theorem Makes.binary {left right : Term} {a b : Node} (token : StandardToken)
    (first : Makes primitives left a) (second : Makes primitives right b) :
    ∃ n, Build.binary ⟨.standard, primitives⟩ a token b = .ok n ∧
      Makes primitives (.binary left token right) n := by
  obtain ⟨⟨t, typed⟩, operator⟩ := standardToken token
  have firstExpr := (ofNode_unwrap a).trans first.expr
  have secondExpr := (ofNode_unwrap b).trans second.expr
  rw [Build.binary, typed]
  by_cases isPower : token.val = "^"
  · refine ⟨_, if_pos isPower, ?_, rfl, rfl⟩
    rw [Term.expr, if_pos isPower]
    exact ofNode_power firstExpr secondExpr
  · refine ⟨_, if_neg isPower, ?_, rfl, rfl⟩
    rw [Term.expr, if_neg isPower, Expr.ofNode, firstExpr, secondExpr, operator isPower]
    rfl

theorem Makes.call {callee : Term} {arguments : List Term} {f : Node} {ns : List Node}
    (first : Makes primitives callee f)
    (parts : Expr.ofNodes ns = .ok (Term.exprs primitives arguments)) :
    Makes primitives (.call callee arguments) (Build.call ⟨.standard, primitives⟩ f ns) := by
  have values := (ofNodes_map_unwrap ns).trans parts
  have target : Primitives.resolve? primitives f = callee.name?.bind primitives.get? := by
    rw [Primitives.resolve?, first.name]
  rw [Build.call, target]
  cases found : callee.name?.bind primitives.get? with
  | some p =>
    cases p with
    | print =>
      refine ⟨?_, rfl, rfl⟩
      rw [Term.expr, found]
      exact ofNode_consoleLog values
  | none =>
    refine ⟨?_, rfl, rfl⟩
    rw [Term.expr, found]
    exact ofNode_call ((ofNode_unwrap f).trans first.expr) values _ _

theorem ofProperties_cons {key value : Term} {k v : Node} {properties : List (Property Node)}
    {fields : List (JavaScript.Field Expr)} (first : Makes primitives key k)
    (second : Makes primitives value v) (others : Field.ofProperties properties = .ok fields) :
    Field.ofProperties (property k v :: properties) =
      .ok ((match key.name? with
        | some name => Field.named name (value.expr primitives) false
        | none => Field.written (key.expr primitives) (value.expr primitives)) :: fields) := by
  have valueExpr := (ofNode_unwrap v).trans second.expr
  have static : staticKey? k false = key.name? := first.bareName
  rw [property, Field.ofProperties, static, others]
  cases key.name? with
  | some name =>
    dsimp only
    rw [valueExpr]
    rfl
  | none =>
    dsimp only
    rw [valueExpr, first.expr]
    rfl

variable (primitives)

mutual

/-- **A term is built without a fault** and becomes the expression that it stands for. -/
theorem Term.build_makes (t : Term) : ∃ n, t.build primitives = .ok n ∧ Makes primitives t n := by
  cases t with
  | number raw => exact ⟨_, rfl, rfl, rfl, rfl⟩
  | boolean raw => exact ⟨_, rfl, rfl, rfl, rfl⟩
  | null raw => exact ⟨_, rfl, rfl, rfl, rfl⟩
  | string raw => exact ⟨_, rfl, rfl, rfl, rfl⟩
  | identifier name => exact ⟨_, rfl, rfl, rfl, rfl⟩
  | complain message => exact ⟨_, rfl, rfl, rfl, rfl⟩
  | binary left token right =>
    obtain ⟨a, builtLeft, first⟩ := Term.build_makes left
    obtain ⟨b, builtRight, second⟩ := Term.build_makes right
    obtain ⟨n, made, binary⟩ := Makes.binary token first second
    refine ⟨n, ?_, binary⟩
    rw [Term.build, builtLeft, builtRight]
    exact made
  | unary op argument =>
    obtain ⟨n, built, made⟩ := Term.build_makes argument
    refine ⟨Build.unary op.symbol n, by rw [Term.build, built]; rfl, ?_, rfl, rfl⟩
    rw [Build.unary, Expr.ofNode, ofOperator_symbol, ofNode_unwrap, made.expr, Term.expr]
    rfl
  | power base exponent =>
    obtain ⟨a, builtBase, first⟩ := Term.build_makes base
    obtain ⟨b, builtExponent, second⟩ := Term.build_makes exponent
    refine ⟨Build.power a b, by rw [Term.build, builtBase, builtExponent]; rfl, ?_, rfl, rfl⟩
    rw [Term.expr]
    exact ofNode_power first.expr second.expr
  | concat left right =>
    obtain ⟨a, builtLeft, first⟩ := Term.build_makes left
    obtain ⟨b, builtRight, second⟩ := Term.build_makes right
    refine ⟨Build.concat a b, by rw [Term.build, builtLeft, builtRight]; rfl, ?_, rfl, rfl⟩
    have callee : Expr.ofNode (.member false a (.identifier "concat")) =
        .ok (.dot (left.expr primitives) "concat") := by
      rw [Expr.ofNode, first.expr]
      rfl
    have argument : Expr.ofNodes [b] = .ok [right.expr primitives] := by
      rw [Expr.ofNodes, second.expr]
      rfl
    rw [Term.expr]
    exact ofNode_call callee argument _ _
  | call callee arguments =>
    obtain ⟨f, builtCallee, first⟩ := Term.build_makes callee
    obtain ⟨ns, builtArguments, parts⟩ := Term.buildAll_makes arguments
    exact ⟨_, by rw [Term.build, builtCallee, builtArguments]; rfl, first.call parts⟩
  | print arguments =>
    obtain ⟨ns, built, parts⟩ := Term.buildAll_makes arguments
    refine ⟨Build.print ns, by rw [Term.build, built]; rfl, ?_, rfl, rfl⟩
    rw [Term.expr]
    exact ofNode_consoleLog ((ofNodes_map_unwrap ns).trans parts)
  | lambda params body =>
    obtain ⟨n, built, made⟩ := Term.build_makes body
    refine ⟨Build.lambda (params.map Build.identifier) n, by rw [Term.build, built]; rfl, ?_, rfl,
      rfl⟩
    rw [Term.expr]
    exact ofNode_arrow params made.expr
  | letIn params arguments body =>
    obtain ⟨ns, builtArguments, parts⟩ := Term.buildAll_makes arguments
    obtain ⟨n, builtBody, made⟩ := Term.build_makes body
    refine ⟨Build.letIn (params.map Build.identifier) ns n, by
      rw [Term.build, builtArguments, builtBody]; rfl, ?_, rfl, rfl⟩
    rw [Term.expr]
    exact ofNode_call (ofNode_arrow params made.expr) ((ofNodes_map_unwrap ns).trans parts) _ _
  | member owner name =>
    obtain ⟨n, built, made⟩ := Term.build_makes owner
    refine ⟨Build.access n (Build.identifier name) false, by rw [Term.build, built]; rfl, ?_, rfl,
      rfl⟩
    rw [Build.access, Expr.ofNode, Expr.ofNode, ofNode_unwrap, made.expr, Term.expr]
    rfl
  | subscript owner property =>
    obtain ⟨n, builtOwner, first⟩ := Term.build_makes owner
    obtain ⟨m, builtProperty, second⟩ := Term.build_makes property
    refine ⟨Build.access n m true, by rw [Term.build, builtOwner, builtProperty]; rfl, ?_, rfl, rfl⟩
    rw [Build.access, Expr.ofNode, Expr.ofNode, ofNode_unwrap, ofNode_unwrap, first.expr,
      second.expr, Term.expr]
    rfl
  | array elements =>
    obtain ⟨ns, built, parts⟩ := Term.buildAll_makes elements
    refine ⟨Build.array ns, by rw [Term.build, built]; rfl, ?_, rfl, rfl⟩
    rw [Build.array, Expr.ofNode, parts, Term.expr]
    rfl
  | conditional test consequent alternate =>
    obtain ⟨a, builtTest, first⟩ := Term.build_makes test
    obtain ⟨b, builtConsequent, second⟩ := Term.build_makes consequent
    obtain ⟨c, builtAlternate, third⟩ := Term.build_makes alternate
    refine ⟨Build.conditional a b c, by
      rw [Term.build, builtTest, builtConsequent, builtAlternate]; rfl, ?_, rfl, rfl⟩
    rw [Build.conditional, Expr.ofNode, Expr.ofNode, ofNode_unwrap, ofNode_unwrap, ofNode_unwrap,
      first.expr, second.expr, third.expr, Term.expr]
    rfl
  | object entries =>
    obtain ⟨properties, built, parts⟩ := Term.buildEntries_makes entries
    refine ⟨Build.object properties, by rw [Term.build, built]; rfl, ?_, rfl, rfl⟩
    rw [Build.object, Expr.ofNode, parts, Term.expr]
    rfl

theorem Term.buildAll_makes (ts : List Term) :
    ∃ ns, Term.buildAll primitives ts = .ok ns ∧
      Expr.ofNodes ns = .ok (Term.exprs primitives ts) := by
  cases ts with
  | nil => exact ⟨[], rfl, rfl⟩
  | cons t rest =>
    obtain ⟨n, built, made⟩ := Term.build_makes t
    obtain ⟨ns, others, parts⟩ := Term.buildAll_makes rest
    refine ⟨n :: ns, by rw [Term.buildAll, built, others]; rfl, ?_⟩
    rw [Expr.ofNodes, made.expr, parts, Term.exprs]
    rfl

theorem Term.buildEntries_makes (entries : List (Term × Term)) :
    ∃ properties, Term.buildEntries primitives entries = .ok properties ∧
      Field.ofProperties properties = .ok (Term.fields primitives entries) := by
  match entries with
  | [] => exact ⟨[], rfl, rfl⟩
  | (key, value) :: rest =>
    obtain ⟨k, builtKey, first⟩ := Term.build_makes key
    obtain ⟨v, builtValue, second⟩ := Term.build_makes value
    obtain ⟨properties, others, parts⟩ := Term.buildEntries_makes rest
    refine ⟨property k v :: properties, by
      rw [Term.buildEntries, builtKey, builtValue, others]; rfl, ?_⟩
    rw [ofProperties_cons first second parts, Term.fields]

end

/-! ## The program of sentences -/

/-- A node that has an expression stands as a statement of it. -/
theorem ofNode_expression {n : Node} {e : Expr} (made : Expr.ofNode n = .ok e) :
    Stmt.ofNode n = .ok (.expression e) := by
  cases n with
  | program body sourceType => cases made
  | declaration ds kind => cases made
  | block body => cases made
  | comment c => cases made
  | _ => exact congrArg (fun x => x >>= fun e => pure (Stmt.expression e)) made

theorem ofNode_constant (id : String) {init : Node} {e : Expr} (value : Expr.ofNode init = .ok e) :
    Stmt.ofNode (constant (identifier id) init) = .ok (.declaration .constWord [(id, e)]) := by
  have name : nameOfNode .declarator (identifier id) = .ok id := rfl
  rw [constant, Stmt.ofNode, bindingsOfDeclarators, name, value]
  rfl

mutual

theorem Sentence.build_stmt (s : Sentence) :
    ∃ n, s.build primitives = .ok n ∧ Stmt.ofNode n = .ok (s.stmt primitives) := by
  cases s with
  | expression t =>
    obtain ⟨n, built, made⟩ := Term.build_makes primitives t
    exact ⟨n, built, ofNode_expression made.expr⟩
  | declaration id value =>
    obtain ⟨n, built, made⟩ := Term.build_makes primitives value
    refine ⟨Build.declaration (Build.identifier id) n, by rw [Sentence.build, built]; rfl, ?_⟩
    exact ofNode_constant id ((ofNode_unwrap n).trans made.expr)
  | functionDeclaration id params body =>
    obtain ⟨n, built, made⟩ := Term.build_makes primitives body
    refine ⟨Build.functionDeclaration (Build.identifier id) (params.map Build.identifier) n, by
      rw [Sentence.build, built]; rfl, ?_⟩
    exact ofNode_constant id (ofNode_arrow params made.expr)
  | comment kind text => exact ⟨_, rfl, rfl⟩
  | block body =>
    obtain ⟨ns, built, made⟩ := Sentence.buildAll_stmts body
    refine ⟨Build.block ns, by rw [Sentence.build, built]; rfl, ?_⟩
    rw [Build.block, Stmt.ofNode, made, Sentence.stmt]
    rfl

theorem Sentence.buildAll_stmts (body : List Sentence) :
    ∃ ns, Sentence.buildAll primitives body = .ok ns ∧
      Stmt.ofNodes ns = .ok (Sentence.stmts primitives body) := by
  cases body with
  | nil => exact ⟨[], rfl, rfl⟩
  | cons s rest =>
    obtain ⟨n, built, made⟩ := Sentence.build_stmt s
    obtain ⟨ns, others, parts⟩ := Sentence.buildAll_stmts rest
    refine ⟨n :: ns, by rw [Sentence.buildAll, built, others]; rfl, ?_⟩
    rw [Stmt.ofNodes, made, parts, Sentence.stmts]
    rfl

end

/-- **A program of sentences always becomes a program of JavaScript.** It is built without a fault,
whatever names stand for primitives, and its tree becomes the statements that it stands for. So the
tree is only refused if its text has a placeholder too many. -/
theorem programOfTree_buildProgram (body : List Sentence) :
    ∃ tree, buildProgram primitives body = .ok tree ∧
      programOfTree tree = .ok (Sentence.stmts primitives body) ∧
      ∀ fault, tree.render = .error fault → ∃ c, fault = .collision c := by
  obtain ⟨ns, built, made⟩ := Sentence.buildAll_stmts primitives body
  have lowered : programOfTree (program ns) = .ok (Sentence.stmts primitives body) := made
  refine ⟨program ns, by rw [buildProgram, built]; rfl, lowered, fun fault refused => ?_⟩
  rw [Node.render, lowered] at refused
  dsimp only at refused
  split at refused
  · exact ⟨_, (Except.error.inj refused).symm⟩
  · cases refused

end Terms

end ScriptTree.Build
