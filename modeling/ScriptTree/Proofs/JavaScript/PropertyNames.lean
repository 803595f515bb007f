import ScriptTree.Build.Template
import ScriptTree.Proofs.JavaScript.Accepted
import Mathlib.Data.List.Forall2

/-!
# The keys of objects

Before the colon of a field stands a name, a literal, or an expression in brackets. A tree becomes a
program whatever the keys of its objects are, if they are expressions at all, and each property of
an object becomes a field of its own with the key that it has (`fields_of_programOfTree`). A key
that is not computed gets no brackets. So the fields of a program are written as the language allows
just if the keys in the tree that are not computed are names and literals: `Node.propertyNames_iff`.
-/

namespace ScriptTree
set_option autoImplicit false
open JavaScript

/-! ## Keys and fields -/

namespace JavaScript

/-- An expression that can stand before the colon of a field: a name or a literal. -/
def Expr.isPropertyName : Expr → Bool
  | .identifier _ | .null | .bool _ | .number _ | .string _ => true
  | _ => false

/-- A field that is written as the language allows: its key is computed, or a property name. -/
def Field.isLegal : JavaScript.Field Expr → Bool
  | .named _ _ _ => true
  | .written key _ => key.isPropertyName
  | .computed _ _ => true

mutual

/-- The fields of the objects inside of an expression, at any depth. -/
def Expr.fields : Expr → List (JavaScript.Field Expr)
  | .identifier _ | .null | .bool _ | .number _ | .string _ => []
  | .call callee arguments => callee.fields ++ Expr.allFields arguments
  | .dot owner _ => owner.fields
  | .index owner property => owner.fields ++ property.fields
  | .arrow _ body => body.fields
  | .binary _ left right => left.fields ++ right.fields
  | .unary _ argument => argument.fields
  | .conditional test consequent alternate =>
    test.fields ++ (consequent.fields ++ alternate.fields)
  | .array elements => Expr.allFields elements
  | .object fields => Field.allFields fields

/-- The fields inside of expressions. -/
def Expr.allFields : List Expr → List (JavaScript.Field Expr)
  | [] => []
  | e :: rest => e.fields ++ Expr.allFields rest

/-- Fields, each with those inside of its key and its value. -/
def Field.allFields : List (JavaScript.Field Expr) → List (JavaScript.Field Expr)
  | [] => []
  | .named name value shorthand :: rest =>
    .named name value shorthand :: (value.fields ++ Field.allFields rest)
  | .written key value :: rest =>
    .written key value :: (key.fields ++ (value.fields ++ Field.allFields rest))
  | .computed key value :: rest =>
    .computed key value :: (key.fields ++ (value.fields ++ Field.allFields rest))

end

/-- The fields inside of the values of bindings. -/
def bindingFields : List (String × Expr) → List (JavaScript.Field Expr)
  | [] => []
  | (_, init) :: rest => init.fields ++ bindingFields rest

mutual

/-- The fields of the objects inside of a statement. -/
def Stmt.fields : Stmt → List (JavaScript.Field Expr)
  | .expression e => e.fields
  | .declaration _ bindings => bindingFields bindings
  | .block body => Stmt.allFields body
  | .comment _ => []

/-- The fields inside of statements. -/
def Stmt.allFields : List Stmt → List (JavaScript.Field Expr)
  | [] => []
  | s :: rest => s.fields ++ Stmt.allFields rest

end

end JavaScript

namespace Node

/-- A node that is a name or a literal, under any number of wrappers. -/
def isPropertyName : Node → Bool
  | .identifier _ => true
  | .literal _ _ _ => true
  | .statement e => e.isPropertyName
  | _ => false

mutual

/-- The properties of the objects inside of a node, at any depth; the name of an arrow function is
not looked at. -/
def properties : Node → List (Property Node)
  | .program body _ => allProperties body
  | .statement e => e.properties
  | .call callee arguments _ _ => callee.properties ++ allProperties arguments
  | .member _ owner property => owner.properties ++ property.properties
  | .identifier _ | .literal _ _ _ | .comment _ => []
  | .declaration ds _ => declaratorProperties ds
  | .arrow _ params body _ _ => allProperties params ++ body.properties
  | .binary _ _ left right => left.properties ++ right.properties
  | .unary _ argument _ => argument.properties
  | .block body => allProperties body
  | .conditional test consequent alternate =>
    test.properties ++ (consequent.properties ++ alternate.properties)
  | .array elements => allProperties elements
  | .object ps => deepProperties ps

/-- The properties inside of nodes. -/
def allProperties : List Node → List (Property Node)
  | [] => []
  | n :: rest => n.properties ++ allProperties rest

/-- The properties inside of declarators. -/
def declaratorProperties : List (Declarator Node) → List (Property Node)
  | [] => []
  | ⟨id, init⟩ :: rest => id.properties ++ (init.properties ++ declaratorProperties rest)

/-- Properties, each with those inside of its key and its value. -/
def deepProperties : List (Property Node) → List (Property Node)
  | [] => []
  | ⟨key, computed, value, kind, method, shorthand⟩ :: rest =>
    ⟨key, computed, value, kind, method, shorthand⟩ ::
      (key.properties ++ (value.properties ++ deepProperties rest))

end

theorem IsBinding.properties_eq_nil {n : Node} (name : n.IsBinding) : n.properties = [] := by
  cases name <;> rfl

theorem allProperties_eq_nil {ns : List Node} (names : ∀ n ∈ ns, n.IsBinding) :
    allProperties ns = [] := by
  induction ns with
  | nil => rfl
  | cons n rest ih =>
    obtain ⟨name, others⟩ := List.forall_mem_cons.1 names
    rw [allProperties, name.properties_eq_nil, ih others, List.append_nil]

end Node

namespace JavaScript
open Node

/-! ## The key of a field -/

/-- A name or literal stays one, and any other expression stays another. -/
theorem isPropertyName_ofNode {n : Node} {e : Expr} (made : Expr.ofNode n = .ok e) :
    e.isPropertyName = n.isPropertyName := by
  have two {α β : Type} {x : Checked α} {y : α → Checked β} {f : α → β → Expr}
      (other : ∀ a b, (f a b).isPropertyName = false) :
      Ensures (x >>= fun a => y a >>= fun b => pure (f a b)) (·.isPropertyName = false) :=
    ensures_bind fun a => ensures_bind fun b => ensures_pure (other a b)
  cases n with
  | identifier name =>
    cases made
    rfl
  | literal value raw sType =>
    cases made
    cases value <;> rfl
  | statement inner => exact isPropertyName_ofNode (n := inner) made
  | call callee arguments sType isPower => exact two (fun _ _ => rfl) e made
  | member computed owner property =>
    cases computed with
    | true => exact two (fun _ _ => rfl) e made
    | false => exact two (fun _ _ => rfl) e made
  | arrow id params body generator expression => exact two (fun _ _ => rfl) e made
  | binary operator sType left right =>
    exact ensures_bind (fun _ => two fun _ _ => rfl) e made
  | unary operator argument before => exact two (fun _ _ => rfl) e made
  | conditional test consequent alternate =>
    exact ensures_bind (fun _ => two fun _ _ => rfl) e made
  | array elements =>
    obtain ⟨es, -, made⟩ := bind_eq_ok.1 made
    cases made
    rfl
  | object ps =>
    obtain ⟨fs, -, made⟩ := bind_eq_ok.1 made
    cases made
    rfl
  | _ => cases made

/-- The field that a property becomes, by the form of its key. -/
inductive Becomes : Property Node → JavaScript.Field Expr → Prop where
  | named {key value : Node} {name : String} {v : Expr} (kind : PropertyKind)
      (method shorthand : Bool) (static : staticKey? key false = some name)
      (valued : Expr.ofNode value = .ok v) :
      Becomes ⟨key, false, value, kind, method, shorthand⟩ (.named name v shorthand)
  | written {key value : Node} {k v : Expr} (kind : PropertyKind) (method shorthand : Bool)
      (keyed : Expr.ofNode key = .ok k) (valued : Expr.ofNode value = .ok v) :
      Becomes ⟨key, false, value, kind, method, shorthand⟩ (.written k v)
  | computed {key value : Node} {k v : Expr} (kind : PropertyKind) (method shorthand : Bool)
      (keyed : Expr.ofNode key = .ok k) (valued : Expr.ofNode value = .ok v) :
      Becomes ⟨key, true, value, kind, method, shorthand⟩ (.computed k v)

theorem Becomes.isLegal_eq {p : Property Node} {f : JavaScript.Field Expr} (becomes : Becomes p f) :
    f.isLegal = (p.computed || p.key.isPropertyName) := by
  cases becomes with
  | named kind method shorthand static valued =>
    rcases (isBinding_iff _).2 ⟨_, static⟩ with name | name <;> rfl
  | written kind method shorthand keyed valued =>
    rw [Field.isLegal, isPropertyName_ofNode keyed, Bool.false_or]
  | computed => rfl

theorem ofProperties_cons_eq_ok {p : Property Node} {ps : List (Property Node)}
    {fs : List (JavaScript.Field Expr)} (made : Field.ofProperties (p :: ps) = .ok fs) :
    ∃ f rest, Becomes p f ∧ Field.ofProperties ps = .ok rest ∧ fs = f :: rest := by
  obtain ⟨key, computed, value, kind, method, shorthand⟩ := p
  rw [Field.ofProperties] at made
  split at made
  · rename_i name static
    simp only [pure_bind] at made
    obtain ⟨v, valued, made⟩ := bind_eq_ok.1 made
    obtain ⟨rest, others, made⟩ := bind_eq_ok.1 made
    cases made
    cases computed with
    | true => cases static
    | false => exact ⟨_, rest, .named kind method shorthand static valued, others, rfl⟩
  · simp only [pure_bind] at made
    obtain ⟨k, keyed, made⟩ := bind_eq_ok.1 made
    obtain ⟨v, valued, made⟩ := bind_eq_ok.1 made
    obtain ⟨rest, others, made⟩ := bind_eq_ok.1 made
    cases made
    cases computed with
    | true => exact ⟨_, rest, .computed kind method shorthand keyed valued, others, rfl⟩
    | false => exact ⟨_, rest, .written kind method shorthand keyed valued, others, rfl⟩

/-! ## The fields of a program are the properties of its tree -/

mutual

theorem fields_ofNode (n : Node) {e : Expr} (made : Expr.ofNode n = .ok e) :
    List.Forall₂ Becomes n.properties e.fields := by
  cases n with
  | identifier name =>
    cases made
    exact .nil
  | literal value raw sType =>
    cases made
    cases value <;> exact .nil
  | statement inner => exact fields_ofNode inner made
  | call callee arguments sType isPower =>
    obtain ⟨f, called, made⟩ := bind_eq_ok.1 made
    obtain ⟨es, others, made⟩ := bind_eq_ok.1 made
    cases made
    exact List.rel_append (fields_ofNode callee called) (fields_ofNodes arguments others)
  | member computed owner property =>
    obtain ⟨o, owned, made⟩ := bind_eq_ok.1 made
    cases computed with
    | true =>
      obtain ⟨i, indexed, made⟩ := bind_eq_ok.1 made
      cases made
      exact List.rel_append (fields_ofNode owner owned) (fields_ofNode property indexed)
    | false =>
      obtain ⟨name, named, made⟩ := bind_eq_ok.1 made
      cases made
      have isName := (succeeds_nameOfNode .dottedProperty property).1 ⟨name, named⟩
      rw [properties, isName.properties_eq_nil, List.append_nil, Expr.fields]
      exact fields_ofNode owner owned
  | arrow id params body generator expression =>
    obtain ⟨names, named, made⟩ := bind_eq_ok.1 made
    obtain ⟨b, returned, made⟩ := bind_eq_ok.1 made
    cases made
    have areNames := (succeeds_namesOfNodes .parameter params).1 ⟨names, named⟩
    rw [properties, allProperties_eq_nil areNames, List.nil_append, Expr.fields]
    exact fields_ofNode body returned
  | binary operator sType left right =>
    obtain ⟨l, first, made⟩ := bind_eq_ok.1 made
    obtain ⟨r, second, made⟩ := bind_eq_ok.1 made
    obtain ⟨op, -, made⟩ := bind_eq_ok.1 made
    cases made
    exact List.rel_append (fields_ofNode left first) (fields_ofNode right second)
  | unary operator argument before =>
    obtain ⟨op, -, made⟩ := bind_eq_ok.1 made
    obtain ⟨a, operand, made⟩ := bind_eq_ok.1 made
    cases made
    rw [properties, Expr.fields]
    exact fields_ofNode argument operand
  | conditional test consequent alternate =>
    obtain ⟨t, tested, made⟩ := bind_eq_ok.1 made
    obtain ⟨c, first, made⟩ := bind_eq_ok.1 made
    obtain ⟨a, second, made⟩ := bind_eq_ok.1 made
    cases made
    exact List.rel_append (fields_ofNode test tested)
      (List.rel_append (fields_ofNode consequent first) (fields_ofNode alternate second))
  | array elements =>
    obtain ⟨es, each, made⟩ := bind_eq_ok.1 made
    cases made
    exact fields_ofNodes elements each
  | object ps =>
    obtain ⟨fs, each, made⟩ := bind_eq_ok.1 made
    cases made
    exact fields_ofProperties ps each
  | _ => cases made

theorem fields_ofNodes (ns : List Node) {es : List Expr} (made : Expr.ofNodes ns = .ok es) :
    List.Forall₂ Becomes (allProperties ns) (Expr.allFields es) := by
  cases ns with
  | nil =>
    cases made
    exact .nil
  | cons n rest =>
    obtain ⟨e, first, made⟩ := bind_eq_ok.1 made
    obtain ⟨es, others, made⟩ := bind_eq_ok.1 made
    cases made
    exact List.rel_append (fields_ofNode n first) (fields_ofNodes rest others)

theorem fields_ofProperties (ps : List (Property Node)) {fs : List (JavaScript.Field Expr)}
    (made : Field.ofProperties ps = .ok fs) :
    List.Forall₂ Becomes (deepProperties ps) (Field.allFields fs) := by
  match ps with
  | [] =>
    cases made
    exact .nil
  | ⟨key, computed, value, kind, method, shorthand⟩ :: rest =>
    obtain ⟨f, more, becomes, others, rfl⟩ := ofProperties_cons_eq_ok made
    have behind := fields_ofProperties rest others
    cases becomes with
    | named _ _ _ static valued =>
      have isName := (isBinding_iff key).2 ⟨_, static⟩
      rw [deepProperties, isName.properties_eq_nil]
      exact .cons (.named kind method shorthand static valued)
        (List.rel_append (fields_ofNode value valued) behind)
    | written _ _ _ keyed valued =>
      exact .cons (.written kind method shorthand keyed valued)
        (List.rel_append (fields_ofNode key keyed)
          (List.rel_append (fields_ofNode value valued) behind))
    | computed _ _ _ keyed valued =>
      exact .cons (.computed kind method shorthand keyed valued)
        (List.rel_append (fields_ofNode key keyed)
          (List.rel_append (fields_ofNode value valued) behind))

end

theorem fields_ofDeclarators {ds : List (Declarator Node)} {bindings : List (String × Expr)}
    (made : bindingsOfDeclarators ds = .ok bindings) :
    List.Forall₂ Becomes (declaratorProperties ds) (bindingFields bindings) := by
  induction ds generalizing bindings with
  | nil =>
    cases made
    exact .nil
  | cons d rest ih =>
    obtain ⟨id, init⟩ := d
    obtain ⟨name, named, made⟩ := bind_eq_ok.1 made
    obtain ⟨e, valued, made⟩ := bind_eq_ok.1 made
    obtain ⟨more, others, made⟩ := bind_eq_ok.1 made
    cases made
    have isName := (succeeds_nameOfNode .declarator id).1 ⟨name, named⟩
    rw [declaratorProperties, isName.properties_eq_nil, List.nil_append]
    exact List.rel_append (fields_ofNode init valued) (ih others)

mutual

theorem fields_stmtOfNode (n : Node) {s : Stmt} (made : Stmt.ofNode n = .ok s) :
    List.Forall₂ Becomes n.properties s.fields := by
  cases n with
  | declaration ds kind =>
    obtain ⟨bindings, each, made⟩ := bind_eq_ok.1 made
    cases made
    exact fields_ofDeclarators each
  | block body =>
    obtain ⟨stmts, each, made⟩ := bind_eq_ok.1 made
    cases made
    exact fields_stmtsOfNodes body each
  | comment c =>
    cases made
    exact .nil
  | program body sourceType => cases made
  | _ =>
    -- any other node is an expression
    obtain ⟨e, inner, made⟩ := bind_eq_ok.1 made
    cases made
    exact fields_ofNode _ inner

theorem fields_stmtsOfNodes (ns : List Node) {stmts : List Stmt}
    (made : Stmt.ofNodes ns = .ok stmts) :
    List.Forall₂ Becomes (allProperties ns) (Stmt.allFields stmts) := by
  cases ns with
  | nil =>
    cases made
    exact .nil
  | cons n rest =>
    obtain ⟨s, first, made⟩ := bind_eq_ok.1 made
    obtain ⟨more, others, made⟩ := bind_eq_ok.1 made
    cases made
    exact List.rel_append (fields_stmtOfNode n first) (fields_stmtsOfNodes rest others)

end

/-- **Each property becomes a field**, in the order of the tree. -/
theorem fields_of_programOfTree (t : Node) {stmts : List Stmt}
    (made : programOfTree t = .ok stmts) :
    List.Forall₂ Becomes t.properties (Stmt.allFields stmts) := by
  cases t with
  | program body sourceType => exact fields_stmtsOfNodes body made
  | _ =>
    obtain ⟨s, only, made⟩ := bind_eq_ok.1 made
    cases made
    rw [Stmt.allFields, Stmt.allFields, List.append_nil]
    exact fields_stmtOfNode _ only

theorem forall_isLegal_iff {ps : List (Property Node)} {fs : List (JavaScript.Field Expr)}
    (become : List.Forall₂ Becomes ps fs) :
    (∀ f ∈ fs, f.isLegal = true) ↔
      ∀ p ∈ ps, p.computed = false → p.key.isPropertyName = true := by
  induction become with
  | nil => exact iff_of_true (List.forall_mem_nil _) (List.forall_mem_nil _)
  | @cons p f ps fs becomes _ ih =>
    have legal : f.isLegal = true ↔ (p.computed = false → p.key.isPropertyName = true) := by
      rw [becomes.isLegal_eq]
      cases p.computed <;> simp
    rw [List.forall_mem_cons, List.forall_mem_cons, ih, legal]

end JavaScript

/-- **Which keys a program has.** A tree becomes a program whatever its keys are, as long as they
are expressions. The fields of the program are then written as the language allows, just if all keys
of the tree that are not computed are names and literals. -/
theorem Node.propertyNames_iff (t : Node) :
    ((∃ stmts, programOfTree t = .ok stmts) ↔ t.IsProgram) ∧
      ∀ stmts, programOfTree t = .ok stmts →
        ((∀ f ∈ Stmt.allFields stmts, f.isLegal = true) ↔
          ∀ p ∈ t.properties, p.computed = false → p.key.isPropertyName = true) :=
  ⟨succeeds_programOfTree_iff t,
    fun _ made => forall_isLegal_iff (fields_of_programOfTree t made)⟩

/-- A declaration of an object with a string, a name under two wrappers, and a computed call as its
keys; the value under the string is an object in a list. -/
def mixedKeys : Node :=
  .declaration [⟨.identifier "o", .object
    [⟨.literal (.string "x y") "x y" none, false, .array [.object
        [⟨.literal .null "null" none, false, .identifier "v", .init, false, false⟩]],
        .init, false, false⟩,
      ⟨.statement (.statement (.identifier "k")), false, .identifier "v", .get, false, false⟩,
      ⟨.call (.identifier "f") [] none false, true, .identifier "v", .init, true, false⟩]⟩] .letWord

theorem Node.propertyNames_iff_mixedKeys :
    (∃ stmts, programOfTree mixedKeys = .ok stmts) ∧ mixedKeys.properties.length = 4 ∧
      ∀ stmts, programOfTree mixedKeys = .ok stmts →
        ∀ f ∈ Stmt.allFields stmts, f.isLegal = true := by
  have keys : ∀ p ∈ mixedKeys.properties, p.computed = false → p.key.isPropertyName = true := by
    simp [mixedKeys, properties, declaratorProperties, deepProperties, allProperties,
      isPropertyName]
  exact ⟨⟨_, rfl⟩, rfl, fun stmts made => ((propertyNames_iff mixedKeys).2 stmts made).2 keys⟩

/-- A sum of two names. -/
def sumKey : Node :=
  .binary "+" (some .number) (.identifier "a") (.identifier "b")

/-- A sum that is made by a template and stands as a key becomes a field without brackets. -/
theorem Node.propertyNames_sumKey :
    Build.binary .standard (.identifier "a") "+" (.identifier "b") = .ok sumKey ∧
      (∃ stmts, programOfTree (Build.object [Build.property sumKey (.identifier "c")]) = .ok stmts ∧
        ∃ f ∈ Stmt.allFields stmts, f.isLegal = false) ∧
      (Build.object [Build.property sumKey (.identifier "c")]).render =
        .ok "(\x7b a + b: c \x7d);\n" := by
  refine ⟨rfl, ⟨_, rfl, _, List.mem_cons_self, rfl⟩, by decide +kernel⟩

end ScriptTree
