import ScriptTree.Build.Template
import ScriptTree.Proofs.Node.Parts

/-!
# What holds of built trees

`Built` are the nodes and properties that templates make of each other, with any vocabulary. Every
node inside of them is `WellFormed`: the type that it carries fits what it is, and an operator of
the host stands where a token of the table was given. Each template keeps this, so it holds of all
that is built: `built_wellFormed`.
-/

namespace ScriptTree.Build
set_option autoImplicit false

/-- What a template makes. -/
inductive Piece where
  | node (n : Node)
  | property (p : Property Node)

/-- The nodes that a piece is made of. -/
def Piece.nodes : Piece → List Node
  | .node n => [n]
  | .property p => [p.key, p.value]

/-- The pieces that templates make of each other. -/
inductive Built (v : Vocabulary) : Piece → Prop where
  | number (raw : String) : Built v (.node (number raw))
  | boolean (raw : String) : Built v (.node (boolean raw))
  | null (raw : String) : Built v (.node (null raw))
  | string (raw : String) : Built v (.node (string raw))
  | identifier (name : String) : Built v (.node (identifier name))
  | comment (kind text : String) : Built v (.node (comment kind text))
  | program {body : List Node} (parts : ∀ n ∈ body, Built v (.node n)) :
      Built v (.node (program body))
  | block {body : List Node} (parts : ∀ n ∈ body, Built v (.node n)) : Built v (.node (block body))
  | array {elements : List Node} (parts : ∀ n ∈ elements, Built v (.node n)) :
      Built v (.node (array elements))
  | property {key value : Node} (left : Built v (.node key)) (right : Built v (.node value)) :
      Built v (.property (property key value))
  | object {properties : List (Property Node)}
      (parts : ∀ p ∈ properties, Built v (.property p)) : Built v (.node (object properties))
  | declaration {id value : Node} (left : Built v (.node id)) (right : Built v (.node value)) :
      Built v (.node (declaration id value))
  | functionDeclaration {id : Node} {params : List Node} {body : Node} (name : Built v (.node id))
      (parts : ∀ n ∈ params, Built v (.node n)) (last : Built v (.node body)) :
      Built v (.node (functionDeclaration id params body))
  | lambda {params : List Node} {body : Node} (parts : ∀ n ∈ params, Built v (.node n))
      (last : Built v (.node body)) : Built v (.node (lambda params body))
  | letIn {params arguments : List Node} {body : Node} (parts : ∀ n ∈ params, Built v (.node n))
      (values : ∀ n ∈ arguments, Built v (.node n)) (last : Built v (.node body)) :
      Built v (.node (letIn params arguments body))
  | access {owner property : Node} (left : Built v (.node owner)) (right : Built v (.node property))
      (computed : Bool) : Built v (.node (access owner property computed))
  | conditional {test consequent alternate : Node} (condition : Built v (.node test))
      (left : Built v (.node consequent)) (right : Built v (.node alternate)) :
      Built v (.node (conditional test consequent alternate))
  | power {base exponent : Node} (left : Built v (.node base)) (right : Built v (.node exponent)) :
      Built v (.node (power base exponent))
  | concat {a b : Node} (left : Built v (.node a)) (right : Built v (.node b)) :
      Built v (.node (concat a b))
  | binary {a b n : Node} {token : String} (left : Built v (.node a)) (right : Built v (.node b))
      (made : binary v a token b = .ok n) : Built v (.node n)
  | unary {argument : Node} (operator : String) (part : Built v (.node argument)) :
      Built v (.node (unary operator argument))
  | call {callee : Node} {arguments : List Node} (first : Built v (.node callee))
      (parts : ∀ n ∈ arguments, Built v (.node n)) : Built v (.node (call v callee arguments))
  | print {arguments : List Node} (parts : ∀ n ∈ arguments, Built v (.node n)) :
      Built v (.node (print arguments))
  | complain (message : String) : Built v (.node (complain message))
  | statement {n : Node} (part : Built v (.node n)) : Built v (.node (.statement n))
  | unwrap {n : Node} (part : Built v (.node n)) : Built v (.node n.unwrap)

/-! ## The invariant -/

/-- The value of a literal fits its type. -/
def LiteralFits (value : Scalar) (raw : String) : Option ValueType → Prop
  | some .number => value = .number (toNumber raw)
  | some .bool => value = .bool (raw != "false")
  | some .needsInference => value = .null
  | some .string => value = .string raw
  | some .list => False
  | none => value = .string raw

/-- A property without any mark. -/
def PlainProperty (p : Property Node) : Prop :=
  p.computed = false ∧ p.kind = .init ∧ p.method = false ∧ p.shorthand = false

/-- What a node carries fits what it is. -/
def WellFormed (v : Vocabulary) : Node → Prop
  | .binary operator sType _ _ =>
    operator ∉ ["++", "==", "!=", "^"] ∧
      ∃ token row, v.operators.get? token = some row ∧ token ≠ "^" ∧
        hostOperator token = operator ∧ sType = some row.resultType
  | .call callee arguments sType true =>
    callee = .member false (.identifier "Math") (.identifier "pow") ∧ arguments.length = 2 ∧
      sType = some .number
  | .call callee arguments (some t) false =>
    ∃ left right, callee = .member false left (.identifier "concat") ∧ arguments = [right] ∧
      t = if left.sType? = some .string ∧ right.sType? = some .string then .string else .list
  | .literal value raw sType => LiteralFits value raw sType
  | .program _ sourceType => sourceType = .script
  | .declaration declarators kind => declarators.length = 1 ∧ kind = .constWord
  | .arrow id _ _ generator expression => id = none ∧ generator = false ∧ expression = true
  | .unary _ _ before => before = true
  | .object properties => ∀ p ∈ properties, PlainProperty p
  | _ => True

/-- Every node inside of a node is well-formed. -/
def Sound (v : Vocabulary) (n : Node) : Prop :=
  ∀ m, m.Inside n → WellFormed v m

theorem sound_iff {v : Vocabulary} {n : Node} :
    Sound v n ↔ WellFormed v n ∧ ∀ m ∈ n.children, Sound v m := by
  constructor
  · intro sound
    exact ⟨sound n .self, fun m member part inside => sound part (.child member inside)⟩
  · rintro ⟨here, below⟩ part inside
    cases inside with
    | self => exact here
    | child member inside => exact below _ member part inside

/-! ## Each template keeps it -/

section Templates

variable {v : Vocabulary}

theorem sound_unwrap {n : Node} (sound : Sound v n) : Sound v n.unwrap := by
  cases n with
  | statement e => exact (sound_iff.1 sound).2 e (by simp [Node.children])
  | _ => exact sound

theorem sound_map_unwrap {ns : List Node} (sound : ∀ n ∈ ns, Sound v n) :
    ∀ n ∈ ns.map Node.unwrap, Sound v n := by
  intro n member
  obtain ⟨m, inList, rfl⟩ := List.mem_map.1 member
  exact sound_unwrap (sound m inList)

theorem sound_statement {n : Node} (sound : Sound v n) : Sound v (.statement n) :=
  sound_iff.2 ⟨trivial, List.forall_mem_singleton.2 sound⟩

theorem sound_identifier (name : String) : Sound v (.identifier name) :=
  sound_iff.2 ⟨trivial, List.forall_mem_nil _⟩

theorem sound_literal {value : Scalar} {raw : String} {sType : Option ValueType}
    (fits : LiteralFits value raw sType) : Sound v (.literal value raw sType) :=
  sound_iff.2 ⟨fits, List.forall_mem_nil _⟩

theorem sound_member {computed : Bool} {owner property : Node} (left : Sound v owner)
    (right : Sound v property) : Sound v (.member computed owner property) :=
  sound_iff.2 ⟨trivial, by simp [Node.children, left, right]⟩

theorem sound_globalMember (owner name : String) : Sound v (globalMember owner name) :=
  sound_member (sound_identifier owner) (sound_identifier name)

theorem sound_untypedCall {callee : Node} {arguments : List Node} (first : Sound v callee)
    (parts : ∀ n ∈ arguments, Sound v n) : Sound v (.call callee arguments none false) :=
  sound_iff.2 ⟨trivial, List.forall_mem_cons.2 ⟨first, parts⟩⟩

theorem sound_arrow {params : List Node} {body : Node} (parts : ∀ n ∈ params, Sound v n)
    (last : Sound v body) : Sound v (arrow params body) := by
  refine sound_iff.2 ⟨⟨rfl, rfl, rfl⟩, ?_⟩
  simpa [Node.children, arrow, or_imp, forall_and] using ⟨parts, sound_unwrap last⟩

theorem sound_constant {id init : Node} (left : Sound v id) (right : Sound v init) :
    Sound v (constant id init) :=
  sound_iff.2 ⟨⟨rfl, rfl⟩, by simp [Node.children, constant, left, right]⟩

theorem sound_consoleLog {arguments : List Node} (parts : ∀ n ∈ arguments, Sound v n) :
    Sound v (consoleLog arguments) :=
  sound_statement (sound_untypedCall (sound_globalMember "console" "log") parts)

theorem sound_power {base exponent : Node} (left : Sound v base) (right : Sound v exponent) :
    Sound v (power base exponent) :=
  sound_iff.2 ⟨⟨rfl, rfl, rfl⟩, by simp [Node.children, power, left, right, sound_globalMember]⟩

theorem sound_concat {left right : Node} (first : Sound v left) (second : Sound v right) :
    Sound v (concat left right) := by
  have callee : Sound v (.member false left (.identifier "concat")) :=
    sound_member first (sound_identifier "concat")
  exact sound_iff.2 ⟨⟨left, right, rfl, rfl, rfl⟩, by simp [Node.children, concat, callee, second]⟩

/-- The operators that the host reads otherwise are rewritten. -/
theorem hostOperator_notMem {token : String} (noPower : token ≠ "^") :
    hostOperator token ∉ ["++", "==", "!=", "^"] := by
  unfold hostOperator
  split
  · decide
  · decide
  · decide
  · simp_all

theorem sound_binary {left right n : Node} {token : String} (first : Sound v left)
    (second : Sound v right) (made : binary v left token right = .ok n) : Sound v n := by
  unfold binary at made
  split at made
  · cases made
  · rename_i t declared
    split at made
    · cases made
      exact sound_power (sound_unwrap first) (sound_unwrap second)
    · rename_i noPower
      cases made
      obtain ⟨row, found, rfl⟩ := Option.map_eq_some_iff.1 declared
      exact sound_iff.2 ⟨⟨hostOperator_notMem noPower, token, row, found, noPower, rfl, rfl⟩,
        by simp [Node.children, sound_unwrap first, sound_unwrap second]⟩

theorem sound_call {callee : Node} {arguments : List Node} (first : Sound v callee)
    (parts : ∀ n ∈ arguments, Sound v n) : Sound v (call v callee arguments) := by
  unfold call
  split
  · rename_i p _
    cases p with
    | print => exact sound_consoleLog (sound_map_unwrap parts)
  · exact sound_untypedCall (sound_unwrap first) (sound_map_unwrap parts)

/-- What holds of a piece: its nodes are sound, and a property has no mark. -/
def Piece.Sound (v : Vocabulary) : Piece → Prop
  | .node n => Build.Sound v n
  | .property p => PlainProperty p ∧ Build.Sound v p.key ∧ Build.Sound v p.value

/-- Every template keeps the invariant. -/
theorem Built.sound {piece : Piece} (built : Built v piece) : piece.Sound v := by
  induction built with
  | number raw => exact sound_literal rfl
  | boolean raw => exact sound_literal rfl
  | null raw => exact sound_literal rfl
  | string raw => exact sound_literal rfl
  | identifier name => exact sound_identifier name
  | comment kind text => exact sound_iff.2 ⟨trivial, List.forall_mem_nil _⟩
  | program _ parts => exact sound_iff.2 ⟨rfl, parts⟩
  | block _ parts => exact sound_iff.2 ⟨trivial, parts⟩
  | array _ parts => exact sound_iff.2 ⟨trivial, parts⟩
  | property _ _ key value => exact ⟨⟨rfl, rfl, rfl, rfl⟩, key, sound_unwrap value⟩
  | object _ parts =>
    refine sound_iff.2 ⟨fun p member => (parts p member).1, List.forall_mem_flatMap.2 ?_⟩
    intro p member
    simpa using (parts p member).2
  | declaration _ _ id value => exact sound_constant id (sound_unwrap value)
  | functionDeclaration _ _ _ id params body => exact sound_constant id (sound_arrow params body)
  | lambda _ _ params body => exact sound_statement (sound_arrow params body)
  | letIn _ _ _ params arguments body =>
    exact sound_untypedCall (sound_arrow params body) (sound_map_unwrap arguments)
  | access _ _ _ owner property =>
    exact sound_statement (sound_member (sound_unwrap owner) (sound_unwrap property))
  | conditional _ _ _ test consequent alternate =>
    refine sound_statement (sound_iff.2 ⟨trivial, ?_⟩)
    simp [Node.children, sound_unwrap test, sound_unwrap consequent, sound_unwrap alternate]
  | power _ _ base exponent => exact sound_power base exponent
  | concat _ _ left right => exact sound_concat left right
  | binary _ _ made left right => exact sound_binary left right made
  | unary operator _ argument =>
    exact sound_iff.2 ⟨rfl, List.forall_mem_singleton.2 (sound_unwrap argument)⟩
  | call _ _ callee arguments => exact sound_call callee arguments
  | print _ arguments => exact sound_consoleLog (sound_map_unwrap arguments)
  | complain message =>
    exact sound_consoleLog (List.forall_mem_singleton.2 (sound_literal rfl))
  | statement _ part => exact sound_statement part
  | unwrap _ part => exact sound_unwrap part

end Templates

/-- **Built trees are well-formed.** Every node inside of a node or a property that templates make
with a vocabulary is well-formed. -/
theorem built_wellFormed {v : Vocabulary} {piece : Piece} (built : Built v piece) :
    ∀ n ∈ piece.nodes, ∀ m : Node, m.Inside n → WellFormed v m := by
  intro n member
  cases piece with
  | node root =>
    obtain rfl := List.mem_singleton.1 member
    exact built.sound
  | property p =>
    obtain ⟨_, key, value⟩ := built.sound
    simp only [Piece.nodes, List.mem_cons, List.not_mem_nil, or_false] at member
    rcases member with rfl | rfl
    · exact key
    · exact value

/-- A comparison of a string with a concatenation of two others, which is wrapped. -/
def comparison : Node :=
  .binary "===" (some .bool) (string "a") (concat (string "b") (string "c"))

theorem built_wellFormed_comparison :
    Built .standard (.node (call .standard (identifier "print") [comparison])) ∧
      comparison.Inside (call .standard (identifier "print") [comparison]) ∧
      WellFormed .standard comparison := by
  have made : binary .standard (string "a") "==" (.statement (concat (string "b") (string "c"))) =
      .ok comparison := rfl
  have compared : Built .standard (.node comparison) :=
    .binary (.string "a") (.statement (.concat (.string "b") (.string "c"))) made
  have printed : Built .standard (.node (call .standard (identifier "print") [comparison])) :=
    .call (.identifier "print") (List.forall_mem_singleton.2 compared)
  have inside : comparison.Inside (call .standard (identifier "print") [comparison]) := by
    refine .child (List.mem_singleton_self _) (.child ?_ .self)
    exact List.mem_cons_of_mem _ (List.mem_singleton_self _)
  exact ⟨printed, inside, built_wellFormed printed _ (List.mem_singleton_self _) _ inside⟩

end ScriptTree.Build
