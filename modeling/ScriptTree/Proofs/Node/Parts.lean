import ScriptTree.Node

/-!
# Parts of a tree

The nodes inside of a node are reached through its children. `Node.induction` proves a property of
all nodes from the children upwards.
-/

namespace ScriptTree
set_option autoImplicit false

namespace Node

/-- The nodes that stand directly inside of a node. -/
def children : Node → List Node
  | .program body _ => body
  | .statement e => [e]
  | .call callee arguments _ _ => callee :: arguments
  | .member _ owner property => [owner, property]
  | .identifier _ => []
  | .literal _ _ _ => []
  | .declaration ds _ => ds.flatMap fun d => [d.id, d.init]
  | .arrow id params body _ _ => id.toList ++ params ++ [body]
  | .binary _ _ left right => [left, right]
  | .unary _ argument _ => [argument]
  | .block body => body
  | .conditional test consequent alternate => [test, consequent, alternate]
  | .array elements => elements
  | .object ps => ps.flatMap fun p => [p.key, p.value]
  | .comment _ => []

/-- A node is a tree itself or stands inside of it, at any depth. -/
inductive Inside (part : Node) : Node → Prop where
  | self : Inside part part
  | child {n m : Node} (member : m ∈ n.children) (inside : Inside part m) : Inside part n

theorem sizeOf_lt_of_mem_children {n m : Node} (h : m ∈ n.children) : sizeOf m < sizeOf n := by
  cases n with
  | program body sourceType =>
    have : sizeOf m < sizeOf body := List.sizeOf_lt_of_mem h
    simp
    omega
  | statement e => simp_all [children]
  | call callee arguments sType isPower =>
    rcases List.mem_cons.1 h with rfl | h
    · simp
      omega
    · have := List.sizeOf_lt_of_mem h
      simp
      omega
  | member computed owner property =>
    simp only [children, List.mem_cons, List.not_mem_nil, or_false] at h
    rw [Node.member.sizeOf_spec]
    rcases h with rfl | rfl <;> omega
  | identifier name => simp [children] at h
  | literal value raw sType => simp [children] at h
  | declaration ds kind =>
    obtain ⟨d, member, h⟩ := List.mem_flatMap.1 h
    have := List.sizeOf_lt_of_mem member
    obtain ⟨id, init⟩ := d
    simp only [List.mem_cons, List.not_mem_nil, or_false] at h
    rcases h with rfl | rfl <;> simp_all <;> omega
  | arrow id params body generator expression =>
    simp only [children, List.mem_append, Option.mem_toList, List.mem_singleton] at h
    rcases h with (rfl | h) | rfl
    · simp
      omega
    · have := List.sizeOf_lt_of_mem h
      simp
      omega
    · simp
      omega
  | binary operator sType left right =>
    simp only [children, List.mem_cons, List.not_mem_nil, or_false] at h
    rw [Node.binary.sizeOf_spec]
    rcases h with rfl | rfl <;> omega
  | unary operator argument before =>
    rw [List.mem_singleton.1 h, Node.unary.sizeOf_spec]
    omega
  | block body =>
    have : sizeOf m < sizeOf body := List.sizeOf_lt_of_mem h
    simp
    omega
  | conditional test consequent alternate =>
    simp only [children, List.mem_cons, List.not_mem_nil, or_false] at h
    rw [Node.conditional.sizeOf_spec]
    rcases h with rfl | rfl | rfl <;> omega
  | array elements =>
    have : sizeOf m < sizeOf elements := List.sizeOf_lt_of_mem h
    simp
    omega
  | object ps =>
    obtain ⟨p, member, h⟩ := List.mem_flatMap.1 h
    have := List.sizeOf_lt_of_mem member
    obtain ⟨key, computed, value, kind, method, shorthand⟩ := p
    simp only [List.mem_cons, List.not_mem_nil, or_false] at h
    rcases h with rfl | rfl <;> simp_all <;> omega
  | comment c => simp [children] at h

/-- **Induction over a tree**, from the children to the node. -/
theorem induction {P : Node → Prop} (step : ∀ n : Node, (∀ m ∈ n.children, P m) → P n) (n : Node) :
    P n :=
  step n fun m _ => induction step m
termination_by sizeOf n
decreasing_by exact sizeOf_lt_of_mem_children ‹_›

end Node

end ScriptTree
