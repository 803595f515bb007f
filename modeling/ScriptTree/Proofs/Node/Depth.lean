import ScriptTree.Proofs.Json.ReadValues
import ScriptTree.Proofs.Node.RoundTrip

/-!
# The depth of a written tree

`Node.placed` gives the nodes directly inside of a node with the number of containers around each of
them in its text: one around a node that is the value of a member, two around an element of a list,
three around the nodes of a declarator or property. The depth of the text follows from that and from
the depth of the node itself.
-/

namespace ScriptTree
set_option autoImplicit false

namespace Node

/-- The nodes directly inside of a node, with the number of containers around each of them. -/
def placed : Node → List (Nat × Node)
  | .program body _ | .block body | .array body => body.map (2, ·)
  | .statement e => [(1, e)]
  | .call callee arguments _ _ => (1, callee) :: arguments.map (2, ·)
  | .member _ owner property => [(1, owner), (1, property)]
  | .identifier _ | .literal _ _ _ | .comment _ => []
  | .declaration ds _ => ds.flatMap fun d => [(3, d.id), (3, d.init)]
  | .arrow id params body _ _ => id.toList.map (1, ·) ++ params.map (2, ·) ++ [(1, body)]
  | .binary _ _ left right => [(1, left), (1, right)]
  | .unary _ argument _ => [(1, argument)]
  | .conditional test consequent alternate => [(1, test), (1, consequent), (1, alternate)]
  | .object ps => ps.flatMap fun p => [(3, p.key), (3, p.value)]

/-- The depth of a node without the nodes inside of it. -/
def ownDepth : Node → Nat
  | .program _ _ | .call _ _ _ _ | .declaration _ _ | .arrow _ _ _ _ _ | .block _ | .array _
  | .object _ => 2
  | _ => 1

theorem children_eq_placed (n : Node) : n.children = n.placed.map Prod.snd := by
  cases n <;> simp [children, placed, Function.comp_def, List.map_flatMap]

/-- The depth of a written object comes from itself or from its members. -/
theorem add_depth_typedObject_le {type : String} {members : List (String × Json)}
    {level bound : Nat} :
    level + (typedObject type members).depth ≤ bound ↔
      level + 1 ≤ bound ∧ ∀ member ∈ members, level + 1 + member.2.depth ≤ bound := by
  rw [Json.add_depth_le_iff (by exact id)]
  simp only [typedObject, Json.parts, List.forall_mem_map, List.forall_mem_cons, Json.depth]
  exact and_congr_right fun here => and_iff_right here

theorem add_depth_array_le {vs : List Json} {level bound : Nat} :
    level + (Json.array vs).depth ≤ bound ↔
      level + 1 ≤ bound ∧ ∀ v ∈ vs, level + 1 + v.depth ≤ bound :=
  Json.add_depth_le_iff (by exact id)

theorem add_depth_sTypeMember_le {level bound : Nat} (sType : Option ValueType)
    (here : level ≤ bound) : ∀ member ∈ sTypeMember sType, level + member.2.depth ≤ bound := by
  cases sType with
  | none => simp [sTypeMember]
  | some t =>
    intro member h
    rw [List.mem_singleton.1 h]
    exact here

theorem add_depth_isPowerMember_le {level bound : Nat} (isPower : Bool)
    (here : level ≤ bound) : ∀ member ∈ isPowerMember isPower, level + member.2.depth ≤ bound := by
  cases isPower with
  | false => simp [isPowerMember]
  | true =>
    intro member h
    rw [List.mem_singleton.1 h]
    exact here

theorem depth_null : Json.null.depth = 0 :=
  rfl

theorem depth_bool (b : Bool) : (Json.bool b).depth = 0 :=
  rfl

theorem depth_string (s : String) : (Json.string s).depth = 0 :=
  rfl

theorem depth_wordJson {α : Type} [Named α] (a : α) : (wordJson a).depth = 0 :=
  rfl

theorem depth_scalar (value : Scalar) : value.toJson.depth = 0 := by
  cases value <;> rfl

theorem one_le_ownDepth (n : Node) : 1 ≤ n.ownDepth := by
  cases n <;> simp [ownDepth]

/-- The depth of a written node comes from itself or from a node inside of it. -/
theorem depth_toJson_le {n : Node} {bound : Nat} (own : n.ownDepth ≤ bound)
    (inner : ∀ p ∈ n.placed, p.1 + p.2.toJson.depth ≤ bound) : n.toJson.depth ≤ bound := by
  rw [← Nat.zero_add n.toJson.depth]
  have one : 1 ≤ bound := Nat.le_trans n.one_le_ownDepth own
  cases n with
  | call callee arguments sType isPower =>
    simp only [placed, List.forall_mem_cons, List.forall_mem_map] at inner
    simp only [toJson, allToJson_eq, add_depth_typedObject_le, add_depth_array_le,
      List.forall_mem_cons, List.forall_mem_append, List.forall_mem_map]
    exact ⟨one, inner.1, ⟨own, inner.2⟩, add_depth_sTypeMember_le sType one,
      add_depth_isPowerMember_le isPower one⟩
  | literal value raw sType =>
    simp only [toJson, add_depth_typedObject_le, List.forall_mem_cons, depth_scalar]
    exact ⟨one, one, one, add_depth_sTypeMember_le sType one⟩
  | binary operator sType left right =>
    simp only [placed, List.forall_mem_cons] at inner
    simp only [toJson, add_depth_typedObject_le, List.forall_mem_cons, List.forall_mem_append]
    exact ⟨one, one, add_depth_sTypeMember_le sType one, inner.1, inner.2.1,
      List.forall_mem_nil _⟩
  | declaration ds kind =>
    simp only [placed, List.forall_mem_flatMap, List.forall_mem_cons] at inner
    simp only [toJson, declaratorsToJson_eq, add_depth_typedObject_le, add_depth_array_le,
      List.forall_mem_cons, List.forall_mem_map]
    refine ⟨one, ⟨own, fun d member => ?_⟩, one, List.forall_mem_nil _⟩
    obtain ⟨inId, inInit, -⟩ := inner d member
    exact ⟨by omega, inId, inInit, List.forall_mem_nil _⟩
  | object ps =>
    simp only [placed, List.forall_mem_flatMap, List.forall_mem_cons] at inner
    simp only [toJson, propertiesToJson_eq, Property.toJson, add_depth_typedObject_le,
      add_depth_array_le, List.forall_mem_cons, List.forall_mem_map, depth_bool, depth_wordJson,
      Nat.add_zero]
    refine ⟨one, ⟨own, fun p member => ?_⟩, List.forall_mem_nil _⟩
    obtain ⟨inKey, inValue, -⟩ := inner p member
    have three : 3 ≤ bound := by omega
    exact ⟨three, inKey, three, inValue, three, three, three, List.forall_mem_nil _⟩
  | arrow id params body generator expression =>
    simp only [placed, List.forall_mem_append, List.forall_mem_map, List.forall_mem_singleton]
      at inner
    obtain ⟨⟨inId, inParams⟩, inBody⟩ := inner
    cases id with
    | none =>
      simp only [toJson, allToJson_eq, add_depth_typedObject_le, add_depth_array_le,
        List.forall_mem_cons, List.forall_mem_map, depth_bool, depth_null, Nat.add_zero]
      exact ⟨one, one, ⟨own, inParams⟩, inBody, one, one, List.forall_mem_nil _⟩
    | some id =>
      simp only [toJson, allToJson_eq, add_depth_typedObject_le, add_depth_array_le,
        List.forall_mem_cons, List.forall_mem_map, depth_bool, Nat.add_zero]
      exact ⟨one, inId id (by simp), ⟨own, inParams⟩, inBody, one, one, List.forall_mem_nil _⟩
  | identifier _ | comment _ =>
    simp only [toJson, add_depth_typedObject_le, List.forall_mem_cons]
    exact ⟨one, one, List.forall_mem_nil _⟩
  | _ =>
    simp only [placed, ownDepth, List.forall_mem_map, List.forall_mem_cons] at inner own
    simp only [toJson, allToJson_eq, add_depth_typedObject_le, add_depth_array_le,
      List.forall_mem_cons, List.forall_mem_map, depth_bool, depth_string, depth_wordJson,
      Nat.reduceAdd, Nat.add_zero, one, own, true_and]
    simpa using inner

end Node

end ScriptTree
