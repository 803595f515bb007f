import ScriptTree.Proofs.Node.Depth

/-!
# What a tree was read from

The reader takes many values for the same tree: members in any order, unknown members, members that
may be left out, declarators and properties as lists, comments whose kind is the name of a sort of
node. Whatever the value is, the nodes directly inside of a node were read from values that stand in
it as deep as the nodes stand in the text that is written for the node: `readFrom_of_node`. What is
passed on from the values inside to the value holds of all that is read: `node_induction`.
-/

namespace ScriptTree
set_option autoImplicit false
open Json (At)

/-- A node was read from a value that stands in another one, with so many containers around it. -/
def ReadAt (level : Nat) (v : Json) (n : Node) : Prop :=
  ∃ w, At level w v ∧ Decode.node w = .ok n

namespace Decode

theorem nodeList_eq_mapM (vs : List Json) : nodeList vs = vs.mapM node := by
  induction vs with
  | nil =>
    rw [nodeList]
    rfl
  | cons v vs ih => rw [nodeList, ih, List.mapM_cons]

theorem declaratorList_eq_mapM (vs : List Json) : declaratorList vs = vs.mapM declarator := by
  induction vs with
  | nil =>
    rw [declaratorList]
    rfl
  | cons v vs ih => rw [declaratorList, ih, List.mapM_cons]

theorem propertyList_eq_mapM (vs : List Json) : propertyList vs = vs.mapM property := by
  induction vs with
  | nil =>
    rw [propertyList]
    rfl
  | cons v vs ih => rw [propertyList, ih, List.mapM_cons]

/-- A list of what is read from each of its elements. -/
def listOf {α : Type} (read : Json → Decoded α) : Json → Decoded (List α)
  | .array vs => vs.mapM read
  | v => .error (.wrongType (Json.found v) .sequence)

theorem nodes_eq_listOf (v : Json) : nodes v = listOf node v := by
  unfold nodes
  cases v <;> simp [listOf, nodeList_eq_mapM]

theorem declarators_eq_listOf (v : Json) : declarators v = listOf declarator v := by
  unfold declarators
  cases v <;> simp [listOf, declaratorList_eq_mapM]

theorem properties_eq_listOf (v : Json) : properties v = listOf property v := by
  unfold properties
  cases v <;> simp [listOf, propertyList_eq_mapM]

section

variable {v : Json} {level : Nat}

/-- What is read as a list is a list, and its elements are read. -/
theorem mem_of_listOf {α : Type} {read : Json → Decoded α} {as : List α} {w : Json}
    (inside : At level w v) (h : listOf read w = .ok as) :
    level + 1 ≤ v.depth ∧ ∀ a ∈ as, ∃ u, At (level + 1) u v ∧ read u = .ok a := by
  cases w with
  | array vs =>
    refine ⟨Nat.le_trans (Nat.add_le_add_left (Nat.succ_pos _) level) inside.depth_le, ?_⟩
    intro a member
    obtain ⟨u, element, found⟩ := mem_of_mapM_eq_ok h a member
    exact ⟨u, inside.part element, found⟩
  | _ => cases h

/-- A node that was read from a member stands directly inside of the object. -/
theorem readAt_of_field? {members : List (String × Json)} {key : String} {n : Node}
    (inside : At level (.object members) v)
    (h : field? members key (fun w _ => node w) = .ok (some n)) : ReadAt (level + 1) v n := by
  obtain ⟨w, found, read⟩ := field?_eq_some.1 h
  exact ⟨w, inside.member found, read⟩

/-- The nodes of a declarator were read directly inside of it. -/
theorem readAt_of_declarator {w : Json} {d : Declarator Node} (inside : At level w v)
    (h : declarator w = .ok d) : ∀ n ∈ [d.id, d.init], ReadAt (level + 1) v n := by
  unfold declarator at h
  rw [List.forall_mem_cons, List.forall_mem_singleton]
  split at h
  · simp only [bind_eq_ok, require_eq_ok] at h
    obtain ⟨_, readId, _, readInit, id, rfl, init, rfl, made⟩ := h
    cases made
    exact ⟨readAt_of_field? inside readId, readAt_of_field? inside readInit⟩
  · cases h
  · obtain ⟨_, -, h⟩ := bind_eq_ok.1 h
    cases h
  · rename_i i j more
    simp only [bind_eq_ok] at h
    obtain ⟨id, readId, init, readInit, h⟩ := h
    split at h
    · cases h
      exact ⟨⟨i, inside.part List.mem_cons_self, readId⟩,
        ⟨j, inside.part (List.mem_cons_of_mem i List.mem_cons_self), readInit⟩⟩
    · cases h
  · cases h

/-- A property that is a list has its key first and its value third. -/
theorem propertyFields_eq_ok {vs : List Json} {p : Property Node} (h : propertyFields vs = .ok p) :
    ∃ key computed value more, vs = key :: computed :: value :: more ∧
      node key = .ok p.key ∧ node value = .ok p.value := by
  unfold propertyFields at h
  match vs with
  | [] => cases h
  | [key] =>
    obtain ⟨k, -, h⟩ := bind_eq_ok.1 h
    cases h
  | [key, computed] =>
    obtain ⟨k, -, h⟩ := bind_eq_ok.1 h
    obtain ⟨c, -, h⟩ := bind_eq_ok.1 h
    cases h
  | key :: computed :: value :: more =>
    obtain ⟨k, readKey, h⟩ := bind_eq_ok.1 h
    obtain ⟨c, -, h⟩ := bind_eq_ok.1 h
    obtain ⟨x, readValue, h⟩ := bind_eq_ok.1 h
    refine ⟨key, computed, value, more, rfl, ?_⟩
    -- the fields that are left hold no nodes
    split at h
    · cases h
    · obtain ⟨kind, -, h⟩ := bind_eq_ok.1 h
      split at h
      · cases h
      · obtain ⟨method, -, h⟩ := bind_eq_ok.1 h
        split at h
        · cases h
        · obtain ⟨shorthand, -, h⟩ := bind_eq_ok.1 h
          split at h
          · cases h
            exact ⟨readKey, readValue⟩
          · cases h

/-- The nodes of a property were read directly inside of it. -/
theorem readAt_of_property {w : Json} {p : Property Node} (inside : At level w v)
    (h : property w = .ok p) : ∀ n ∈ [p.key, p.value], ReadAt (level + 1) v n := by
  unfold property at h
  rw [List.forall_mem_cons, List.forall_mem_singleton]
  split at h
  · simp only [bind_eq_ok, require_eq_ok] at h
    obtain ⟨_, -, _, readKey, _, -, _, -, _, -, _, readValue, key, rfl, _, -, value, rfl, _, -, _,
      -, _, -, made⟩ := h
    cases made
    exact ⟨readAt_of_field? inside readKey, readAt_of_field? inside readValue⟩
  · obtain ⟨key, computed, value, more, rfl, readKey, readValue⟩ := propertyFields_eq_ok h
    exact ⟨⟨key, inside.part (by simp [Json.parts]), readKey⟩,
      ⟨value, inside.part (by simp [Json.parts]), readValue⟩⟩
  · cases h

/-- A list that was read from a member of an object, with the values of its elements. -/
theorem mem_of_listField? {α : Type} {read : Json → Decoded α} {members : List (String × Json)}
    {key : String} {as : List α}
    (h : field? members key (fun w _ => listOf read w) = .ok (some as)) :
    2 ≤ (Json.object members).depth ∧
      ∀ a ∈ as, ∃ u, At 2 u (.object members) ∧ read u = .ok a := by
  obtain ⟨w, found, read⟩ := field?_eq_some.1 h
  have here : At 0 (.object members) (.object members) := rfl
  exact mem_of_listOf (here.member found) read

end

/-- What is known of a node that was read from a value: the value is as deep as the node itself, and
it holds the values that the nodes directly inside and the value of a literal were read from. -/
structure ReadFrom (v : Json) (n : Node) : Prop where
  own : n.ownDepth ≤ v.depth
  inner : ∀ p ∈ n.placed, ReadAt p.1 v p.2
  value : ∀ value raw sType, n = .literal value raw sType →
    ∃ w, At 1 w v ∧ scalar w = .ok value

/-- **What a record was read from**, by its sort. -/
theorem readFrom_of_record {type : NodeType} {members : List (String × Json)} {n : Node}
    (h : record type members = .ok n) : ReadFrom (.object members) n := by
  have here : At 0 (.object members) (.object members) := rfl
  have one : 1 ≤ (Json.object members).depth := Nat.succ_pos _
  cases type with
  | program =>
    rw [record] at h
    simp only [bind_eq_ok, require_eq_ok, nodes_eq_listOf] at h
    obtain ⟨_, readBody, _, -, body, rfl, made⟩ := h
    cases made
    obtain ⟨two, inBody⟩ := mem_of_listField? readBody
    exact ⟨two, List.forall_mem_map.2 inBody, by simp⟩
  | statement =>
    rw [record] at h
    simp only [bind_eq_ok, require_eq_ok] at h
    obtain ⟨_, readExpression, e, rfl, made⟩ := h
    cases made
    exact ⟨one, List.forall_mem_singleton.2 (readAt_of_field? here readExpression), by simp⟩
  | call =>
    rw [record] at h
    simp only [bind_eq_ok, require_eq_ok, nodes_eq_listOf] at h
    obtain ⟨_, readArguments, _, readCallee, _, -, _, -, callee, rfl, arguments, rfl, made⟩ := h
    cases made
    obtain ⟨two, inArguments⟩ := mem_of_listField? readArguments
    exact ⟨two, List.forall_mem_cons.2
      ⟨readAt_of_field? here readCallee, List.forall_mem_map.2 inArguments⟩, by simp⟩
  | member =>
    rw [record] at h
    simp only [bind_eq_ok, require_eq_ok] at h
    obtain ⟨_, -, _, readOwner, _, readProperty, _, -, owner, rfl, property, rfl, made⟩ := h
    cases made
    exact ⟨one, List.forall_mem_cons.2 ⟨readAt_of_field? here readOwner,
      List.forall_mem_singleton.2 (readAt_of_field? here readProperty)⟩, by simp⟩
  | identifier =>
    rw [record] at h
    simp only [bind_eq_ok, require_eq_ok] at h
    obtain ⟨_, -, name, -, made⟩ := h
    cases made
    exact ⟨one, List.forall_mem_nil _, by simp⟩
  | literal =>
    rw [record] at h
    simp only [bind_eq_ok, require_eq_ok] at h
    obtain ⟨_, -, _, -, _, readValue, value, rfl, raw, -, made⟩ := h
    cases made
    refine ⟨one, List.forall_mem_nil _, ?_⟩
    rintro _ _ _ ⟨rfl, rfl, rfl⟩
    obtain ⟨w, found, read⟩ := field?_eq_some.1 readValue
    exact ⟨w, here.member found, read⟩
  | declaration =>
    rw [record] at h
    simp only [bind_eq_ok, require_eq_ok, declarators_eq_listOf] at h
    obtain ⟨_, readDeclarators, _, -, ds, rfl, kind, -, made⟩ := h
    cases made
    obtain ⟨two, inDeclarators⟩ := mem_of_listField? readDeclarators
    refine ⟨two, List.forall_mem_flatMap.2 fun d member => ?_, by simp⟩
    obtain ⟨u, inside, readDeclarator⟩ := inDeclarators d member
    simpa using readAt_of_declarator inside readDeclarator
  | arrow =>
    rw [record] at h
    simp only [bind_eq_ok, require_eq_ok, nodes_eq_listOf] at h
    obtain ⟨_, readBody, _, -, _, -, id, readId, _, readParams, params, rfl, body, rfl, _, -, _, -,
      made⟩ := h
    cases made
    obtain ⟨two, inParams⟩ := mem_of_listField? readParams
    have inId : ∀ m ∈ id.join.toList, ReadAt 1 (.object members) m := by
      intro m member
      obtain rfl : id = some (some m) := by simpa [Option.join_eq_some_iff] using member
      obtain ⟨w, found, read⟩ := field?_eq_some.1 readId
      split at read
      · cases read
      · obtain ⟨_, read, same⟩ := map_eq_ok.1 read
        cases same
        exact ⟨w, here.member found, read⟩
    exact ⟨two, List.forall_mem_append.2 ⟨List.forall_mem_append.2
      ⟨List.forall_mem_map.2 inId, List.forall_mem_map.2 inParams⟩,
      List.forall_mem_singleton.2 (readAt_of_field? here readBody)⟩, by simp⟩
  | binary =>
    rw [record] at h
    simp only [bind_eq_ok, require_eq_ok] at h
    obtain ⟨_, readLeft, _, -, _, readRight, _, -, operator, -, left, rfl, right, rfl, made⟩ := h
    cases made
    exact ⟨one, List.forall_mem_cons.2 ⟨readAt_of_field? here readLeft,
      List.forall_mem_singleton.2 (readAt_of_field? here readRight)⟩, by simp⟩
  | unary =>
    rw [record] at h
    simp only [bind_eq_ok, require_eq_ok] at h
    obtain ⟨_, readArgument, _, -, _, -, operator, -, argument, rfl, before, -, made⟩ := h
    cases made
    exact ⟨one, List.forall_mem_singleton.2 (readAt_of_field? here readArgument), by simp⟩
  | block =>
    rw [record] at h
    simp only [bind_eq_ok, require_eq_ok, nodes_eq_listOf] at h
    obtain ⟨_, readBody, body, rfl, made⟩ := h
    cases made
    obtain ⟨two, inBody⟩ := mem_of_listField? readBody
    exact ⟨two, List.forall_mem_map.2 inBody, by simp⟩
  | conditional =>
    rw [record] at h
    simp only [bind_eq_ok, require_eq_ok] at h
    obtain ⟨_, readAlternate, _, readConsequent, _, readTest, test, rfl, consequent, rfl, alternate,
      rfl, made⟩ := h
    cases made
    exact ⟨one, List.forall_mem_cons.2 ⟨readAt_of_field? here readTest,
      List.forall_mem_cons.2 ⟨readAt_of_field? here readConsequent,
        List.forall_mem_singleton.2 (readAt_of_field? here readAlternate)⟩⟩, by simp⟩
  | array =>
    rw [record] at h
    simp only [bind_eq_ok, require_eq_ok, nodes_eq_listOf] at h
    obtain ⟨_, readElements, elements, rfl, made⟩ := h
    cases made
    obtain ⟨two, inElements⟩ := mem_of_listField? readElements
    exact ⟨two, List.forall_mem_map.2 inElements, by simp⟩
  | object =>
    rw [record] at h
    simp only [bind_eq_ok, require_eq_ok, properties_eq_listOf] at h
    obtain ⟨_, readProperties, ps, rfl, made⟩ := h
    cases made
    obtain ⟨two, inProperties⟩ := mem_of_listField? readProperties
    refine ⟨two, List.forall_mem_flatMap.2 fun p member => ?_, by simp⟩
    obtain ⟨u, inside, readProperty⟩ := inProperties p member
    simpa using readAt_of_property inside readProperty

theorem readFrom_comment (members : List (String × Json)) (c : Comment) :
    ReadFrom (.object members) (.comment c) :=
  ⟨Nat.succ_pos _, List.forall_mem_nil _, by simp⟩

/-- What a node was read from. -/
theorem readFrom_of_node {v : Json} {n : Node} (h : node v = .ok n) : ReadFrom v n := by
  unfold node at h
  split at h
  · split at h
    · split at h
      · split at h
        · cases h
          exact readFrom_comment _ _
        · cases h
      · split at h
        · rename_i read
          cases h
          exact readFrom_of_record read
        · split at h
          · cases h
            exact readFrom_comment _ _
          · cases h
    · cases h
  · cases h

/-- **Induction over what was read**, from the nodes inside of a node to the node. -/
theorem node_induction {P : Json → Node → Prop}
    (step : ∀ v n, ReadFrom v n → (∀ p ∈ n.placed, ∃ w, At p.1 w v ∧ P w p.2) → P v n)
    {v : Json} {n : Node} (h : node v = .ok n) : P v n := by
  induction n using Node.induction generalizing v with
  | step n ih =>
    have source := readFrom_of_node h
    refine step v n source fun p member => ?_
    obtain ⟨w, inside, read⟩ := source.inner p member
    have child : p.2 ∈ n.children := by
      rw [Node.children_eq_placed]
      exact List.mem_map_of_mem member
    exact ⟨w, inside, ih p.2 child read⟩

end Decode

end ScriptTree
