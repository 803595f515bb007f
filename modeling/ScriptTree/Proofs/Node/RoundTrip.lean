import ScriptTree.Node.Text
import ScriptTree.Proofs.Json.ReadBack
import ScriptTree.Proofs.Node.Decode
import ScriptTree.Proofs.Node.Parts

/-!
# A written tree is read back

The text of a tree is read back as the same tree, but for its numbers: a number is replaced by the
one that is read from its text, and a number that is not finite by null. A comment stays a comment,
also if its kind is the name of a sort of node, and a node never becomes one. This holds for trees
that are not nested too deep; other texts are refused.
-/

namespace ScriptTree
set_option autoImplicit false
open Number
open Json (reread? rereadAll? rereadMembers?)

/-! ## The tree that is read back -/

namespace Node

mutual

/-- The tree with the values of its literals replaced. -/
def mapScalars (f : Scalar → Scalar) : Node → Node
  | .program body sourceType => .program (mapScalarsAll f body) sourceType
  | .statement e => .statement (e.mapScalars f)
  | .call callee arguments sType isPower =>
    .call (callee.mapScalars f) (mapScalarsAll f arguments) sType isPower
  | .member computed owner property =>
    .member computed (owner.mapScalars f) (property.mapScalars f)
  | .identifier name => .identifier name
  | .literal value raw sType => .literal (f value) raw sType
  | .declaration ds kind => .declaration (mapScalarsDeclarators f ds) kind
  | .arrow none params body generator expression =>
    .arrow none (mapScalarsAll f params) (body.mapScalars f) generator expression
  | .arrow (some id) params body generator expression =>
    .arrow (some (id.mapScalars f)) (mapScalarsAll f params) (body.mapScalars f) generator
      expression
  | .binary operator sType left right =>
    .binary operator sType (left.mapScalars f) (right.mapScalars f)
  | .unary operator argument before => .unary operator (argument.mapScalars f) before
  | .block body => .block (mapScalarsAll f body)
  | .conditional test consequent alternate =>
    .conditional (test.mapScalars f) (consequent.mapScalars f) (alternate.mapScalars f)
  | .array elements => .array (mapScalarsAll f elements)
  | .object ps => .object (mapScalarsProperties f ps)
  | .comment c => .comment c

/-- The same for the nodes of a list. -/
def mapScalarsAll (f : Scalar → Scalar) : List Node → List Node
  | [] => []
  | n :: rest => n.mapScalars f :: mapScalarsAll f rest

/-- The same for declarators. -/
def mapScalarsDeclarators (f : Scalar → Scalar) : List (Declarator Node) → List (Declarator Node)
  | [] => []
  | ⟨id, init⟩ :: rest =>
    ⟨id.mapScalars f, init.mapScalars f⟩ :: mapScalarsDeclarators f rest

/-- The same for properties. -/
def mapScalarsProperties (f : Scalar → Scalar) : List (Property Node) → List (Property Node)
  | [] => []
  | ⟨key, computed, value, kind, method, shorthand⟩ :: rest =>
    ⟨key.mapScalars f, computed, value.mapScalars f, kind, method, shorthand⟩ ::
      mapScalarsProperties f rest

end

end Node

/-- The number that is read from the text of a number; one that is refused stays. -/
def Number.Binary64.reread (x : Binary64) : Binary64 :=
  match Json.readNumber (Json.realText x) with
  | .ok (.real y) => y
  | .ok (.integer n) => .ofInt n
  | _ => x

/-- The value that is read from the text of the value of a literal. -/
def Scalar.canon : Scalar → Scalar
  | .number (.finite negative m) => .number (Binary64.reread (.finite negative m))
  | .number _ => .null
  | v => v

/-- The tree that is read from the text of a tree. -/
def Node.canon (t : Node) : Node :=
  t.mapScalars Scalar.canon

/-! ## Reading back what is made of nodes -/

theorem reread?_array {vs : List Json} {w : Json} :
    (Json.array vs).reread? = some w ↔ ∃ ws, rereadAll? vs = some ws ∧ .array ws = w := by
  simp [reread?]

theorem reread?_typedObject {type : String} {members : List (String × Json)} {w : Json} :
    (typedObject type members).reread? = some w ↔
      ∃ ms, rereadMembers? [("type", .string type)] members = some ms ∧ .object ms = w := by
  simp [typedObject, reread?, rereadMembers?, insertEntry]

theorem reread?_string (s : String) : (Json.string s).reread? = some (.string s) :=
  rfl

theorem reread?_null : Json.null.reread? = some .null :=
  rfl

theorem reread?_bool (b : Bool) : (Json.bool b).reread? = some (.bool b) :=
  rfl

theorem reread?_wordJson {α : Type} [Named α] (a : α) :
    (wordJson a).reread? = some (wordJson a) :=
  rfl

theorem rereadMembers?_nil {before ms : List (String × Json)} :
    rereadMembers? before [] = some ms ↔ before = ms := by
  simp [rereadMembers?]

theorem rereadMembers?_cons {before ms rest : List (String × Json)} {key : String} {v : Json} :
    rereadMembers? before ((key, v) :: rest) = some ms ↔
      ∃ w, v.reread? = some w ∧ rereadMembers? (insertEntry key w before) rest = some ms := by
  simp [rereadMembers?, Option.bind_eq_some_iff]

theorem lookup_rereadMembers? {before members ms : List (String × Json)} {key : String}
    (other : key ∉ members.map Prod.fst) (read : rereadMembers? before members = some ms) :
    ms.lookup key = before.lookup key := by
  induction members generalizing before with
  | nil =>
    cases read
    rfl
  | cons head rest ih =>
    obtain ⟨k, v⟩ := head
    simp only [List.map_cons, List.mem_cons, not_or] at other
    obtain ⟨w, _, readRest⟩ := rereadMembers?_cons.1 read
    rw [ih other.2 readRest, lookup_insertEntry, if_neg other.1]

/-- A node is read back if its record is. -/
theorem record_reread (type : NodeType) {members : List (String × Json)} {w : Json} {n : Node}
    (read : (typedObject type.name members).reread? = some w)
    (untyped : "type" ∉ members.map Prod.fst)
    (decoded : ∀ ms, rereadMembers? [("type", .string type.name)] members = some ms →
      Decode.record type ms = .ok n) : Decode.node w = .ok n := by
  obtain ⟨ms, readMembers, rfl⟩ := reread?_typedObject.1 read
  refine Decode.node_of_record type ?_ (decoded ms readMembers)
  rw [lookup_rereadMembers? untyped readMembers]
  simp

/-- The nodes of a list are read back if each of them is. -/
theorem nodeList_reread {ns : List Node} {ws : List Json}
    (each : ∀ n ∈ ns, ∀ w, n.toJson.reread? = some w → Decode.node w = .ok n.canon)
    (read : rereadAll? (Node.allToJson ns) = some ws) :
    Decode.nodeList ws = .ok (Node.mapScalarsAll Scalar.canon ns) := by
  induction ns generalizing ws with
  | nil =>
    cases read
    rw [Decode.nodeList]
    rfl
  | cons n ns ih =>
    simp only [Node.allToJson, rereadAll?, Option.bind_eq_some_iff, Option.map_eq_some_iff] at read
    obtain ⟨w, readFirst, rest, readRest, rfl⟩ := read
    rw [Decode.nodeList, each n (by simp) w readFirst,
      ih (fun m member => each m (by simp [member])) readRest]
    rfl

/-- The declarators of a list are read back if each of their nodes is. -/
theorem declaratorList_reread {ds : List (Declarator Node)} {ws : List Json}
    (each : ∀ d ∈ ds, ∀ n ∈ [d.id, d.init], ∀ w, n.toJson.reread? = some w →
      Decode.node w = .ok n.canon)
    (read : rereadAll? (Node.declaratorsToJson ds) = some ws) :
    Decode.declaratorList ws = .ok (Node.mapScalarsDeclarators Scalar.canon ds) := by
  induction ds generalizing ws with
  | nil =>
    cases read
    rw [Decode.declaratorList]
    rfl
  | cons d ds ih =>
    obtain ⟨id, init⟩ := d
    simp only [Node.declaratorsToJson, rereadAll?, Option.bind_eq_some_iff,
      Option.map_eq_some_iff, reread?_typedObject, rereadMembers?_cons, rereadMembers?_nil] at read
    obtain ⟨w, ⟨members, ⟨i, readId, v, readInit, made⟩, rfl⟩, rest, readRest, rfl⟩ := read
    have first := each ⟨id, init⟩ (by simp)
    have decoded : Decode.declarator (.object members) = .ok ⟨id.canon, init.canon⟩ := by
      rw [Decode.declarator, ← made]
      simp [lookup_insertEntry, first id (by simp) i readId, first init (by simp) v readInit]
    rw [Decode.declaratorList, decoded, ih (fun m member => each m (by simp [member])) readRest]
    rfl

/-- The properties of a list are read back if each of their nodes is. -/
theorem propertyList_reread {ps : List (Property Node)} {ws : List Json}
    (each : ∀ p ∈ ps, ∀ n ∈ [p.key, p.value], ∀ w, n.toJson.reread? = some w →
      Decode.node w = .ok n.canon)
    (read : rereadAll? (Node.propertiesToJson ps) = some ws) :
    Decode.propertyList ws = .ok (Node.mapScalarsProperties Scalar.canon ps) := by
  induction ps generalizing ws with
  | nil =>
    cases read
    rw [Decode.propertyList]
    rfl
  | cons p ps ih =>
    obtain ⟨key, computed, value, kind, method, shorthand⟩ := p
    simp only [Node.propertiesToJson, rereadAll?, Option.bind_eq_some_iff, Option.map_eq_some_iff,
      reread?_typedObject, rereadMembers?_cons, rereadMembers?_nil, reread?_wordJson, reread?_bool,
      Option.some.injEq, exists_eq_left'] at read
    obtain ⟨w, ⟨members, ⟨k, readKey, v, readValue, made⟩, rfl⟩, rest, readRest, rfl⟩ := read
    have first := each ⟨key, computed, value, kind, method, shorthand⟩ (by simp)
    have decoded : Decode.property (.object members) =
        .ok ⟨key.canon, computed, value.canon, kind, method, shorthand⟩ := by
      rw [Decode.property, ← made]
      simp [lookup_insertEntry, first key (by simp) k readKey, first value (by simp) v readValue,
        Decode.bool]
    rw [Decode.propertyList, decoded, ih (fun m member => each m (by simp [member])) readRest]
    rfl

/-- The value of a literal is read back, but for a number that is replaced. -/
theorem scalar_reread {v : Scalar} {w : Json} (read : v.toJson.reread? = some w) :
    Decode.scalar w = .ok v.canon := by
  cases v with
  | null | bool b | string s =>
    cases read
    rfl
  | number x =>
    cases x with
    | finite negative m =>
      rcases Json.readNumber_realText negative m with ⟨y, readsAs⟩ | ⟨f, refused, _⟩
      · simp only [Scalar.toJson, reread?, readsAs, Except.toOption, Option.some.injEq] at read
        simp [← read, Decode.scalar, Scalar.canon, Binary64.reread, readsAs]
      · simp [Scalar.toJson, reread?, refused, Except.toOption] at read
    | _ =>
      cases read
      rfl

/-- What is read back from a node is not null. -/
theorem isNull_reread {n : Node} {w : Json} (read : n.toJson.reread? = some w) :
    Decode.isNull w = false := by
  have typed : ∃ type members, n.toJson = typedObject type members := by
    cases n with
    | arrow id params body generator expression => cases id <;> exact ⟨_, _, rfl⟩
    | _ => exact ⟨_, _, rfl⟩
  obtain ⟨type, members, written⟩ := typed
  rw [written, reread?_typedObject] at read
  obtain ⟨ms, _, rfl⟩ := read
  rfl

/-- What is read from the text of a tree is the tree with its numbers replaced. -/
theorem node_reread (t : Node) :
    ∀ w, t.toJson.reread? = some w → Decode.node w = .ok t.canon := by
  induction t using Node.induction with
  | step t ih =>
    intro w read
    -- The members that were read back are known from the written ones, whatever order they are in.
    cases t with
    | program body sourceType =>
      rw [Node.toJson] at read
      have inList (m : Node) (member : m ∈ body) := ih m member
      refine record_reread .program read (by simp) fun ms read => ?_
      simp only [rereadMembers?_cons, reread?_array, reread?_wordJson, rereadMembers?_nil,
        Option.some.injEq, exists_eq_left'] at read
      obtain ⟨_, ⟨ws, readBody, rfl⟩, rfl⟩ := read
      show Decode.record .program _ =
        .ok (.program (Node.mapScalarsAll Scalar.canon body) sourceType)
      rw [Decode.record]
      simp [lookup_insertEntry, Decode.nodes, nodeList_reread inList readBody]
    | statement e =>
      rw [Node.toJson] at read
      refine record_reread .statement read (by simp) fun ms read => ?_
      simp only [rereadMembers?_cons, rereadMembers?_nil] at read
      obtain ⟨v, readExpression, rfl⟩ := read
      show Decode.record .statement _ = .ok (.statement e.canon)
      rw [Decode.record]
      simp [lookup_insertEntry, ih e (by simp [Node.children]) v readExpression]
    | call callee arguments sType isPower =>
      rw [Node.toJson] at read
      have inCall (m : Node) (member : m ∈ arguments) := ih m (by simp [Node.children, member])
      cases sType <;> cases isPower
      all_goals
        refine record_reread .call read (by simp [sTypeMember, isPowerMember]) fun ms read => ?_
        simp only [rereadMembers?_cons, reread?_array, reread?_wordJson, sTypeMember, isPowerMember,
          List.nil_append, List.cons_append, rereadMembers?_nil, reread?_bool, Option.some.injEq,
          exists_eq_left'] at read
        obtain ⟨c, readCallee, _, ⟨ws, readArguments, rfl⟩, rfl⟩ := read
        show Decode.record .call _ =
          .ok (.call callee.canon (Node.mapScalarsAll Scalar.canon arguments) _ _)
        rw [Decode.record]
        simp [lookup_insertEntry, lookup_cons_eq, Decode.nodes, Decode.bool,
          nodeList_reread inCall readArguments, ih callee (by simp [Node.children]) c readCallee]
    | member computed owner property =>
      rw [Node.toJson] at read
      refine record_reread .member read (by simp) fun ms read => ?_
      simp only [rereadMembers?_cons, rereadMembers?_nil, reread?_bool, Option.some.injEq,
        exists_eq_left'] at read
      obtain ⟨o, readOwner, p, readProperty, rfl⟩ := read
      show Decode.record .member _ = .ok (.member computed owner.canon property.canon)
      rw [Decode.record]
      simp [lookup_insertEntry, Decode.bool, ih owner (by simp [Node.children]) o readOwner,
        ih property (by simp [Node.children]) p readProperty]
    | identifier name =>
      rw [Node.toJson] at read
      refine record_reread .identifier read (by simp) fun ms read => ?_
      simp only [rereadMembers?_cons, rereadMembers?_nil, reread?_string, Option.some.injEq,
        exists_eq_left'] at read
      show Decode.record .identifier _ = .ok (.identifier name)
      rw [Decode.record, ← read]
      simp [lookup_insertEntry, Decode.string]
    | literal value raw sType =>
      rw [Node.toJson] at read
      cases sType
      all_goals
        refine record_reread .literal read (by simp [sTypeMember]) fun ms read => ?_
        simp only [rereadMembers?_cons, reread?_wordJson, sTypeMember, rereadMembers?_nil,
          Option.some.injEq] at read
        obtain ⟨v, readValue, read⟩ := read
        simp only [reread?_string, Option.some.injEq, exists_eq_left'] at read
        show Decode.record .literal _ = .ok (.literal value.canon raw _)
        rw [Decode.record, ← read]
        simp [lookup_insertEntry, lookup_cons_eq, Decode.string, scalar_reread readValue]
    | declaration ds kind =>
      rw [Node.toJson] at read
      refine record_reread .declaration read (by simp) fun ms read => ?_
      simp only [rereadMembers?_cons, reread?_array, reread?_wordJson, rereadMembers?_nil,
        Option.some.injEq, exists_eq_left'] at read
      obtain ⟨_, ⟨ws, readDeclarators, rfl⟩, rfl⟩ := read
      have inDeclarators (d : Declarator Node) (inList : d ∈ ds) (n : Node)
          (inDeclarator : n ∈ [d.id, d.init]) :=
        ih n (List.mem_flatMap.2 ⟨d, inList, inDeclarator⟩)
      show Decode.record .declaration _ =
        .ok (.declaration (Node.mapScalarsDeclarators Scalar.canon ds) kind)
      rw [Decode.record]
      simp [lookup_insertEntry, Decode.declarators,
        declaratorList_reread inDeclarators readDeclarators]
    | arrow id params body generator expression =>
      unfold Node.toJson at read
      have inParams (m : Node) (member : m ∈ params) := ih m (by simp [Node.children, member])
      refine record_reread .arrow read (by simp) fun ms read => ?_
      simp only [rereadMembers?_cons, reread?_array, rereadMembers?_nil] at read
      obtain ⟨i, readId, _, ⟨ws, readParams, rfl⟩, b, readBody, read⟩ := read
      simp only [reread?_bool, Option.some.injEq, exists_eq_left'] at read
      -- A node is never read back as null, so null stands for a missing name alone.
      have decodeId : (if Decode.isNull i then .ok none else some <$> Decode.node i) =
          .ok (id.map Node.canon) := by
        cases id with
        | none =>
          cases readId
          rfl
        | some n =>
          rw [isNull_reread readId, ih n (by simp [Node.children]) i readId]
          rfl
      have shape : (Node.arrow id params body generator expression).canon =
          .arrow (id.map Node.canon) (Node.mapScalarsAll Scalar.canon params) body.canon generator
            expression := by
        cases id <;> rfl
      rw [Decode.record, ← read, shape]
      simp [lookup_insertEntry, Decode.bool, Decode.nodes, nodeList_reread inParams readParams,
        ih body (by simp [Node.children]) b readBody, decodeId]
    | binary operator sType left right =>
      rw [Node.toJson] at read
      cases sType
      all_goals
        refine record_reread .binary read (by simp [sTypeMember]) fun ms read => ?_
        simp only [rereadMembers?_cons, reread?_wordJson, sTypeMember, List.nil_append,
          List.cons_append, rereadMembers?_nil, reread?_string, Option.some.injEq,
          exists_eq_left'] at read
        obtain ⟨l, readLeft, r, readRight, rfl⟩ := read
        show Decode.record .binary _ = .ok (.binary operator _ left.canon right.canon)
        rw [Decode.record]
        simp [lookup_insertEntry, lookup_cons_eq, Decode.string,
          ih left (by simp [Node.children]) l readLeft,
          ih right (by simp [Node.children]) r readRight]
    | unary operator argument before =>
      rw [Node.toJson] at read
      refine record_reread .unary read (by simp) fun ms read => ?_
      simp only [rereadMembers?_cons, rereadMembers?_nil, reread?_string, reread?_bool,
        Option.some.injEq, exists_eq_left'] at read
      obtain ⟨a, readArgument, rfl⟩ := read
      show Decode.record .unary _ = .ok (.unary operator argument.canon before)
      rw [Decode.record]
      simp [lookup_insertEntry, Decode.string, Decode.bool,
        ih argument (by simp [Node.children]) a readArgument]
    | block body =>
      rw [Node.toJson] at read
      have inList (m : Node) (member : m ∈ body) := ih m member
      refine record_reread .block read (by simp) fun ms read => ?_
      simp only [rereadMembers?_cons, reread?_array, rereadMembers?_nil] at read
      obtain ⟨_, ⟨ws, readBody, rfl⟩, rfl⟩ := read
      show Decode.record .block _ = .ok (.block (Node.mapScalarsAll Scalar.canon body))
      rw [Decode.record]
      simp [lookup_insertEntry, Decode.nodes, nodeList_reread inList readBody]
    | conditional test consequent alternate =>
      rw [Node.toJson] at read
      refine record_reread .conditional read (by simp) fun ms read => ?_
      simp only [rereadMembers?_cons, rereadMembers?_nil] at read
      obtain ⟨t, readTest, c, readConsequent, a, readAlternate, rfl⟩ := read
      show Decode.record .conditional _ =
        .ok (.conditional test.canon consequent.canon alternate.canon)
      rw [Decode.record]
      simp [lookup_insertEntry, ih test (by simp [Node.children]) t readTest,
        ih consequent (by simp [Node.children]) c readConsequent,
        ih alternate (by simp [Node.children]) a readAlternate]
    | array elements =>
      rw [Node.toJson] at read
      have inList (m : Node) (member : m ∈ elements) := ih m member
      refine record_reread .array read (by simp) fun ms read => ?_
      simp only [rereadMembers?_cons, reread?_array, rereadMembers?_nil] at read
      obtain ⟨_, ⟨ws, readElements, rfl⟩, rfl⟩ := read
      show Decode.record .array _ = .ok (.array (Node.mapScalarsAll Scalar.canon elements))
      rw [Decode.record]
      simp [lookup_insertEntry, Decode.nodes, nodeList_reread inList readElements]
    | object ps =>
      rw [Node.toJson] at read
      refine record_reread .object read (by simp) fun ms read => ?_
      simp only [rereadMembers?_cons, reread?_array, rereadMembers?_nil] at read
      obtain ⟨_, ⟨ws, readProperties, rfl⟩, rfl⟩ := read
      have inProperties (p : Property Node) (inList : p ∈ ps) (n : Node)
          (inProperty : n ∈ [p.key, p.value]) :=
        ih n (List.mem_flatMap.2 ⟨p, inList, inProperty⟩)
      show Decode.record .object _ = .ok (.object (Node.mapScalarsProperties Scalar.canon ps))
      rw [Decode.record]
      simp [lookup_insertEntry, Decode.properties,
        propertyList_reread inProperties readProperties]
    | comment c =>
      rw [Node.toJson, reread?_typedObject] at read
      obtain ⟨ms, readMembers, rfl⟩ := read
      cases readMembers
      exact Decode.node_bare c

/-! ## Texts with numbers that are refused -/

/-- No number in the tree is refused as out of range when its text is read. -/
def Node.InRange (t : Node) : Prop :=
  ∀ negative m raw sType, (Node.literal (.number (.finite negative m)) raw sType).Inside t →
    ¬ Json.OutOfRange (Json.realText (.finite negative m))

theorem Node.inRange_iff {n : Node} (noLiteral : ∀ value raw sType, n ≠ .literal value raw sType) :
    n.InRange ↔ ∀ m ∈ n.children, m.InRange := by
  constructor
  · intro inRange m member negative k raw sType inside
    exact inRange negative k raw sType (.child member inside)
  · intro each negative k raw sType inside
    cases inside with
    | self => exact absurd rfl (noLiteral _ _ _)
    | child member inside => exact each _ member negative k raw sType inside

theorem rereadAll?_isSome (vs : List Json) :
    (rereadAll? vs).isSome ↔ ∀ v ∈ vs, v.reread?.isSome := by
  induction vs with
  | nil => simp [rereadAll?]
  | cons v vs ih => cases h : v.reread? <;> simp [rereadAll?, h, ih]

theorem rereadMembers?_isSome (before members : List (String × Json)) :
    (rereadMembers? before members).isSome ↔ ∀ member ∈ members, member.2.reread?.isSome := by
  induction members generalizing before with
  | nil => simp [rereadMembers?]
  | cons member members ih =>
    obtain ⟨key, v⟩ := member
    cases h : v.reread? <;> simp [rereadMembers?, h, ih]

theorem reread?_typedObject_isSome (type : String) (members : List (String × Json)) :
    (typedObject type members).reread?.isSome ↔ ∀ member ∈ members, member.2.reread?.isSome := by
  simp [typedObject, reread?, rereadMembers?_isSome]

theorem reread?_array_isSome (vs : List Json) :
    (Json.array vs).reread?.isSome ↔ ∀ v ∈ vs, v.reread?.isSome := by
  simp [reread?, rereadAll?_isSome]

theorem Node.allToJson_eq (ns : List Node) : allToJson ns = ns.map toJson := by
  induction ns with
  | nil => rfl
  | cons n ns ih => simp [allToJson, ih]

theorem Node.declaratorsToJson_eq (ds : List (Declarator Node)) :
    declaratorsToJson ds = ds.map fun d =>
      typedObject "VariableDeclarator" [("id", d.id.toJson), ("init", d.init.toJson)] := by
  induction ds with
  | nil => rfl
  | cons d ds ih => simp [declaratorsToJson, ih]

theorem Node.propertiesToJson_eq (ps : List (Property Node)) :
    propertiesToJson ps = ps.map Property.toJson := by
  induction ps with
  | nil => rfl
  | cons p ps ih => simp [propertiesToJson, Property.toJson, ih]

theorem reread?_scalar_isSome (value : Scalar) :
    value.toJson.reread?.isSome ↔
      ∀ negative m, value = .number (.finite negative m) →
        ¬ Json.OutOfRange (Json.realText (.finite negative m)) := by
  cases value with
  | null | bool b | string s => simp [Scalar.toJson, reread?]
  | number x =>
    cases x with
    | finite negative m =>
      rcases Json.readNumber_realText negative m with ⟨y, readsAs⟩ | ⟨f, error, cause⟩
      · simp [Scalar.toJson, reread?, readsAs, Except.toOption, Json.OutOfRange]
      · have refused : Json.OutOfRange (Json.realText (.finite negative m)) := ⟨f, error, cause⟩
        simp [Scalar.toJson, reread?, error, Except.toOption, refused]
    | _ => simp [Scalar.toJson, reread?]

theorem reread?_sTypeMember_isSome (sType : Option ValueType) :
    ∀ member ∈ sTypeMember sType, member.2.reread?.isSome := by
  cases sType <;> simp [sTypeMember, reread?_wordJson]

theorem reread?_isPowerMember_isSome (isPower : Bool) :
    ∀ member ∈ isPowerMember isPower, member.2.reread?.isSome := by
  cases isPower <;> simp [isPowerMember, reread?_bool]

/-- The text of a tree has a value if no number in it is refused. -/
theorem reread?_node_isSome (t : Node) : t.toJson.reread?.isSome ↔ t.InRange := by
  induction t using Node.induction with
  | step t ih =>
    cases t with
    | literal value raw sType =>
      rw [Node.toJson, reread?_typedObject_isSome, List.forall_mem_cons, List.forall_mem_cons]
      simp only [reread?_scalar_isSome, reread?_string]
      constructor
      · rintro ⟨inRange, -⟩ negative m raw sType inside
        cases inside with
        | self => exact inRange negative m rfl
        | child member => simp [Node.children] at member
      · intro inRange
        refine ⟨fun negative m number => ?_, rfl, reread?_sTypeMember_isSome sType⟩
        subst number
        exact inRange negative m raw sType .self
    | call callee arguments sType isPower =>
      rw [Node.inRange_iff (by simp), ← forall₂_congr ih, Node.toJson, reread?_typedObject_isSome]
      simp only [Node.children, List.forall_mem_cons, List.forall_mem_append, reread?_array_isSome,
        Node.allToJson_eq, List.forall_mem_map]
      exact and_congr_right fun _ =>
        and_iff_left ⟨reread?_sTypeMember_isSome sType, reread?_isPowerMember_isSome isPower⟩
    | arrow id params body generator expression =>
      rw [Node.inRange_iff (by simp), ← forall₂_congr ih]
      cases id <;>
        simp [Node.toJson, Node.children, reread?_typedObject_isSome, reread?_array_isSome,
          Node.allToJson_eq, reread?_bool, reread?_null, -List.mem_append, List.forall_mem_append]
    | binary operator sType left right =>
      rw [Node.inRange_iff (by simp), ← forall₂_congr ih, Node.toJson, reread?_typedObject_isSome]
      simp only [Node.children, List.forall_mem_cons, List.forall_mem_append, reread?_string,
        List.not_mem_nil, IsEmpty.forall_iff, implies_true, and_true]
      exact ⟨fun h => h.2.2, fun h => ⟨rfl, reread?_sTypeMember_isSome sType, h⟩⟩
    | _ =>
      rw [Node.inRange_iff (by simp), ← forall₂_congr ih, Node.toJson, reread?_typedObject_isSome]
      simp [Node.children, reread?_array_isSome, reread?_typedObject_isSome, Node.allToJson_eq,
        Node.declaratorsToJson_eq, Node.propertiesToJson_eq, Property.toJson, reread?_string,
        reread?_bool, reread?_wordJson, -List.mem_flatMap, List.forall_mem_flatMap]

/-! ## Texts -/

/-- A text that is read as a value is a tree if the value is one. -/
theorem Node.ofText_of_read {text : String} {v : Json} {n : Node}
    (read : (Json.read text.toList).toOption = some (v, none)) (decoded : Decode.node v = .ok n) :
    ofText text = .ok n := by
  unfold ofText
  cases h : Json.read text.toList with
  | error f => simp [h, Except.toOption] at read
  | ok result =>
    simp only [h, Except.toOption, Option.some.injEq] at read
    subst read
    simp [decoded]

theorem Node.ofText_of_refused {text : String} (refused : (Json.read text.toList).toOption = none) :
    ∃ f, ofText text = .error f := by
  unfold ofText
  cases h : Json.read text.toList with
  | error f => exact ⟨_, rfl⟩
  | ok result => simp [h, Except.toOption] at refused

theorem Node.read_toText (t : Node) :
    (Json.read t.toText.toList).toOption =
      if t.toJson.depth ≤ 127 then t.toJson.reread?.map fun w => (w, none) else none := by
  have written : t.toText.toList = Json.indented 0 t.toJson := by simp [toText, Json.toIndented]
  rw [written, Json.read_indented]
  rfl

theorem Node.nodeType?_canon (t : Node) : t.canon.nodeType? = t.nodeType? := by
  cases t with
  | arrow id params body generator expression => cases id <;> rfl
  | _ => rfl

theorem Node.ofText_toText_of_inRange {t : Node} (shallow : t.toJson.depth ≤ 127)
    (inRange : t.InRange) : ofText t.toText = .ok t.canon := by
  obtain ⟨w, read⟩ := Option.isSome_iff_exists.1 ((reread?_node_isSome t).2 inRange)
  refine ofText_of_read ?_ (node_reread t w read)
  rw [read_toText, if_pos shallow, read]
  rfl

theorem Node.ofText_toText_of_deep {t : Node} (deep : 127 < t.toJson.depth) :
    ∃ f, ofText t.toText = .error f := by
  apply ofText_of_refused
  rw [read_toText, if_neg (by omega)]

theorem Node.ofText_toText_of_outOfRange {t : Node} (outOfRange : ¬ t.InRange) :
    ∃ f, ofText t.toText = .error f := by
  have refused : t.toJson.reread? = none := by
    rw [← Option.not_isSome_iff_eq_none, reread?_node_isSome]
    exact outOfRange
  apply ofText_of_refused
  rw [read_toText, refused]
  split <;> rfl

/-- **A tree is read back from its text** but for its numbers, unless it is nested too deep or has
a number that is refused. A comment is read back as that comment, whatever its kind is, and the sort
of a node stays. -/
theorem Node.ofText_toText (t : Node) :
    (t.toJson.depth ≤ 127 → t.InRange → ofText t.toText = .ok t.canon) ∧
      (127 < t.toJson.depth → ∃ f, ofText t.toText = .error f) ∧
      (¬ t.InRange → ∃ f, ofText t.toText = .error f) ∧
      (∀ c : Comment, ofText (Node.comment c).toText = .ok (.comment c)) ∧
      ∀ n, ofText t.toText = .ok n → n.nodeType? = t.nodeType? := by
  refine ⟨ofText_toText_of_inRange, ofText_toText_of_deep, ofText_toText_of_outOfRange, ?_, ?_⟩
  · intro c
    have shallow : (Node.comment c).toJson.depth ≤ 127 := by
      simp [toJson, typedObject, Json.depth, Json.depthMembers]
    refine ofText_toText_of_inRange shallow ?_
    intro negative m raw sType inside
    cases inside with
    | child member => simp [children] at member
  · intro n read
    by_cases shallow : t.toJson.depth ≤ 127
    · by_cases inRange : t.InRange
      · obtain rfl := Except.ok.inj ((ofText_toText_of_inRange shallow inRange).symm.trans read)
        exact nodeType?_canon t
      · obtain ⟨f, refused⟩ := ofText_toText_of_outOfRange inRange
        simp [refused] at read
    · obtain ⟨f, refused⟩ := ofText_toText_of_deep (by omega : 127 < t.toJson.depth)
      simp [refused] at read

/-- A tree that no template makes: a comment has the kind of a literal, another stands for a
parameter, an arrow has a name, a wrapper is wrapped, a property is a getter, and a number is not
finite. -/
def mixedTree : Node :=
  .program
    [.comment ⟨"Literal", "1"⟩,
      .statement (.statement (.literal (.number (.infinity false)) "Infinity" (some .number))),
      .arrow (some (.identifier "f")) [.comment ⟨"Identifier", "x"⟩]
        (.object [⟨.identifier "x", false, .literal (.number (.ofDecimal false 15 (-1))) "1.5" none,
          .get, false, false⟩]) false true]
    .esModule

/-- Arrays inside of arrays. -/
def nestedArrays : Nat → Node
  | 0 => .array []
  | k + 1 => .array [nestedArrays k]

theorem Node.ofText_toText_mixedTree :
    (mixedTree.toJson.depth ≤ 127 ∧ mixedTree.InRange ∧
      ofText mixedTree.toText = .ok mixedTree.canon) ∧
      127 < (nestedArrays 63).toJson.depth ∧ ∃ f, ofText (nestedArrays 63).toText = .error f := by
  have inRange : mixedTree.InRange := (reread?_node_isSome mixedTree).1 (by decide +kernel)
  have deep : 127 < (nestedArrays 63).toJson.depth := by decide +kernel
  exact ⟨⟨by decide, inRange, (Node.ofText_toText mixedTree).1 (by decide) inRange⟩, deep,
    (Node.ofText_toText (nestedArrays 63)).2.1 deep⟩

end ScriptTree
