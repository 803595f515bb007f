import ScriptTree.Proofs.Node.Sources

/-!
# A text of a tree has a normal form

Every text that is read as a tree may be replaced by the text that is written for the tree: it is
nested no deeper, whatever the first text was like, and it is read as the same tree, with each
number replaced by the one that its text stands for. No number becomes null, since all numbers that
are read are finite.
-/

namespace ScriptTree
set_option autoImplicit false
open Number

/-! ## What is read is written no deeper -/

/-- **A tree is written no deeper than the value that it was read from.** -/
theorem Node.depth_toJson_le_of_decode {v : Json} {n : Node} (decoded : Decode.node v = .ok n) :
    n.toJson.depth ≤ v.depth := by
  refine Decode.node_induction (P := fun v n => n.toJson.depth ≤ v.depth) ?_ decoded
  intro v n source inner
  refine Node.depth_toJson_le source.own fun p member => ?_
  obtain ⟨w, inside, written⟩ := inner p member
  have := inside.depth_le
  omega

/-! ## Numbers of a tree -/

namespace Node

/-- Every number in the tree is finite. -/
def Finite (t : Node) : Prop :=
  ∀ x raw sType, (Node.literal (.number x) raw sType).Inside t → x.isFinite = true

theorem isFinite_of_scalar {v : Json} {x : Binary64} (plain : v.Plain)
    (h : Decode.scalar v = .ok (.number x)) : x.isFinite = true := by
  have value : v.IsScalar → v.IsPlain := plain 0 v rfl
  cases v with
  | integer k =>
    simp only [Decode.scalar, Except.ok.injEq, Scalar.number.injEq] at h
    rw [← h]
    exact (Binary64.within_ofNat _ (by decide) (value trivial)).isFinite
  | real y =>
    cases h
    exact value trivial
  | _ => cases h

/-- The numbers of a tree are finite if those of the value that it was read from are. -/
theorem finite_of_decode {v : Json} {n : Node} (plain : v.Plain)
    (decoded : Decode.node v = .ok n) : n.Finite := by
  refine Decode.node_induction (P := fun v n => v.Plain → n.Finite) ?_ decoded plain
  intro v n source inner plain x raw sType inside
  cases inside with
  | self =>
    obtain ⟨w, place, read⟩ := source.value _ _ _ rfl
    exact isFinite_of_scalar (plain.of_at place) read
  | child member inside =>
    rw [children_eq_placed] at member
    obtain ⟨p, placed, rfl⟩ := List.mem_map.1 member
    obtain ⟨w, place, finite⟩ := inner p placed
    exact finite (plain.of_at place) x raw sType inside

theorem mapScalarsAll_eq (f : Scalar → Scalar) (ns : List Node) :
    mapScalarsAll f ns = ns.map (mapScalars f) := by
  induction ns with
  | nil => rfl
  | cons n ns ih => rw [mapScalarsAll, ih, List.map_cons]

theorem mapScalarsDeclarators_eq (f : Scalar → Scalar) (ds : List (Declarator Node)) :
    mapScalarsDeclarators f ds = ds.map fun d => ⟨d.id.mapScalars f, d.init.mapScalars f⟩ := by
  induction ds with
  | nil => rfl
  | cons d ds ih => rw [mapScalarsDeclarators, ih, List.map_cons]

theorem mapScalarsProperties_eq (f : Scalar → Scalar) (ps : List (Property Node)) :
    mapScalarsProperties f ps = ps.map fun p =>
      ⟨p.key.mapScalars f, p.computed, p.value.mapScalars f, p.kind, p.method, p.shorthand⟩ := by
  induction ps with
  | nil => rfl
  | cons p ps ih => rw [mapScalarsProperties, ih, List.map_cons]

/-- Replacements that agree on the literals of a tree give the same tree. -/
theorem mapScalars_congr {f g : Scalar → Scalar} (t : Node)
    (same : ∀ value raw sType, (Node.literal value raw sType).Inside t → f value = g value) :
    t.mapScalars f = t.mapScalars g := by
  induction t using Node.induction with
  | step t ih =>
    have inner : ∀ m ∈ t.children, m.mapScalars f = m.mapScalars g := fun m member =>
      ih m member fun value raw sType inside => same value raw sType (.child member inside)
    cases t with
    | literal value raw sType => rw [mapScalars, mapScalars, same value raw sType .self]
    | declaration ds kind =>
      rw [mapScalars, mapScalars, mapScalarsDeclarators_eq, mapScalarsDeclarators_eq]
      congr 1
      refine List.map_congr_left fun d member => ?_
      have parts (m : Node) (h : m ∈ [d.id, d.init]) := inner m (List.mem_flatMap.2 ⟨d, member, h⟩)
      rw [parts d.id (by simp), parts d.init (by simp)]
    | object ps =>
      rw [mapScalars, mapScalars, mapScalarsProperties_eq, mapScalarsProperties_eq]
      congr 1
      refine List.map_congr_left fun p member => ?_
      have parts (m : Node) (h : m ∈ [p.key, p.value]) :=
        inner m (List.mem_flatMap.2 ⟨p, member, h⟩)
      rw [parts p.key (by simp), parts p.value (by simp)]
    | arrow id params body generator expression =>
      clear ih same
      cases id <;> simp_all [mapScalars, mapScalarsAll_eq, children]
    | _ =>
      clear ih same
      simp_all [mapScalars, mapScalarsAll_eq, children]

theorem mapScalars_id (t : Node) : t.mapScalars id = t := by
  induction t using Node.induction with
  | step t ih =>
    have all (ns : List Node) (each : ∀ m ∈ ns, m.mapScalars id = m) :
        ns.map (mapScalars id) = ns :=
      (List.map_congr_left each).trans (List.map_id ns)
    cases t with
    | declaration ds kind =>
      rw [mapScalars, mapScalarsDeclarators_eq]
      congr 1
      refine (List.map_congr_left fun d member => ?_).trans (List.map_id ds)
      have parts (m : Node) (h : m ∈ [d.id, d.init]) := ih m (List.mem_flatMap.2 ⟨d, member, h⟩)
      rw [parts d.id (by simp), parts d.init (by simp)]
      rfl
    | object ps =>
      rw [mapScalars, mapScalarsProperties_eq]
      congr 1
      refine (List.map_congr_left fun p member => ?_).trans (List.map_id ps)
      have parts (m : Node) (h : m ∈ [p.key, p.value]) := ih m (List.mem_flatMap.2 ⟨p, member, h⟩)
      rw [parts p.key (by simp), parts p.value (by simp)]
      rfl
    | arrow id params body generator expression =>
      cases id <;> simp_all [mapScalars, mapScalarsAll_eq, children]
    | _ => simp_all [mapScalars, mapScalarsAll_eq, children]

end Node

/-- The value with a number replaced by the one that is read from its text. -/
def Scalar.reread : Scalar → Scalar
  | .number x => .number x.reread
  | v => v

namespace Node

/-- Without infinite numbers, reading back only replaces numbers by numbers. -/
theorem Finite.canon_eq {t : Node} (finite : t.Finite) :
    t.canon = t.mapScalars Scalar.reread := by
  refine mapScalars_congr t fun value raw sType inside => ?_
  cases value with
  | number x =>
    have isFinite := finite x raw sType inside
    cases x with
    | finite negative m => rfl
    | _ => cases isFinite
  | _ => rfl

theorem ofText_eq_ok {text : String} {n : Node} (h : ofText text = .ok n) :
    ∃ v, Json.read text.toList = .ok (v, none) ∧ Decode.node v = .ok n := by
  unfold ofText at h
  split at h
  · cases h
  · rename_i v trailing read
    split at h
    · cases h
    · cases h
    · rename_i decoded
      cases h
      exact ⟨v, read, decoded⟩

theorem textDepth_toText (n : Node) : Json.textDepth n.toText.toList = n.toJson.depth := by
  rw [toText, Json.toIndented, String.toList_ofList, Json.textDepth_indented]

/-- **What is read as a tree has a normal form**: the text that is written for the tree is nested no
deeper than the text that it was read from, and it is read again as the tree, with every number
replaced by the one that is read from its text, unless such a number is refused. -/
theorem ofText_normalForm {text : String} {n : Node} (read : ofText text = .ok n) :
    Json.textDepth n.toText.toList ≤ Json.textDepth text.toList ∧
      (n.InRange → ofText n.toText = .ok (n.mapScalars Scalar.reread)) := by
  obtain ⟨v, parsed, decoded⟩ := ofText_eq_ok read
  have written : n.toJson.depth ≤ v.depth := depth_toJson_le_of_decode decoded
  have inText : v.depth ≤ Json.textDepth text.toList := Json.depth_le_textDepth parsed
  have limit : Json.textDepth text.toList ≤ 127 := Json.textDepth_le parsed
  constructor
  · rw [textDepth_toText]
    exact Nat.le_trans written inText
  · intro inRange
    have finite : n.Finite := finite_of_decode (Json.plain_of_read parsed) decoded
    rw [← finite.canon_eq]
    exact ofText_toText_of_inRange (by omega) inRange

end Node

/-- A value that no tree is written as: its members are out of order, one is there twice and one is
unknown, the kind is an object, the declarator a list, and a comment has the kind of a literal. -/
def looseValue : Json :=
  .object [("declarations", .array [.array
      [.object [("value", .string "a"), ("type", .string "Literal")],
        .object [("raw", .null), ("value", .integer 1), ("type", .string "Literal"),
          ("raw", .string "1")]]]),
    ("unknown", .array [.array [.array [.array []]]]), ("type", .string "VariableDeclaration"),
    ("kind", .object [("let", .null)])]

/-- The tree of that value. -/
def looseTree : Node :=
  .declaration [⟨.comment ⟨"Literal", "a"⟩, .literal (.number (.ofInt 1)) "1" none⟩] .letWord

theorem Node.ofText_looseValue : ofText looseValue.toIndented = .ok looseTree := by
  have comment := Decode.node_bare ⟨"Literal", "a"⟩
  have kind : Decode.choice (.object [("let", .null)]) = .ok DeclarationWord.letWord := rfl
  have literal : Decode.node (.object [("raw", .string "1"), ("type", .string "Literal"),
      ("value", .integer 1)]) = .ok (.literal (.number (.ofInt 1)) "1" none) := by
    refine Decode.node_of_record .literal rfl ?_
    rw [Decode.record]
    simp [lookup_cons_eq, Decode.string, Decode.scalar]
  have parsed : (Json.read looseValue.toIndented.toList).toOption = some (.object
      [("declarations", .array [.array
          [.object [("type", .string "Literal"), ("value", .string "a")],
            .object [("raw", .string "1"), ("type", .string "Literal"), ("value", .integer 1)]]]),
        ("kind", .object [("let", .null)]), ("type", .string "VariableDeclaration"),
        ("unknown", .array [.array [.array [.array []]]])], none) := by
    rw [Json.toIndented, String.toList_ofList, Json.read_indented, if_pos (by decide)]
    rfl
  refine ofText_of_read parsed (Decode.node_of_record .declaration rfl ?_)
  rw [Decode.record]
  simp [lookup_cons_eq, Decode.declarators, Decode.declaratorList, Decode.declarator, comment,
    literal, kind, looseTree]

theorem Node.ofText_normalForm_looseValue :
    ofText looseValue.toIndented = .ok looseTree ∧ looseTree.InRange ∧
      Json.textDepth looseTree.toText.toList ≤ Json.textDepth looseValue.toIndented.toList ∧
      ofText looseTree.toText = .ok (looseTree.mapScalars Scalar.reread) := by
  have inRange : looseTree.InRange := (reread?_node_isSome looseTree).1 (by decide +kernel)
  have normal := ofText_normalForm ofText_looseValue
  exact ⟨ofText_looseValue, inRange, normal.1, normal.2 inRange⟩

end ScriptTree
