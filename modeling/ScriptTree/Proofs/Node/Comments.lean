import Mathlib.Data.List.Permutation
import ScriptTree.Proofs.Node.Decode

/-!
# Values that are comments

An object is a comment if its type names no sort of node, whatever else it holds, or if it holds
nothing but a type and a text (`node_eq_comment_iff`). For the second case no record may be read from
a type and a text alone, and each sort of node has a member that has to be there besides them.
-/

namespace ScriptTree
set_option autoImplicit false

theorem NodeType.ofName?_eq_none {name : String} :
    NodeType.ofName? name = none ↔ ∀ type : NodeType, type.name ≠ name := by
  have listed (type : NodeType) : type ∈ NodeType.all := by cases type <;> decide
  rw [NodeType.ofName?, List.find?_eq_none]
  exact ⟨fun none type => by simpa using none type (listed type), fun none type _ => by
    simpa using none type⟩

namespace Decode

/-! ## What a record gives -/

/-- A record gives a node of its sort. -/
theorem ensures_record (type : NodeType) (members : List (String × Json)) :
    Ensures (record type members) fun n => n.nodeType? = some type := by
  cases type <;> rw [record]
  all_goals
    repeat refine ensures_bind fun _ => ?_
    exact ensures_pure rfl

/-! ## Objects with two members -/

/-- The members of an object that has a type and a text and nothing else, in any order. -/
def Bare (kind value : String) (members : List (String × Json)) : Prop :=
  members.Perm [("type", .string kind), ("value", .string value)]

section

variable {members : List (String × Json)} {kind value : String}

theorem eq_pair_of_length (named : members.lookup "type" = some (.string kind))
    (text : members.lookup "value" = some (.string value)) (two : members.length = 2) :
    members = [("type", .string kind), ("value", .string value)] ∨
      members = [("value", .string value), ("type", .string kind)] := by
  obtain ⟨⟨first, v⟩, ⟨second, w⟩, rfl⟩ := List.length_eq_two.1 two
  simp only [lookup_cons_eq, List.lookup_nil] at named text
  have differ : ¬ "value" = "type" := by decide
  by_cases here : "type" = first
  · subst here
    rw [if_pos rfl, Option.some.injEq] at named
    rw [if_neg differ, Option.ite_none_right_eq_some, Option.some.injEq] at text
    obtain ⟨rfl, rfl⟩ := text
    rw [named]
    exact .inl rfl
  · rw [if_neg here, Option.ite_none_right_eq_some, Option.some.injEq] at named
    obtain ⟨rfl, rfl⟩ := named
    rw [if_neg differ, Option.ite_none_right_eq_some, Option.some.injEq] at text
    obtain ⟨rfl, rfl⟩ := text
    exact .inr rfl

/-- An object with a type and a text has nothing else just if it has two members. -/
theorem bare_iff : Bare kind value members ↔
    members.lookup "type" = some (.string kind) ∧
      members.lookup "value" = some (.string value) ∧ members.length = 2 := by
  constructor
  · intro bare
    rcases List.perm_pair.1 bare with rfl | rfl <;> exact ⟨rfl, rfl, rfl⟩
  · rintro ⟨named, text, two⟩
    exact List.perm_pair.2 (eq_pair_of_length named text two)

theorem Bare.lookup_eq_none (bare : Bare kind value members) {key : String}
    (notType : key ≠ "type") (notValue : key ≠ "value") : members.lookup key = none := by
  rcases List.perm_pair.1 bare with rfl | rfl <;> simp [lookup_cons_eq, notType, notValue]

theorem bareComment?_eq_some :
    bareComment? members = some ⟨kind, value⟩ ↔ Bare kind value members := by
  rw [bare_iff, bareComment?]
  constructor
  · intro found
    split at found
    · rename_i two
      split at found
      · rename_i named text
        cases found
        exact ⟨named, text, two⟩
      · cases found
    · cases found
  · rintro ⟨named, text, two⟩
    rw [if_pos two, named, text]

end

/-! ## Comments -/

/-- **Which values are comments.** -/
theorem node_eq_comment {v : Json} {kind value : String} :
    node v = .ok (.comment ⟨kind, value⟩) ↔
      ∃ members, v = .object members ∧ members.lookup "type" = some (.string kind) ∧
        members.lookup "value" = some (.string value) ∧
        ((∀ type : NodeType, type.name ≠ kind) ∨ Bare kind value members) := by
  constructor
  · intro read
    unfold node at read
    split at read
    · rename_i members
      refine ⟨members, rfl, ?_⟩
      split at read
      · rename_i kind' named
        split at read
        · rename_i unknown
          split at read
          · rename_i value' text
            cases read
            exact ⟨named, text, .inl (NodeType.ofName?_eq_none.1 unknown)⟩
          · cases read
        · split at read
          · rename_i n given
            cases read
            cases ensures_record _ _ _ given
          · split at read
            · rename_i c found
              cases read
              have bare := bareComment?_eq_some.1 found
              obtain ⟨named, text, -⟩ := bare_iff.1 bare
              exact ⟨named, text, .inr bare⟩
            · cases read
      · cases read
    · cases read
  · rintro ⟨members, rfl, named, text, unknown | bare⟩
    · rw [node]
      simp only [named, NodeType.ofName?_eq_none.2 unknown, text]
    · rw [node]
      simp only [named]
      split
      · simp only [text]
      · rename_i type _
        obtain ⟨m, refused⟩ := record_alone type text fun key => bare.lookup_eq_none
        simp only [refused, bareComment?_eq_some.2 bare]

/-- A record that cannot be read is an error, unless the object has nothing but a type and a text. -/
theorem node_of_refused {type : NodeType} {members : List (String × Json)} {m : Json.Mismatch}
    (named : members.lookup "type" = some (.string type.name))
    (refused : record type members = .error m)
    (more : ∀ value, ¬ Bare type.name value members) : node (.object members) = .error m := by
  have none : bareComment? members = none := by
    rw [Option.eq_none_iff_forall_ne_some]
    rintro ⟨kind, value⟩ found
    have bare := bareComment?_eq_some.1 found
    have same : kind = type.name := by
      have kinds := (bare_iff.1 bare).1.symm.trans named
      simpa using kinds
    exact more value (same ▸ bare)
  rw [node]
  simp only [named, NodeType.ofName?_name, refused, none]

/-- **An object is a comment** just if it has a type and a text, and the type names no sort of node or
there is nothing else. Where the type names a sort of node, the record is read first: a node that can
be read stays a node of that sort; a type and a text alone are never such a node; and a record that
cannot be read is an error if the object has any further member. -/
theorem node_eq_comment_iff (v : Json) (kind value : String) :
    (node v = .ok (.comment ⟨kind, value⟩) ↔
      ∃ members, v = .object members ∧ members.lookup "type" = some (.string kind) ∧
        members.lookup "value" = some (.string value) ∧
        ((∀ type : NodeType, type.name ≠ kind) ∨ Bare kind value members)) ∧
      ∀ (type : NodeType) (members : List (String × Json)),
        members.lookup "type" = some (.string type.name) →
        (∀ n, record type members = .ok n →
          node (.object members) = .ok n ∧ n.nodeType? = some type) ∧
        (∀ text, Bare type.name text members → ∃ m, record type members = .error m) ∧
        (∀ m, record type members = .error m → (∀ text, ¬ Bare type.name text members) →
          node (.object members) = .error m) := by
  refine ⟨node_eq_comment, fun type members named => ⟨?_, ?_, ?_⟩⟩
  · intro n read
    exact ⟨node_of_record type named read, ensures_record type members n read⟩
  · intro text bare
    exact record_alone type (bare_iff.1 bare).2.1 fun key => bare.lookup_eq_none
  · intro m refused more
    exact node_of_refused named refused more

/-- A comment of the kind `Literal`, a comment with a further member, and a literal without its raw
text. -/
theorem node_eq_comment_iff_literal :
    node (.object [("value", .string "x"), ("type", .string "Literal")]) =
        .ok (.comment ⟨"Literal", "x"⟩) ∧
      node (.object [("raw", .null), ("type", .string "literal"), ("value", .string "x")]) =
        .ok (.comment ⟨"literal", "x"⟩) ∧
      node (.object [("sType", .null), ("type", .string "Literal"), ("value", .string "x")]) =
        .error (.missingField "raw") := by
  refine ⟨?_, ?_, ?_⟩
  · exact (node_eq_comment_iff _ _ _).1.2 ⟨_, rfl, rfl, rfl, .inr (.swap _ _ _)⟩
  · have unknown : ∀ type : NodeType, type.name ≠ "literal" := fun type => by
      cases type <;> decide
    exact (node_eq_comment_iff _ _ _).1.2 ⟨_, rfl, rfl, rfl, .inl unknown⟩
  · refine ((node_eq_comment_iff .null "" "").2 .literal _ rfl).2.2 _ ?_ ?_
    · rw [record]
      simp [lookup_cons_eq, choice?, scalar]
    · intro text bare
      cases bare.length_eq

end Decode

end ScriptTree
