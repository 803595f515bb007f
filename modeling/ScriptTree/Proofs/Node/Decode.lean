import ScriptTree.Node.Decode
import ScriptTree.Node.Encode
import ScriptTree.Proofs.Dictionary
import ScriptTree.Proofs.Except

/-!
# Reading the record of a node

What the reader of trees makes of the members of a record: a member is looked up under its key, a
choice is found by its word, and the record that the type names decides what the node is.
-/

namespace ScriptTree
set_option autoImplicit false

/-- The words of the values of a type tell them apart. -/
class LawfulNamed (α : Type) [Named α] : Prop where
  ofWord?_word : ∀ a : α, Named.ofWord? (Named.word a) = some a

instance : LawfulNamed ValueType := ⟨fun a => by cases a <;> decide⟩
instance : LawfulNamed SourceType := ⟨fun a => by cases a <;> decide⟩
instance : LawfulNamed DeclarationWord := ⟨fun a => by cases a <;> decide⟩
instance : LawfulNamed PropertyKind := ⟨fun a => by cases a <;> decide⟩

theorem NodeType.ofName?_name (t : NodeType) : NodeType.ofName? t.name = some t := by
  cases t <;> decide

namespace Decode

@[simp] theorem require_some {α : Type} (key : String) (a : α) : require key (some a) = .ok a :=
  rfl

@[simp] theorem require_none {α : Type} (key : String) :
    require key (none : Option α) = .error (.missingField key) :=
  rfl

@[simp] theorem field?_eq {α : Type} (members : List (String × Json)) (key : String)
    (read : Json → Decoded α) :
    field? members key (fun v _ => read v) =
      match members.lookup key with
      | none => .ok none
      | some v => some <$> read v := by
  unfold field?
  split
  · rename_i missing
    rw [missing]
  · rename_i found
    simp only [found]

theorem require_eq_ok {α : Type} {key : String} {o : Option α} {a : α} :
    require key o = .ok a ↔ o = some a := by
  cases o <;> simp

/-- A member is there if it was looked up and read. -/
theorem field?_eq_some {α : Type} {members : List (String × Json)} {key : String}
    {read : Json → Decoded α} {a : α} :
    field? members key (fun v _ => read v) = .ok (some a) ↔
      ∃ v, members.lookup key = some v ∧ read v = .ok a := by
  rw [field?_eq]
  cases members.lookup key with
  | none => simp
  | some v => simp [map_eq_ok]

@[simp] theorem choice_wordJson {α : Type} [Named α] [LawfulNamed α] (a : α) :
    choice (wordJson a) = .ok a := by
  simp [wordJson, choice, word, LawfulNamed.ofWord?_word]

@[simp] theorem choice?_wordJson {α : Type} [Named α] [LawfulNamed α] (a : α) :
    choice? (wordJson a) = .ok (some a) := by
  have chosen := choice_wordJson a
  unfold wordJson at chosen ⊢
  simp [choice?, chosen]

/-- A record that can be read is the node of an object. -/
theorem node_of_record (type : NodeType) {members : List (String × Json)} {n : Node}
    (named : members.lookup "type" = some (.string type.name))
    (read : record type members = .ok n) : node (.object members) = .ok n := by
  rw [node]
  simp only [named, NodeType.ofName?_name, read]

/-- **No record can be read from a type and a text alone**: each has another member that has to be
there. -/
theorem record_alone (type : NodeType) {members : List (String × Json)} {value : String}
    (text : members.lookup "value" = some (.string value))
    (alone : ∀ key, key ≠ "type" → key ≠ "value" → members.lookup key = none) :
    ∃ m, record type members = .error m := by
  cases type <;> rw [record] <;> simp [alone, text, scalar]

/-- An object with nothing but a type and a text is a comment, whatever the type is. -/
theorem node_bare (c : Comment) :
    node (.object [("type", .string c.kind), ("value", .string c.value)]) = .ok (.comment c) := by
  rw [node]
  simp only [lookup_cons_eq, if_true]
  split
  · simp
  · rename_i type named
    have alone : ∀ key, key ≠ "type" → key ≠ "value" →
        [("type", Json.string c.kind), ("value", .string c.value)].lookup key = none :=
      fun key notType notValue => by simp [lookup_cons_eq, notType, notValue]
    obtain ⟨m, refused⟩ := record_alone type rfl alone
    simp [refused, bareComment?, lookup_cons_eq]

end Decode

end ScriptTree
