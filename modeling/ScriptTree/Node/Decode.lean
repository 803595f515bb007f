import ScriptTree.Node.Names
import ScriptTree.Json.Mismatch

/-!
# Trees from their JSON form

An object with a `type` is a node. A type that names no sort of node makes it a comment, and so
does a record that cannot be read if the object has nothing but a type and a text. The members of
a record are read in the order of their names, so that the first one that does not fit is
reported; after that come the members that are missing, in the order in which a node is written.
-/

namespace ScriptTree
set_option autoImplicit false
open Number
open Json (Mismatch found)

/-- What was read, or the mismatch. -/
abbrev Decoded (α : Type) : Type := Except Mismatch α

namespace Decode

theorem sizeOf_lt_of_lookup {members : List (String × Json)} {key : String} {v : Json}
    (h : members.lookup key = some v) : sizeOf v < sizeOf members := by
  induction members with
  | nil => simp at h
  | cons head rest ih =>
    obtain ⟨k, w⟩ := head
    rw [List.lookup_cons] at h
    split at h
    · cases h
      simp
      omega
    · have := ih h
      simp
      omega

/-- The member of a record under a key, if there is one; the reader may use that the value is a
part of the record. -/
def field? {α : Type} (members : List (String × Json)) (key : String)
    (read : (v : Json) → sizeOf v < sizeOf members → Decoded α) : Decoded (Option α) :=
  match h : members.lookup key with
  | none => .ok none
  | some v => some <$> read v (sizeOf_lt_of_lookup h)

/-- A member that has to be there. -/
def require {α : Type} (key : String) : Option α → Decoded α
  | none => .error (.missingField key)
  | some a => .ok a

/-- The value that stands for nothing. -/
def isNull : Json → Bool
  | .null => true
  | _ => false

/-- A text. -/
def string : Json → Decoded String
  | .string s => .ok s
  | v => .error (.wrongType (found v) .string)

/-- A truth value. -/
def bool : Json → Decoded Bool
  | .bool b => .ok b
  | v => .error (.wrongType (found v) .bool)

/-- The choice that a word stands for. -/
def word {α : Type} [Named α] (w : String) : Decoded α :=
  match Named.ofWord? w with
  | some a => .ok a
  | none => .error (.unknownName w (Named.words α))

/-- What stands beside the word of a choice: nothing. -/
def unit : Json → Decoded Unit
  | .null | .object [] => .ok ()
  | v => .error (.wrongType (found v) .unit)

/-- A choice: its word, or an object with the word as its only key. -/
def choice {α : Type} [Named α] : Json → Decoded α
  | .string w => word w
  | .object [(w, v)] => do
    let a ← word w
    unit v
    return a
  | .object _ => .error (.wrongValue .map .singleKeyMap)
  | v => .error (.wrongType (found v) .stringOrMap)

/-- A choice or null. -/
def choice? {α : Type} [Named α] : Json → Decoded (Option α)
  | .null => .ok none
  | v => some <$> choice v

/-- The value of a literal; an integer becomes a floating-point number. -/
def scalar : Json → Decoded Scalar
  | .null => .ok .null
  | .bool b => .ok (.bool b)
  | .integer n => .ok (.number (.ofInt n))
  | .real x => .ok (.number x)
  | .string s => .ok (.string s)
  | _ => .error .noLiteral

/-- The comment of an object with two members, its type and its text. -/
def bareComment? (members : List (String × Json)) : Option Comment :=
  if members.length = 2 then
    match members.lookup "type", members.lookup "value" with
    | some (.string kind), some (.string value) => some ⟨kind, value⟩
    | _, _ => none
  else none

mutual

/-- A node. -/
def node (v : Json) : Decoded Node :=
  match v with
  | .object members =>
    match members.lookup "type" with
    | some (.string kind) =>
      match NodeType.ofName? kind with
      | none =>
        match members.lookup "value" with
        | some (.string value) => .ok (.comment ⟨kind, value⟩)
        | _ => .error (.unknownNodeType kind)
      | some type =>
        match record type members with
        | .ok n => .ok n
        | .error e =>
          match bareComment? members with
          | some c => .ok (.comment c)
          | none => .error e
    | _ => .error .missingNodeType
  | _ => .error .missingNodeType
termination_by sizeOf v

/-- The record of a node. -/
def record (type : NodeType) (members : List (String × Json)) : Decoded Node :=
  match type with
  | .program => do
    let body ← field? members "body" fun v _ => nodes v
    let sourceType ← field? members "sourceType" fun v _ => choice v
    return .program (← require "body" body) (sourceType.getD .script)
  | .statement => do
    let expression ← field? members "expression" fun v _ => node v
    return .statement (← require "expression" expression)
  | .call => do
    let arguments ← field? members "arguments" fun v _ => nodes v
    let callee ← field? members "callee" fun v _ => node v
    let isPower ← field? members "isPower" fun v _ => bool v
    let sType ← field? members "sType" fun v _ => choice? v
    return .call (← require "callee" callee) (← require "arguments" arguments) sType.join
      (isPower.getD false)
  | .member => do
    let computed ← field? members "computed" fun v _ => bool v
    let owner ← field? members "object" fun v _ => node v
    let property ← field? members "property" fun v _ => node v
    return .member (← require "computed" computed) (← require "object" owner)
      (← require "property" property)
  | .identifier => do
    let name ← field? members "name" fun v _ => string v
    return .identifier (← require "name" name)
  | .literal => do
    let raw ← field? members "raw" fun v _ => string v
    let sType ← field? members "sType" fun v _ => choice? v
    let value ← field? members "value" fun v _ => scalar v
    return .literal (← require "value" value) (← require "raw" raw) sType.join
  | .declaration => do
    let declarations ← field? members "declarations" fun v _ => declarators v
    let kind ← field? members "kind" fun v _ => choice v
    return .declaration (← require "declarations" declarations) (← require "kind" kind)
  | .arrow => do
    let body ← field? members "body" fun v _ => node v
    let expression ← field? members "expression" fun v _ => bool v
    let generator ← field? members "generator" fun v _ => bool v
    let id ← field? members "id" fun v _ => if isNull v then .ok none else some <$> node v
    let params ← field? members "params" fun v _ => nodes v
    return .arrow id.join (← require "params" params) (← require "body" body)
      (← require "generator" generator) (← require "expression" expression)
  | .binary => do
    let left ← field? members "left" fun v _ => node v
    let operator ← field? members "operator" fun v _ => string v
    let right ← field? members "right" fun v _ => node v
    let sType ← field? members "sType" fun v _ => choice? v
    return .binary (← require "operator" operator) sType.join (← require "left" left)
      (← require "right" right)
  | .unary => do
    let argument ← field? members "argument" fun v _ => node v
    let operator ← field? members "operator" fun v _ => string v
    let before ← field? members "prefix" fun v _ => bool v
    return .unary (← require "operator" operator) (← require "argument" argument)
      (← require "prefix" before)
  | .block => do
    let body ← field? members "body" fun v _ => nodes v
    return .block (← require "body" body)
  | .conditional => do
    let alternate ← field? members "alternate" fun v _ => node v
    let consequent ← field? members "consequent" fun v _ => node v
    let test ← field? members "test" fun v _ => node v
    return .conditional (← require "test" test) (← require "consequent" consequent)
      (← require "alternate" alternate)
  | .array => do
    let elements ← field? members "elements" fun v _ => nodes v
    return .array (← require "elements" elements)
  | .object => do
    let properties ← field? members "properties" fun v _ => properties v
    return .object (← require "properties" properties)
termination_by sizeOf members

/-- A list of nodes. -/
def nodes (v : Json) : Decoded (List Node) :=
  match v with
  | .array vs => nodeList vs
  | _ => .error (.wrongType (found v) .sequence)
termination_by sizeOf v

/-- The nodes of the elements of a list. -/
def nodeList (vs : List Json) : Decoded (List Node) :=
  match vs with
  | [] => .ok []
  | v :: rest => do return (← node v) :: (← nodeList rest)
termination_by sizeOf vs

/-- A list of declarators. -/
def declarators (v : Json) : Decoded (List (Declarator Node)) :=
  match v with
  | .array vs => declaratorList vs
  | _ => .error (.wrongType (found v) .sequence)
termination_by sizeOf v

/-- The declarators of the elements of a list. -/
def declaratorList (vs : List Json) : Decoded (List (Declarator Node)) :=
  match vs with
  | [] => .ok []
  | v :: rest => do return (← declarator v) :: (← declaratorList rest)
termination_by sizeOf vs

/-- A declarator: a record, or a list of its fields. -/
def declarator (v : Json) : Decoded (Declarator Node) :=
  match v with
  | .object members => do
    let id ← field? members "id" fun v _ => node v
    let init ← field? members "init" fun v _ => node v
    return ⟨← require "id" id, ← require "init" init⟩
  | .array [] => .error (.wrongLength 0 (.fields "VariableDeclarator" 2))
  | .array [id] => do
    let _ ← node id
    .error (.wrongLength 1 (.fields "VariableDeclarator" 2))
  | .array (id :: init :: more) => do
    let d : Declarator Node := ⟨← node id, ← node init⟩
    if more.isEmpty then return d else .error (.wrongLength (more.length + 2) (.elements 2))
  | _ => .error (.wrongType (found v) (.record "VariableDeclarator"))
termination_by sizeOf v

/-- A list of properties. -/
def properties (v : Json) : Decoded (List (Property Node)) :=
  match v with
  | .array vs => propertyList vs
  | _ => .error (.wrongType (found v) .sequence)
termination_by sizeOf v

/-- The properties of the elements of a list. -/
def propertyList (vs : List Json) : Decoded (List (Property Node)) :=
  match vs with
  | [] => .ok []
  | v :: rest => do return (← property v) :: (← propertyList rest)
termination_by sizeOf vs

/-- A property: a record, or a list of its fields. -/
def property (v : Json) : Decoded (Property Node) :=
  match v with
  | .object members => do
    let computed ← field? members "computed" fun v _ => bool v
    let key ← field? members "key" fun v _ => node v
    let kind ← field? members "kind" fun v _ => choice v
    let method ← field? members "method" fun v _ => bool v
    let shorthand ← field? members "shorthand" fun v _ => bool v
    let value ← field? members "value" fun v _ => node v
    return ⟨← require "key" key, ← require "computed" computed, ← require "value" value,
      ← require "kind" kind, ← require "method" method, ← require "shorthand" shorthand⟩
  | .array vs => propertyFields vs
  | _ => .error (.wrongType (found v) (.record "Property"))
termination_by sizeOf v

/-- A property from the list of its fields. -/
def propertyFields (vs : List Json) : Decoded (Property Node) := do
  let short : Decoded (Property Node) := .error (.wrongLength vs.length (.fields "Property" 6))
  match vs with
  | [] => short
  | key :: rest =>
    let key ← node key
    match rest with
    | [] => short
    | computed :: rest =>
      let computed ← bool computed
      match rest with
      | [] => short
      | value :: rest =>
        let value ← node value
        match rest with
        | [] => short
        | kind :: rest =>
          let kind ← choice kind
          match rest with
          | [] => short
          | method :: rest =>
            let method ← bool method
            match rest with
            | [] => short
            | shorthand :: rest =>
              let shorthand ← bool shorthand
              if rest.isEmpty then return ⟨key, computed, value, kind, method, shorthand⟩
              else .error (.wrongLength vs.length (.elements 6))
termination_by sizeOf vs

end

end Decode

end ScriptTree
