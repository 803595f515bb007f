import ScriptTree.Node.Names
import ScriptTree.Json.Writer

/-!
# The JSON form of a tree

Every node is an object whose `type` comes first; a comment has its kind there. The type of a node
and the mark of a power are left out where there is none.
-/

namespace ScriptTree
set_option autoImplicit false

/-- The word of a choice as a JSON value. -/
def wordJson {α : Type} [Named α] (a : α) : Json :=
  .string (Named.word a)

/-- The member for the type of a node, if there is one. -/
def sTypeMember : Option ValueType → List (String × Json)
  | none => []
  | some t => [("sType", wordJson t)]

/-- The member that marks a power. -/
def isPowerMember : Bool → List (String × Json)
  | false => []
  | true => [("isPower", .bool true)]

/-- The JSON form of a literal's value. -/
def Scalar.toJson : Scalar → Json
  | .null => .null
  | .bool b => .bool b
  | .number x => .real x
  | .string s => .string s

/-- An object with its type first. -/
def typedObject (type : String) (members : List (String × Json)) : Json :=
  .object (("type", .string type) :: members)

mutual

/-- The JSON form of a node. -/
def Node.toJson : Node → Json
  | .program body sourceType =>
    typedObject "Program"
      [("body", .array (Node.allToJson body)), ("sourceType", wordJson sourceType)]
  | .statement e => typedObject "ExpressionStatement" [("expression", e.toJson)]
  | .call callee arguments sType isPower =>
    typedObject "CallExpression"
      (("callee", callee.toJson) :: ("arguments", .array (Node.allToJson arguments)) ::
        (sTypeMember sType ++ isPowerMember isPower))
  | .member computed owner property =>
    typedObject "MemberExpression"
      [("computed", .bool computed), ("object", owner.toJson), ("property", property.toJson)]
  | .identifier name => typedObject "Identifier" [("name", .string name)]
  | .literal value raw sType =>
    typedObject "Literal" (("value", value.toJson) :: ("raw", .string raw) :: sTypeMember sType)
  | .declaration declarators kind =>
    typedObject "VariableDeclaration"
      [("declarations", .array (Node.declaratorsToJson declarators)), ("kind", wordJson kind)]
  | .arrow id params body generator expression =>
    typedObject "ArrowFunctionExpression"
      [("id", match id with
        | none => .null
        | some n => n.toJson),
        ("params", .array (Node.allToJson params)), ("body", body.toJson),
        ("generator", .bool generator), ("expression", .bool expression)]
  | .binary operator sType left right =>
    typedObject "BinaryExpression"
      (("operator", .string operator) :: (sTypeMember sType ++
        [("left", left.toJson), ("right", right.toJson)]))
  | .unary operator argument before =>
    typedObject "UnaryExpression"
      [("operator", .string operator), ("argument", argument.toJson), ("prefix", .bool before)]
  | .block body => typedObject "BlockStatement" [("body", .array (Node.allToJson body))]
  | .conditional test consequent alternate =>
    typedObject "ConditionalExpression"
      [("test", test.toJson), ("consequent", consequent.toJson), ("alternate", alternate.toJson)]
  | .array elements =>
    typedObject "ArrayExpression" [("elements", .array (Node.allToJson elements))]
  | .object properties =>
    typedObject "ObjectExpression" [("properties", .array (Node.propertiesToJson properties))]
  | .comment c => typedObject c.kind [("value", .string c.value)]

/-- The JSON forms of a list of nodes. -/
def Node.allToJson : List Node → List Json
  | [] => []
  | n :: ns => n.toJson :: Node.allToJson ns

/-- The JSON forms of a list of declarators. -/
def Node.declaratorsToJson : List (Declarator Node) → List Json
  | [] => []
  | ⟨id, init⟩ :: rest =>
    typedObject "VariableDeclarator" [("id", id.toJson), ("init", init.toJson)] ::
      Node.declaratorsToJson rest

/-- The JSON forms of a list of properties. -/
def Node.propertiesToJson : List (Property Node) → List Json
  | [] => []
  | ⟨key, computed, value, kind, method, shorthand⟩ :: rest =>
    typedObject "Property"
      [("key", key.toJson), ("computed", .bool computed), ("value", value.toJson),
        ("kind", wordJson kind), ("method", .bool method), ("shorthand", .bool shorthand)] ::
      Node.propertiesToJson rest

end

/-- The JSON form of a property. -/
def Property.toJson (p : Property Node) : Json :=
  typedObject "Property"
    [("key", p.key.toJson), ("computed", .bool p.computed), ("value", p.value.toJson),
      ("kind", wordJson p.kind), ("method", .bool p.method), ("shorthand", .bool p.shorthand)]

end ScriptTree
