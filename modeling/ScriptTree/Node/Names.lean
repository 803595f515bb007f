import ScriptTree.Node

/-!
# Names of the choices in a tree

The words that stand for the choices of a node in its JSON form, in the order in which a message
lists them.
-/

namespace ScriptTree
set_option autoImplicit false

/-- The words of a type with finitely many values. -/
class Named (α : Type) where
  /-- The word of a value. -/
  word : α → String
  /-- All values, in the order of a message. -/
  all : List α

instance : Named ValueType where
  word
    | .number => "number"
    | .string => "string"
    | .bool => "bool"
    | .list => "list"
    | .needsInference => "needsInference"
  all := [.number, .string, .bool, .list, .needsInference]

instance : Named SourceType where
  word
    | .script => "script"
    | .esModule => "module"
  all := [.script, .esModule]

instance : Named DeclarationWord where
  word
    | .constWord => "const"
    | .letWord => "let"
    | .varWord => "var"
  all := [.constWord, .letWord, .varWord]

instance : Named PropertyKind where
  word
    | .init => "init"
    | .get => "get"
    | .set => "set"
  all := [.init, .get, .set]

/-- The value that a word stands for. -/
def Named.ofWord? {α : Type} [Named α] (w : String) : Option α :=
  (Named.all : List α).find? fun a => Named.word a == w

/-- All words, in the order of a message. -/
def Named.words (α : Type) [Named α] : List String :=
  (Named.all : List α).map Named.word

end ScriptTree
