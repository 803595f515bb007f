import ScriptTree.Node.Encode
import ScriptTree.Node.Decode
import ScriptTree.Json.Reader

/-!
# Texts of trees

A tree is written as its JSON form, indented or compact, and read back from any JSON text of that
form.
-/

namespace ScriptTree
set_option autoImplicit false

/-- Why a text is no tree: it is no JSON text, or its value is no tree. -/
inductive TreeFault where
  | malformed (r : Json.Report)
  | mismatch (m : Json.Mismatch)

/-- The wording of a fault. -/
def TreeFault.message : TreeFault → String
  | .malformed r => r.message
  | .mismatch m => m.message

namespace Node

/-- The text of a tree, indented. -/
def toText (n : Node) : String :=
  n.toJson.toIndented

/-- The text of a tree, compact. -/
def toCompactText (n : Node) : String :=
  n.toJson.toCompact

/-- The tree of a text. The value is read as a tree before the end of the text is checked. -/
def ofText (text : String) : Except TreeFault Node :=
  match Json.read text.toList with
  | .error f => .error (.malformed (f.report text.toList))
  | .ok (v, trailing) =>
    match Decode.node v, trailing with
    | .error m, _ => .error (.mismatch m)
    | .ok _, some f => .error (.malformed (f.report text.toList))
    | .ok n, none => .ok n

end Node

end ScriptTree
