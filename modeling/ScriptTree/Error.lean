import ScriptTree.Build.Template
import ScriptTree.Files
import ScriptTree.JavaScript.Render
import ScriptTree.Node.Text
import ScriptTree.Operator.Reader

/-!
# Errors

All that can go wrong, with the code and the wording that a user sees.
-/

namespace ScriptTree
set_option autoImplicit false

/-- An error of any part. -/
inductive Error where
  | files (f : FileFault)
  | unknownOperator (o : Build.UnknownOperator)
  | operatorTable (r : Json.Report)
  | tree (f : TreeFault)
  | render (f : RenderFault)

namespace Error

/-- The wording of an error. -/
def message : Error → String
  | .files f => "I/O error: " ++ f.message
  | .unknownOperator o => "Unknown operator token: " ++ Text.quoted o.token
  | .operatorTable r => "Invalid operator table: " ++ r.message
  | .tree f => "Invalid template tree: " ++ f.message
  | .render f => "Rendering failed: " ++ f.message

/-- The code of an error. -/
def code : Error → String
  | .files _ => "estemplate::io_error"
  | .unknownOperator _ => "estemplate::unknown_operator"
  | .operatorTable _ => "estemplate::operator_table"
  | .tree _ => "estemplate::tree_error"
  | .render _ => "estemplate::render_error"

/-- What a user can do about an error. -/
def help? : Error → Option String
  | .unknownOperator _ =>
    some "every operator the parser can produce needs an entry in the operator table"
  | _ => none

end Error

end ScriptTree
