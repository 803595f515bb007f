import ScriptTree.JavaScript.OfTree
import ScriptTree.JavaScript.Printer

/-!
# The JavaScript text of a tree

A tree is made into a program, the program is printed with placeholders, and the comments are put
in their places.
-/

namespace ScriptTree
set_option autoImplicit false

/-- Why a tree has no JavaScript text. -/
inductive RenderFault where
  | program (f : JavaScript.ProgramFault)
  | collision (c : Placeholder.Collision)
deriving DecidableEq

/-- The wording of a fault. -/
def RenderFault.message : RenderFault → String
  | .program f => f.message
  | .collision c =>
    s!"found {c.found} comment placeholders for {c.expected} comments; " ++
      "a string literal collides with the placeholder text"

/-- The text of a program. -/
def JavaScript.renderProgram (program : List JavaScript.Stmt) :
    Except Placeholder.Collision (List Char) :=
  Placeholder.restore (JavaScript.printProgram program) (JavaScript.Stmt.allComments program)

/-- The JavaScript text of a tree. -/
def Node.render (n : Node) : Except RenderFault String :=
  match JavaScript.programOfTree n with
  | .error f => .error (.program f)
  | .ok stmts =>
    match JavaScript.renderProgram stmts with
    | .error c => .error (.collision c)
    | .ok cs => .ok (String.ofList cs)

end ScriptTree
