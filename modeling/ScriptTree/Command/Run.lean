import ScriptTree.Command.Help
import ScriptTree.Error
import ScriptTree.Operator.Listing

/-!
# Running a command

A command reads files, and writes a file or gives a text for the standard output. Nothing is
written unless all went well.
-/

namespace ScriptTree.Command
set_option autoImplicit false

/-- The JavaScript text of a file with a tree, without the blanks at its end. -/
def renderBytes (bytes : ByteArray) : Except Error String := do
  let text ← (textOfBytes bytes).mapError .files
  let tree ← (Node.ofText text).mapError .tree
  let code ← tree.render.mapError .render
  return String.ofList (Text.trimEnd code.toList)

/-- The operator table of a file. -/
def tableOfBytes (bytes : ByteArray) : Except Error OperatorTable := do
  let text ← (textOfBytes bytes).mapError .files
  (OperatorTable.ofText text).mapError .operatorTable

/-- A table in a form. -/
def ListingForm.write : ListingForm → OperatorTable → String
  | .text, t => t.listing
  | .json, t => t.toText

section
variable {m : Type → Type} [Monad m] [MonadFiles m]

/-- The operator table of the file at a path. -/
def loadTable (path : String) : m (Except Error OperatorTable) := do
  match ← MonadFiles.read path with
  | .error f => return .error (.files f)
  | .ok bytes => return tableOfBytes bytes

/-- Renders the tree of a file into a file. -/
def renderToFile (input output : String) : m (Except Error Unit) := do
  match ← MonadFiles.read input with
  | .error f => return .error (.files f)
  | .ok bytes =>
    match renderBytes bytes with
    | .error e => return .error e
    | .ok code => return (← MonadFiles.write output code.toUTF8).mapError .files

/-- Renders the tree of a file. -/
def renderToText (input : String) : m (Except Error String) := do
  match ← MonadFiles.read input with
  | .error f => return .error (.files f)
  | .ok bytes => return renderBytes bytes

/-- Runs an action; the result is the text for the standard output. -/
def Action.run : Action → m (Except Error String)
  | .render input (some output) => return (← renderToFile input output).map fun _ => ""
  | .render input none => return (← renderToText input).map (· ++ "\n")
  | .operators none format => return .ok (format.write .standard ++ "\n")
  | .operators (some path) format => return (← loadTable path).map (format.write · ++ "\n")

end

/-- What is seen of a run: the exit code and the texts on the two outputs. -/
structure Outcome where
  code : Nat
  stdout : String
  stderr : String
deriving DecidableEq, Repr

/-- A line without spaces at its end. -/
def withoutFinalSpaces (line : String) : String :=
  String.ofList (line.toList.reverse.dropWhile (· = ' ')).reverse

/-- A message as it stands on the error output: the first line behind a cross, and each further
line behind a bar. -/
def errorText (message : String) : String :=
  match (message.splitOn "\n").map withoutFinalSpaces with
  | [] => ""
  | line :: more =>
    "Error:   × " ++ lines (line :: more.map ("  │ " ++ ·)) ++ "\n\n"

/-- The outcome of an action. -/
def Outcome.ofResult : Except Error String → Outcome
  | .ok text => ⟨0, text, ""⟩
  | .error e => ⟨1, "", errorText e.message⟩

/-- Runs the program on its arguments. -/
def run {m : Type → Type} [Monad m] [MonadFiles m] (args : List String) : m Outcome := do
  match Request.ofArguments args with
  | none => return ⟨2, "", misuseText ++ "\n"⟩
  | some (.help t) => return ⟨0, t.text ++ "\n", ""⟩
  | some .version => return ⟨0, versionText ++ "\n", ""⟩
  | some (.run a) => return .ofResult (← a.run)

end ScriptTree.Command
