/-!
# Paths

The text of a path holds parts between slashes. A path starts at the root of the file system if a
slash comes first, and otherwise in the directory where the program works. Empty parts do not
count.
-/

namespace ScriptTree
set_option autoImplicit false

/-- A part of a path: it leads nowhere else, to the directory around, or to what has a name. -/
inductive PathPart where
  | stay
  | up
  | name (n : String)
deriving DecidableEq, Repr

/-- A path. -/
structure Path where
  /-- Whether the path starts at the root. -/
  fromRoot : Bool
  parts : List PathPart
  /-- Whether the last character is a slash. -/
  slashed : Bool
deriving DecidableEq, Repr

/-- The part with a text. -/
def PathPart.ofText (text : List Char) : PathPart :=
  if text = ['.'] then .stay else if text = ['.', '.'] then .up else .name (String.ofList text)

/-- The path with a text. -/
def Path.ofText (text : String) : Path :=
  ⟨text.toList.head? = some '/',
    ((text.toList.splitOn '/').filter fun part => !part.isEmpty).map PathPart.ofText,
    text.toList.getLast? = some '/'⟩

end ScriptTree
