import ScriptTree.Node

/-!
# The text of a comment

A comment of the kind `Line` has a line for each line of its value. Any other comment is a block;
what would close the block in its value is drawn apart.
-/

namespace ScriptTree.Comment
set_option autoImplicit false

/-- The lines of a text, each behind two slashes. -/
def lineText (value : List Char) : List Char :=
  '/' :: '/' :: value.flatMap fun c => if c = '\n' then ['\n', '/', '/'] else [c]

/-- The text with a space between a star and a slash that follow each other. -/
def separateEnds : List Char → List Char
  | '*' :: '/' :: rest => '*' :: ' ' :: '/' :: separateEnds rest
  | c :: rest => c :: separateEnds rest
  | [] => []

/-- The text as a block. -/
def blockText (value : List Char) : List Char :=
  '/' :: '*' :: separateEnds value ++ ['*', '/']

/-- The text of a comment. -/
def text (c : Comment) : List Char :=
  if c.kind = "Line" then lineText c.value.toList else blockText c.value.toList

end ScriptTree.Comment
