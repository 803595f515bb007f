import ScriptTree.Json.StringText

/-!
# Writing a JSON value

The compact form has no spaces. The indented form puts every element and member on a line of its
own, two spaces deeper than the container.
-/

namespace ScriptTree.Json
set_option autoImplicit false

/-- The text of a value without parts. -/
def scalarText : Json → List Char
  | .bool true => ['t', 'r', 'u', 'e']
  | .bool false => ['f', 'a', 'l', 's', 'e']
  | .integer n => integerText n
  | .real x => realText x
  | .string s => stringText s
  | _ => ['n', 'u', 'l', 'l']

mutual

/-- The compact form of a value. -/
def compact : Json → List Char
  | .array elements => '[' :: compactElements elements
  | .object members => '\x7b' :: compactMembers members
  | v => scalarText v

/-- Elements up to the closing bracket. -/
def compactElements : List Json → List Char
  | [] => [']']
  | [v] => compact v ++ [']']
  | v :: rest => compact v ++ ',' :: compactElements rest

/-- Members up to the closing brace. -/
def compactMembers : List (String × Json) → List Char
  | [] => ['\x7d']
  | [(key, v)] => stringText key ++ ':' :: compact v ++ ['\x7d']
  | (key, v) :: rest => stringText key ++ ':' :: compact v ++ ',' :: compactMembers rest

end

/-- A line break and the indentation of a level. -/
def newline (level : Nat) : List Char :=
  '\n' :: List.replicate (2 * level) ' '

mutual

/-- The indented form of a value that stands at a level. -/
def indented (level : Nat) : Json → List Char
  | .array [] => ['[', ']']
  | .array elements => '[' :: indentedElements level elements
  | .object [] => ['\x7b', '\x7d']
  | .object members => '\x7b' :: indentedMembers level members
  | v => scalarText v

/-- Elements of a container at a level, up to the closing bracket. -/
def indentedElements (level : Nat) : List Json → List Char
  | [] => newline level ++ [']']
  | [v] => newline (level + 1) ++ indented (level + 1) v ++ newline level ++ [']']
  | v :: rest =>
    newline (level + 1) ++ indented (level + 1) v ++ ',' :: indentedElements level rest

/-- Members of a container at a level, up to the closing brace. -/
def indentedMembers (level : Nat) : List (String × Json) → List Char
  | [] => newline level ++ ['\x7d']
  | [(key, v)] =>
    newline (level + 1) ++ stringText key ++ ':' :: ' ' :: indented (level + 1) v ++
      newline level ++ ['\x7d']
  | (key, v) :: rest =>
    newline (level + 1) ++ stringText key ++ ':' :: ' ' :: indented (level + 1) v ++
      ',' :: indentedMembers level rest

end

/-- The compact form as a string. -/
def toCompact (v : Json) : String :=
  String.ofList (compact v)

/-- The indented form as a string. -/
def toIndented (v : Json) : String :=
  String.ofList (indented 0 v)

end ScriptTree.Json
