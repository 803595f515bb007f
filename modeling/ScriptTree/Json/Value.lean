import ScriptTree.Number.Shortest

/-!
# JSON values

A value of a JSON text. The members of an object stand in the order in which they are written;
the reader keeps them in ascending order of their keys.
-/

namespace ScriptTree
set_option autoImplicit false
open Number

/-- A JSON value; a number is an integer or a binary floating-point number. -/
inductive Json where
  | null
  | bool (b : Bool)
  | integer (n : Int)
  | real (x : Binary64)
  | string (s : String)
  | array (elements : List Json)
  | object (members : List (String × Json))

namespace Json

/-- Numbers are positional from `0.00001` to `9999999999999999.0`; an integer ends in `.0`. -/
def realLayout : Layout :=
  ⟨-5, 15, ['.', '0']⟩

/-- The text of a floating-point number; one that is not finite has the text of null. -/
def realText : Binary64 → List Char
  | .finite negative m => (if negative then ['-'] else []) ++ m.write realLayout
  | _ => ['n', 'u', 'l', 'l']

/-- The text of an integer. -/
def integerText (n : Int) : List Char :=
  (if n < 0 then ['-'] else []) ++ Text.decimalDigits n.natAbs

end Json

end ScriptTree
