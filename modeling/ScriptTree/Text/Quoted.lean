import ScriptTree.Text.DecimalDigit
import ScriptTree.Text.Printable

/-!
# Texts quoted in messages

A message shows a text between double quotes. The quote, the backslash and the line, tab and nul
characters have short escapes; another character that is not printable is shown by its code.
-/

namespace ScriptTree.Text
set_option autoImplicit false

/-- A character as it stands in a quoted text. -/
def quotedChar (c : Char) : List Char :=
  match c with
  | '"' => ['\\', '"']
  | '\\' => ['\\', '\\']
  | '\n' => ['\\', 'n']
  | '\r' => ['\\', 'r']
  | '\t' => ['\\', 't']
  | '\x00' => ['\\', '0']
  | c => if isPrintable c then [c] else ['\\', 'u', '\x7b'] ++ hexDigits c.toNat ++ ['\x7d']

/-- The text between double quotes. -/
def quoted (s : String) : String :=
  String.ofList ('"' :: s.toList.flatMap quotedChar ++ ['"'])

end ScriptTree.Text
