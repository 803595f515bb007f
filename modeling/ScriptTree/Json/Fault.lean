import ScriptTree.Json.Mismatch

/-!
# Faults of a JSON text

A reader that stops says why and where: a `Fault` has the cause and the text that was left. A
`Report` gives the place by line and column, which count bytes.
-/

namespace ScriptTree.Json
set_option autoImplicit false

/-- Why a text is refused. -/
inductive Cause where
  | endInValue
  | endInString
  | endInList
  | endInObject
  | expectedValue
  | expectedWord
  | expectedColon
  | expectedListEnd
  | expectedObjectEnd
  | keyNotString
  | trailingComma
  | trailingText
  | badNumber
  | numberTooLarge
  | controlCharacter
  | badEscape
  | loneSurrogate
  | brokenSurrogate
  | tooDeep
  | mismatch (m : Mismatch)

/-- The wording of a cause. -/
def Cause.message : Cause → String
  | .endInValue => "EOF while parsing a value"
  | .endInString => "EOF while parsing a string"
  | .endInList => "EOF while parsing a list"
  | .endInObject => "EOF while parsing an object"
  | .expectedValue => "expected value"
  | .expectedWord => "expected ident"
  | .expectedColon => "expected `:`"
  | .expectedListEnd => "expected `,` or `]`"
  | .expectedObjectEnd => "expected `,` or `\x7d`"
  | .keyNotString => "key must be a string"
  | .trailingComma => "trailing comma"
  | .trailingText => "trailing characters"
  | .badNumber => "invalid number"
  | .numberTooLarge => "number out of range"
  | .controlCharacter => "control character (\\u0000-\\u001F) found while parsing a string"
  | .badEscape => "invalid escape"
  | .loneSurrogate => "lone leading surrogate in hex escape"
  | .brokenSurrogate => "unexpected end of hex escape"
  | .tooDeep => "recursion limit exceeded"
  | .mismatch m => m.message

/-- A cause and its place: so many bytes beyond the point where `left` was left of the text. -/
structure Fault where
  cause : Cause
  left : List Char
  beyond : Nat

namespace Fault

/-- A fault at the point where `left` is left. -/
def before (cause : Cause) (left : List Char) : Fault :=
  ⟨cause, left, 0⟩

/-- A fault of the byte that `left` starts with: its place is after that byte. -/
def on (cause : Cause) (left : List Char) : Fault :=
  ⟨cause, left, if left.isEmpty then 0 else 1⟩

/-- A fault at the end of the text. -/
def atEnd (cause : Cause) : Fault :=
  ⟨cause, [], 0⟩

end Fault

/-- The number of bytes of a text. -/
def byteSize (cs : List Char) : Nat :=
  cs.foldl (fun size c => size + c.utf8Size) 0

/-- The line and the column after `offset` bytes of a text, from a line and column on. -/
def locate : List Char → Nat → Nat → Nat → Nat × Nat
  | [], _, line, column => (line, column)
  | c :: rest, offset, line, column =>
    if offset < c.utf8Size then (line, column + offset)
    else if c = '\n' then locate rest (offset - 1) (line + 1) 0
    else locate rest (offset - c.utf8Size) line (column + c.utf8Size)

/-- A cause with its line, from one on, and its column, the bytes before it on that line. -/
structure Report where
  cause : Cause
  line : Nat
  column : Nat

/-- The report of a fault that a reader of `text` found. -/
def Fault.report (text : List Char) (f : Fault) : Report :=
  let place := locate text (byteSize text - byteSize f.left + f.beyond) 1 0
  ⟨f.cause, place.1, place.2⟩

/-- The wording of a report. -/
def Report.message (r : Report) : String :=
  s!"{r.cause.message} at line {r.line} column {r.column}"

end ScriptTree.Json
