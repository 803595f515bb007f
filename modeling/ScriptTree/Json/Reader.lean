import ScriptTree.Json.Lexeme
import ScriptTree.Dictionary

/-!
# Reading a JSON value

The reader takes the lexemes of a text one by one: `step` says what each of them does in a state,
and `State.ending` what is wrong with a text that ends there. A state holds the containers that
are open, with what was read of them. Of equal keys of an object the last one counts.
-/

namespace ScriptTree.Json
set_option autoImplicit false

/-- A container that waits for the value of an element or member. -/
inductive Frame where
  /-- The elements before it, the last one first. -/
  | element (elements : List Json)
  /-- The members before it, in ascending order of their keys, and its key. -/
  | member (members : List (String × Json)) (key : String)

/-- What the reader waits for, with the containers around it from the inside out. -/
inductive State where
  | value (outer : List Frame)
  | firstElement (outer : List Frame)
  | nextElement (elements : List Json) (outer : List Frame)
  | afterElement (elements : List Json) (outer : List Frame)
  | firstKey (outer : List Frame)
  | nextKey (members : List (String × Json)) (outer : List Frame)
  | colon (members : List (String × Json)) (key : String) (outer : List Frame)
  | afterMember (members : List (String × Json)) (outer : List Frame)
  /-- The value is complete; a fault if more text follows. -/
  | done (value : Json) (trailing : Option Fault)

/-- At most this many containers may be open. -/
def depthLimit : Nat := 127

/-- The state after a value, in the containers around it. -/
def State.resume (v : Json) : List Frame → State
  | [] => .done v none
  | .element elements :: outer => .afterElement (v :: elements) outer
  | .member members key :: outer => .afterMember (insertEntry key v members) outer

/-- A lexeme where a value is expected. -/
def stepValue (outer : List Frame) (l : Lexeme) : Except Fault State :=
  match l.token with
  | .scalar value _ => return .resume (← value) outer
  | .string value _ => return .resume (.string (← value)) outer
  | .mark .openArray =>
    if outer.length < depthLimit then .ok (.firstElement outer) else .error (.on .tooDeep l.start)
  | .mark .openObject =>
    if outer.length < depthLimit then .ok (.firstKey outer) else .error (.on .tooDeep l.start)
  | _ => .error (.on .expectedValue l.start)

/-- A lexeme where a key is expected. -/
def stepKey (members : List (String × Json)) (outer : List Frame) (l : Lexeme) :
    Except Fault State :=
  match l.token with
  | .string key _ => return .colon members (← key) outer
  | _ => .error (.on .keyNotString l.start)

/-- What a lexeme does in a state. -/
def step (s : State) (l : Lexeme) : Except Fault State :=
  match s, l.token with
  | .value outer, _ => stepValue outer l
  | .firstElement outer, .mark .closeArray => .ok (.resume (.array []) outer)
  | .firstElement outer, _ => stepValue (.element [] :: outer) l
  | .nextElement _ _, .mark .closeArray => .error (.on .trailingComma l.start)
  | .nextElement elements outer, _ => stepValue (.element elements :: outer) l
  | .afterElement elements outer, .mark .comma => .ok (.nextElement elements outer)
  | .afterElement elements outer, .mark .closeArray =>
    .ok (.resume (.array elements.reverse) outer)
  | .afterElement _ _, _ => .error (.on .expectedListEnd l.start)
  | .firstKey outer, .mark .closeObject => .ok (.resume (.object []) outer)
  | .firstKey outer, _ => stepKey [] outer l
  | .nextKey _ _, .mark .closeObject => .error (.on .trailingComma l.start)
  | .nextKey members outer, _ => stepKey members outer l
  | .colon members key outer, .mark .colon => .ok (.value (.member members key :: outer))
  | .colon _ _ _, _ => .error (.on .expectedColon l.start)
  | .afterMember members outer, .mark .comma => .ok (.nextKey members outer)
  | .afterMember members outer, .mark .closeObject => .ok (.resume (.object members) outer)
  | .afterMember _ _, _ => .error (.on .expectedObjectEnd l.start)
  | .done v none, _ => .ok (.done v (some (.on .trailingText l.start)))
  | .done v trailing, _ => .ok (.done v trailing)

/-- The value of a text that ends in a state, with the fault of what follows the value. -/
def State.ending : State → Except Fault (Json × Option Fault)
  | .value _ | .nextElement _ _ | .nextKey _ _ => .error (.atEnd .endInValue)
  | .firstElement _ | .afterElement _ _ => .error (.atEnd .endInList)
  | .firstKey _ | .colon _ _ _ | .afterMember _ _ => .error (.atEnd .endInObject)
  | .done v trailing => .ok (v, trailing)

/-- Reads the value that a text starts with, and gives the fault of what follows the value. -/
def read (cs : List Char) : Except Fault (Json × Option Fault) := do
  (← (scan cs).foldlM step (.value [])).ending

end ScriptTree.Json
