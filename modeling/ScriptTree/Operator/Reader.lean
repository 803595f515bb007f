import ScriptTree.Operator.Table
import ScriptTree.Json.Lexeme

/-!
# Reading an operator table

A table is read from the lexemes of its JSON text in one pass, so that every fault has a place and
the first one in the text is reported. A row is an object or a list of its three fields. Members
of a row with other names are skipped, however deep they are.
-/

namespace ScriptTree.Operator
set_option autoImplicit false
open Json (Cause Fault Found Expected Mismatch Lexeme Mark)

/-- The fields of a row. -/
inductive RowField where
  | precedence
  | associativity
  | resultType
deriving DecidableEq, Repr

namespace RowField

/-- The name of a field. -/
def name : RowField → String
  | .precedence => "precedence"
  | .associativity => "associativity"
  | .resultType => "type"

/-- The field that a name stands for. -/
def ofName? (s : String) : Option RowField :=
  [RowField.precedence, .associativity, .resultType].find? fun f => f.name == s

/-- The number of fields up to this one. -/
def count : RowField → Nat
  | .precedence => 1
  | .associativity => 2
  | .resultType => 3

end RowField

/-- The fields of a row that were read. -/
structure PartialRow where
  precedence : Option UInt8
  associativity : Option Associativity
  resultType : Option ValueType

namespace PartialRow

/-- No field was read. -/
def empty : PartialRow :=
  ⟨none, none, none⟩

/-- Whether a field was read. -/
def has (r : PartialRow) : RowField → Bool
  | .precedence => r.precedence.isSome
  | .associativity => r.associativity.isSome
  | .resultType => r.resultType.isSome

/-- The row, or the first field that is missing. -/
def complete (r : PartialRow) : Except RowField OperatorRow :=
  match r.precedence, r.associativity, r.resultType with
  | none, _, _ => .error .precedence
  | _, none, _ => .error .associativity
  | _, _, none => .error .resultType
  | some p, some a, some t => .ok ⟨p, a, t⟩

end PartialRow

/-- A row that is being read: the rows before it, its token, and what was read of it. -/
structure OpenRow where
  table : OperatorTable
  token : String
  row : PartialRow

/-- Whether a row is written as an object or as a list. -/
inductive RowForm where
  | members
  | items
deriving DecidableEq

/-- The containers that are skipped. -/
inductive Bracket where
  | array
  | object
deriving DecidableEq

namespace Bracket

/-- The mark that closes a container. -/
def close : Bracket → Mark
  | .array => .closeArray
  | .object => .closeObject

/-- The fault of a container after whose element neither a comma nor the end comes. -/
def expectedEnd : Bracket → Cause
  | .array => .expectedListEnd
  | .object => .expectedObjectEnd

/-- The fault of a text that ends in a container. -/
def textEnd : Bracket → Cause
  | .array => .endInList
  | .object => .endInObject

end Bracket

/-- What the reader waits for. -/
inductive State where
  | table
  | firstToken
  | nextToken (t : OperatorTable)
  | tokenColon (t : OperatorTable) (token : String)
  | row (t : OperatorTable) (token : String)
  | afterRow (t : OperatorTable)
  | firstField (o : OpenRow)
  | nextField (o : OpenRow)
  /-- The colon after the name of a field, or after another name. -/
  | fieldColon (o : OpenRow) (f : Option RowField)
  | fieldValue (o : OpenRow) (f : RowField)
  | afterField (o : OpenRow)
  | firstItem (o : OpenRow)
  | nextItem (o : OpenRow) (f : RowField)
  | afterItem (o : OpenRow) (f : RowField)
  /-- After a comma that follows the last item. -/
  | extraItem
  | choiceKey (o : OpenRow) (f : RowField) (form : RowForm)
  | choiceColon (o : OpenRow) (f : RowField) (form : RowForm)
  | choiceUnit (o : OpenRow) (f : RowField) (form : RowForm)
  | choiceEnd (o : OpenRow) (f : RowField) (form : RowForm)
  /-- A value to skip, with the containers around it from the inside out. -/
  | skipValue (o : OpenRow) (outer : List Bracket)
  | skipFirst (o : OpenRow) (b : Bracket) (outer : List Bracket)
  | skipNext (o : OpenRow) (b : Bracket) (outer : List Bracket)
  | skipKey (o : OpenRow) (outer : List Bracket)
  | skipColon (o : OpenRow) (outer : List Bracket)
  | done (t : OperatorTable)

/-- The text after a lexeme. -/
def after (l : Lexeme) : List Char :=
  l.stop.getD []

/-- The fault of a lexeme that starts a value of another type than expected. A scalar is read
first, and the fault lies after it. -/
def wrongType (l : Lexeme) (expected : Expected) : Fault :=
  let mismatch (found : Found) : Cause := .mismatch (.wrongType found expected)
  match l.token with
  | .scalar (.ok v) _ => .before (mismatch (Json.found v)) (after l)
  | .string (.ok s) _ => .before (mismatch (.string s)) (after l)
  | .scalar (.error f) _ | .string (.error f) _ => f
  | .mark .openArray => .before (mismatch .sequence) l.start
  | .mark .openObject => .before (mismatch .map) l.start
  | _ => .on .expectedValue l.start

/-- The state after a value of a field, in either form of a row. -/
def State.afterValue (o : OpenRow) (f : RowField) : RowForm → State
  | .members => .afterField o
  | .items => .afterItem o f

/-- Closes a row: the rows with it, or the fault of a field that is missing. -/
def closeRow (o : OpenRow) (l : Lexeme) : Except Fault State :=
  match o.row.complete with
  | .ok info => .ok (.afterRow (o.table.insert o.token info))
  | .error f => .error (.before (.mismatch (.missingField f.name)) (after l))

/-- The fault of a row written as a list that ends after `count` items. -/
def shortRow (count : Nat) (l : Lexeme) : Fault :=
  .before (.mismatch (.wrongLength count (.fields "OperatorInfo" 3))) (after l)

/-- What is left once the end of an object was looked for: blanks and the closing brace are gone. -/
def afterObjectEnd (cs : List Char) : List Char :=
  match cs.dropWhile Json.isSpace with
  | '\x7d' :: rest => rest
  | rest => rest

/-- A lexeme where the token of a row is expected. -/
def stepToken (t : OperatorTable) (l : Lexeme) : Except Fault State :=
  match l.token with
  | .string token _ => return .tokenColon t (← token)
  | _ => .error (.on .keyNotString l.start)

/-- A lexeme where the name of a field is expected. -/
def stepField (o : OpenRow) (l : Lexeme) : Except Fault State :=
  match l.token with
  | .string name _ => do
    match RowField.ofName? (← name) with
    | none => return .fieldColon o none
    | some f =>
      if o.row.has f then
        .error (.before (.mismatch (.duplicateField f.name)) (afterObjectEnd (after l)))
      else return .fieldColon o (some f)
  | _ => .error (.on .keyNotString l.start)

/-- Puts the choice that a word stands for into a row. -/
def chooseWord (o : OpenRow) (f : RowField) (w : String) (l : Lexeme) : Except Fault OpenRow :=
  let unknown (words : List String) : Fault :=
    .before (.mismatch (.unknownName w words)) (after l)
  match f with
  | .associativity =>
    match (Named.ofWord? w : Option Associativity) with
    | some a => .ok { o with row.associativity := some a }
    | none => .error (unknown (Named.words Associativity))
  | _ =>
    match (Named.ofWord? w : Option ValueType) with
    | some t => .ok { o with row.resultType := some t }
    | none => .error (unknown (Named.words ValueType))

/-- A lexeme where the value of a field is expected. -/
def stepFieldValue (o : OpenRow) (f : RowField) (form : RowForm) (l : Lexeme) :
    Except Fault State :=
  match f, l.token with
  | .precedence, .scalar (.ok (.integer n)) _ =>
    if 0 ≤ n ∧ n < 256 then
      .ok (.afterValue { o with row.precedence := some (UInt8.ofNat n.toNat) } f form)
    else .error (.before (.mismatch (.wrongValue (.integer n) .byte)) (after l))
  | .precedence, _ => .error (wrongType l .byte)
  | _, .string w _ => do
    return .afterValue (← chooseWord o f (← w) l) f form
  | _, .mark .openObject => .ok (.choiceKey o f form)
  | _, _ => .error (.on .expectedValue l.start)

/-- A lexeme where the word of a choice is expected as a key. -/
def stepChoiceKey (o : OpenRow) (f : RowField) (form : RowForm) (l : Lexeme) :
    Except Fault State :=
  match l.token with
  | .string w _ => do return .choiceColon (← chooseWord o f (← w) l) f form
  | .mark .closeObject => .error (.on .expectedValue l.start)
  | _ => .error (.on .keyNotString l.start)

/-- The state after a value that was skipped. -/
def State.afterSkipped (o : OpenRow) : List Bracket → State
  | [] => .afterField o
  | b :: outer => .skipNext o b outer

/-- A lexeme where a value is to be skipped. -/
def stepSkipValue (o : OpenRow) (outer : List Bracket) (l : Lexeme) : Except Fault State :=
  match l.token with
  | .scalar _ none | .string _ none => .ok (.afterSkipped o outer)
  | .scalar _ (some f) | .string _ (some f) => .error f
  | .mark .openArray => .ok (.skipFirst o .array outer)
  | .mark .openObject => .ok (.skipFirst o .object outer)
  | _ => .error (.on .expectedValue l.start)

/-- A lexeme where a key is to be skipped. -/
def stepSkipKey (o : OpenRow) (outer : List Bracket) (l : Lexeme) : Except Fault State :=
  match l.token with
  | .string _ none => .ok (.skipColon o outer)
  | .string _ (some f) => .error f
  | _ => .error (.on .keyNotString l.start)

/-- A lexeme where an element or member of a container is to be skipped. -/
def stepSkipPart (o : OpenRow) (b : Bracket) (outer : List Bracket) (l : Lexeme) :
    Except Fault State :=
  match b with
  | .array => stepSkipValue o (.array :: outer) l
  | .object => stepSkipKey o (.object :: outer) l

/-- Whether a lexeme is a mark. -/
def isMark (l : Lexeme) (m : Mark) : Bool :=
  match l.token with
  | .mark m' => m' == m
  | _ => false

/-- What a lexeme does in a state. -/
def step (s : State) (l : Lexeme) : Except Fault State :=
  match s with
  | .table =>
    if isMark l .openObject then .ok .firstToken else .error (wrongType l .map)
  | .firstToken =>
    if isMark l .closeObject then .ok (.done .empty) else stepToken .empty l
  | .nextToken t =>
    if isMark l .closeObject then .error (.on .trailingComma l.start) else stepToken t l
  | .tokenColon t token =>
    if isMark l .colon then .ok (.row t token) else .error (.on .expectedColon l.start)
  | .row t token =>
    if isMark l .openObject then .ok (.firstField ⟨t, token, .empty⟩)
    else if isMark l .openArray then .ok (.firstItem ⟨t, token, .empty⟩)
    else .error (wrongType l (.record "OperatorInfo"))
  | .afterRow t =>
    if isMark l .comma then .ok (.nextToken t)
    else if isMark l .closeObject then .ok (.done t)
    else .error (.on .expectedObjectEnd l.start)
  | .firstField o =>
    if isMark l .closeObject then closeRow o l else stepField o l
  | .nextField o =>
    if isMark l .closeObject then .error (.on .trailingComma l.start) else stepField o l
  | .fieldColon o f =>
    if isMark l .colon then
      match f with
      | some f => .ok (.fieldValue o f)
      | none => .ok (.skipValue o [])
    else .error (.on .expectedColon l.start)
  | .fieldValue o f => stepFieldValue o f .members l
  | .afterField o =>
    if isMark l .comma then .ok (.nextField o)
    else if isMark l .closeObject then closeRow o l
    else .error (.on .expectedObjectEnd l.start)
  | .firstItem o =>
    if isMark l .closeArray then .error (shortRow 0 l)
    else stepFieldValue o .precedence .items l
  | .nextItem o f =>
    if isMark l .closeArray then .error (.on .trailingComma l.start)
    else stepFieldValue o f .items l
  | .afterItem o .resultType =>
    if isMark l .closeArray then closeRow o l
    else if isMark l .comma then .ok .extraItem
    else .error (.on .trailingText l.start)
  | .afterItem o f =>
    if isMark l .closeArray then .error (shortRow f.count l)
    else if isMark l .comma then
      .ok (.nextItem o (if f = .precedence then .associativity else .resultType))
    else .error (.on .expectedListEnd l.start)
  | .extraItem =>
    if isMark l .closeArray then .error (.on .trailingComma l.start)
    else .error (.on .trailingText l.start)
  | .choiceKey o f form => stepChoiceKey o f form l
  | .choiceColon o f form =>
    if isMark l .colon then .ok (.choiceUnit o f form) else .error (.on .expectedColon l.start)
  | .choiceUnit o f form =>
    match l.token with
    | .scalar (.ok .null) _ => .ok (.choiceEnd o f form)
    | _ => .error (wrongType l .unit)
  | .choiceEnd o f form =>
    if isMark l .closeObject then .ok (.afterValue o f form)
    else .error (.before .expectedValue l.start)
  | .skipValue o outer => stepSkipValue o outer l
  | .skipFirst o b outer =>
    if isMark l b.close then .ok (.afterSkipped o outer) else stepSkipPart o b outer l
  | .skipNext o b outer =>
    if isMark l .comma then
      .ok (match b with
        | .array => .skipValue o (b :: outer)
        | .object => .skipKey o (b :: outer))
    else if isMark l b.close then .ok (.afterSkipped o outer)
    else .error (.on b.expectedEnd l.start)
  | .skipKey o outer => stepSkipKey o outer l
  | .skipColon o outer =>
    if isMark l .colon then .ok (.skipValue o outer) else .error (.on .expectedColon l.start)
  | .done _ => .error (.on .trailingText l.start)

/-- The table of a text that ends in a state. -/
def State.ending : State → Except Fault OperatorTable
  | .done t => .ok t
  | .table | .nextToken _ | .row _ _ | .nextField _ | .fieldValue _ _ | .nextItem _ _
  | .choiceUnit _ _ _ | .skipValue _ _ => .error (.atEnd .endInValue)
  | .firstItem _ | .afterItem _ _ => .error (.atEnd .endInList)
  | .extraItem => .error (.atEnd .trailingText)
  | .skipFirst _ b _ | .skipNext _ b _ => .error (.atEnd b.textEnd)
  | _ => .error (.atEnd .endInObject)

/-- Reads the table of a text. -/
def readTable (cs : List Char) : Except Fault OperatorTable := do
  (← (Json.scan cs).foldlM step .table).ending

end ScriptTree.Operator

namespace ScriptTree.OperatorTable
set_option autoImplicit false

/-- The table of a JSON text. -/
def ofText (text : String) : Except Json.Report OperatorTable :=
  match Operator.readTable text.toList with
  | .ok t => .ok t
  | .error f => .error (f.report text.toList)

end ScriptTree.OperatorTable
