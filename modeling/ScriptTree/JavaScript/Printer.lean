import ScriptTree.JavaScript.Program
import ScriptTree.JavaScript.Literal
import ScriptTree.Comment.Placeholder
import ScriptTree.Node.Names

/-!
# Printing JavaScript

An expression is printed for a place: the place says how tightly the expression has to bind, and
what stands right before it. Parentheses stand where the expression binds less tightly than its
place asks for, and around an object that would be read as a block. Each level of blocks, lists
and objects is indented by a tab. A comment is printed as its placeholder.
-/

namespace ScriptTree.JavaScript
set_option autoImplicit false
open Number

/-! ## Levels of binding -/

namespace Level

/-- A statement, or the text between brackets. -/
def lowest : Nat := 0

/-- An element between commas. -/
def comma : Nat := 1

/-- A branch of a conditional. -/
def yield : Nat := 3

/-- A function. -/
def assign : Nat := 4

/-- A conditional. -/
def conditional : Nat := 5

/-- A power, which is also the level for the operand of a unary operator. -/
def power : Nat := 17

/-- A unary operation. -/
def unary : Nat := 18

/-- The owner of a member, and what is called. -/
def member : Nat := 19

/-- The base of a power that has a sign. -/
def call : Nat := 21

end Level

/-- How tightly an operator binds. -/
def BinaryOp.level : BinaryOp → Nat
  | .coalesce => 6
  | .or => 7
  | .and => 8
  | .bitOr => 9
  | .bitAnd => 11
  | .strictEqual | .strictUnequal | .equal | .unequal => 12
  | .less | .lessEqual | .greater | .greaterEqual | .isIn | .instanceOf => 13
  | .shiftLeft | .shiftRight | .shiftRightZero => 14
  | .add | .subtract => 15
  | .multiply | .divide | .remainder => 16
  | .power => Level.power

/-! ## Places -/

/-- The place of an expression. -/
structure Place where
  /-- An expression that does not bind more tightly than this is put in parentheses. -/
  level : Nat
  /-- A brace would open a block here: a statement or the body of a function starts. -/
  opens : Bool
  /-- Nothing was printed before. -/
  blank : Bool
  /-- The sign that stands right before. -/
  sign : Option UnaryOp
  /-- The expression is the left operand of an operator. -/
  leftOperand : Bool

namespace Place

/-- A place inside of an expression, where only the level counts. -/
def inner (level : Nat) : Place :=
  ⟨level, false, false, none, false⟩

/-- The place of a first part with nothing before it: what stands before the whole stands before
the part. -/
def first (p : Place) (level : Nat) : Place :=
  ⟨level, p.opens, p.blank, none, false⟩

/-- The place after an opening parenthesis, if there is one. -/
def inside (p : Place) (wrapped : Bool) : Place :=
  if wrapped then inner p.level else p

end Place

/-- A text in parentheses, or as it is. -/
def wrap (wrapped : Bool) (cs : List Char) : List Char :=
  if wrapped then '(' :: cs ++ [')'] else cs

/-- The indentation of a level. -/
def tabs (indent : Nat) : List Char :=
  List.replicate indent '\t'

/-- Texts with a comma and a space between them. -/
def commaSeparated (texts : List (List Char)) : List Char :=
  List.intercalate [',', ' '] texts

/-- Texts on lines of their own, one level deeper, and the indentation of what closes them. -/
def onLines (indent : Nat) (texts : List (List Char)) : List Char :=
  List.intercalate [','] (texts.map fun t => '\n' :: tabs (indent + 1) ++ t) ++ '\n' :: tabs indent

/-! ## Parts of expressions -/

/-- A text behind a minus sign at a place. -/
def negativeText (p : Place) (text : List Char) : List Char :=
  if Level.unary ≤ p.level then wrap true ('-' :: text)
  else if p.sign = some .minus then ' ' :: '-' :: text
  else '-' :: text

/-- A number at a place. -/
def numberText (p : Place) : Binary64 → List Char
  | .nan => "NaN".toList
  | .infinity false => "Infinity".toList
  | .infinity true => negativeText p "Infinity".toList
  | .finite false m => magnitudeText m
  | .finite true m => negativeText p (magnitudeText m)

/-- Whether a point right after an expression would belong to a number. -/
def Expr.endsInInteger : Expr → Bool
  | .number (.finite false m) => isBareInteger (magnitudeText m)
  | _ => false

/-- Whether an expression is a name. -/
def Expr.isName (name : String) : Expr → Bool
  | .identifier n => n == name
  | _ => false

/-- Whether an expression is a conjunction or disjunction. -/
def Expr.isAndOr : Expr → Bool
  | .binary .and _ _ | .binary .or _ _ => true
  | _ => false

/-- Whether an expression is a unary operation or a number. -/
def Expr.isUnaryOrNumber : Expr → Bool
  | .unary _ _ | .number _ => true
  | _ => false

/-- Whether a key that is written out needs brackets. -/
def Expr.needsBrackets : Expr → Bool
  | .number x => x.isNegative || x.isInfinite
  | _ => false

/-- The level for the left operand of an operator. -/
def leftLevel (op : BinaryOp) (left : Expr) : Nat :=
  match op with
  | .power => if left.isUnaryOrNumber then Level.call else Level.power
  | .coalesce => if left.isAndOr then Level.unary else op.level - 1
  | _ => op.level - 1

/-- The level for the right operand of an operator. -/
def rightLevel (op : BinaryOp) (right : Expr) : Nat :=
  match op with
  | .power => op.level - 1
  | .coalesce => if right.isAndOr then Level.unary else op.level
  | _ => op.level

/-- Whether a binary operation is put in parentheses: a logical one is not if it is the right
operand of its own operator. -/
def wrapsBinary (p : Place) (op : BinaryOp) : Bool :=
  op.level ≤ p.level && !(op.isLogical && p.level == op.level && !p.leftOperand)

/-- An operator before its operand; two equal signs are kept apart. -/
def unaryText (p : Place) (op : UnaryOp) : List Char :=
  if op.isWord then op.symbol.toList ++ [' ']
  else if p.sign = some op ∧ (op = .plus ∨ op = .minus) then ' ' :: op.symbol.toList
  else op.symbol.toList

/-- Whether a property is written by its value alone. -/
def isShorthand (name : String) (value : Expr) (shorthand : Bool) : Bool :=
  if name == "__proto__" then shorthand else value.isName name

/-! ## Expressions -/

mutual

/-- The text of an expression at a place. -/
def printExpr (indent : Nat) (p : Place) : Expr → List Char
  | .identifier name => name.toList
  | .null => "null".toList
  | .bool b => if b then "true".toList else "false".toList
  | .number x => numberText p x
  | .string s => stringLiteral s
  | .call callee arguments =>
    printExpr indent (p.first Level.member) callee ++
      wrap true (commaSeparated (printExprs indent arguments))
  | .dot owner name =>
    let ownerText := printExpr indent (p.first Level.member) owner
    let space := owner.endsInInteger || (p.blank && ownerText.isEmpty)
    ownerText ++ (if space then [' '] else []) ++ '.' :: name.toList
  | .index owner property =>
    wrap (owner.isName "let") (printExpr indent (p.first Level.member) owner) ++
      '[' :: printExpr indent (.inner Level.lowest) property ++ [']']
  | .arrow params body =>
    wrap (Level.assign ≤ p.level)
      (wrap true (commaSeparated (params.map String.toList)) ++ " => ".toList ++
        printExpr indent ⟨Level.comma, true, false, none, false⟩ body)
  | .binary op left right =>
    let wrapped := wrapsBinary p op
    let q := (p.inside wrapped).first (leftLevel op left)
    wrap wrapped
      (printExpr indent ⟨q.level, q.opens, q.blank, q.sign, true⟩ left ++
        ' ' :: op.symbol.toList ++ ' ' :: printExpr indent (.inner (rightLevel op right)) right)
  | .unary op argument =>
    let wrapped := decide (Level.unary ≤ p.level)
    let sign := if op.isWord then none else some op
    let operand := printExpr indent ⟨Level.power, false, false, sign, false⟩ argument
    let operand :=
      match op, argument with
      | .delete, .number (.infinity false) => wrap true ("0, ".toList ++ operand)
      | _, _ => operand
    wrap wrapped (unaryText (p.inside wrapped) op ++ operand)
  | .conditional test consequent alternate =>
    let wrapped := decide (Level.conditional ≤ p.level)
    wrap wrapped
      (printExpr indent ((p.inside wrapped).first Level.conditional) test ++
        " ? ".toList ++ printExpr indent (.inner Level.yield) consequent ++
        " : ".toList ++ printExpr indent (.inner Level.yield) alternate)
  | .array elements =>
    if elements.length ≤ 2 then '[' :: commaSeparated (printExprs indent elements) ++ [']']
    else '[' :: onLines indent (printExprs (indent + 1) elements) ++ [']']
  | .object fields =>
    wrap p.opens
      (match fields with
      | [] => "\x7b\x7d".toList
      | [_] => "\x7b ".toList ++ (printFields indent fields).flatten ++ " \x7d".toList
      | _ => '\x7b' :: onLines indent (printFields (indent + 1) fields) ++ ['\x7d'])

/-- The texts of expressions between commas. -/
def printExprs (indent : Nat) : List Expr → List (List Char)
  | [] => []
  | e :: rest => printExpr indent (.inner Level.comma) e :: printExprs indent rest

/-- The texts of the fields of an object. -/
def printFields (indent : Nat) : List (Field Expr) → List (List Char)
  | [] => []
  | .named name value shorthand :: rest =>
    let valueText := printExpr indent (.inner Level.comma) value
    (if isShorthand name value shorthand then valueText
    else name.toList ++ ':' :: ' ' :: valueText) :: printFields indent rest
  | .written key value :: rest =>
    let keyText := printExpr indent (.inner Level.comma) key
    ((if key.needsBrackets then '[' :: keyText ++ [']'] else keyText) ++
      ':' :: ' ' :: printExpr indent (.inner Level.comma) value) :: printFields indent rest
  | .computed key value :: rest =>
    ('[' :: printExpr indent (.inner Level.comma) key ++ [']'] ++
      ':' :: ' ' :: printExpr indent (.inner Level.comma) value) :: printFields indent rest

end

/-! ## Statements -/

/-- The text of an expression as a statement; nothing was printed before it if `blank`. -/
def printExprStmt (indent : Nat) (blank : Bool) (e : Expr) : List Char :=
  tabs indent ++ printExpr indent ⟨Level.lowest, true, blank, none, false⟩ e ++
    if e.isName "let" then [';'] else [';', '\n']

/-- The text of a declaration. -/
def printDeclaration (indent : Nat) (kind : DeclarationWord) (bindings : List (String × Expr)) :
    List Char :=
  let texts := bindings.map fun (name, init) =>
    name.toList ++ " = ".toList ++ printExpr indent (.inner Level.comma) init
  tabs indent ++ (Named.word kind).toList ++
    (if texts.isEmpty then [] else ' ' :: commaSeparated texts) ++ [';', '\n']

/-- The expression that stands for the comment with a number. -/
def placeholderExpr (index : Nat) : Expr :=
  .unary .void (.string (String.ofList (Placeholder.content index)))

mutual

/-- The text of a statement whose first comment has the number `next`. -/
def printStmt (indent next : Nat) (blank : Bool) : Stmt → List Char
  | .expression e => printExprStmt indent blank e
  | .declaration kind bindings => printDeclaration indent kind bindings
  | .block body =>
    tabs indent ++
      (if body.isEmpty then "\x7b\x7d".toList
      else "\x7b\n".toList ++ printStmts (indent + 1) next body ++ tabs indent ++ ['\x7d']) ++
      ['\n']
  | .comment _ => printExprStmt indent blank (placeholderExpr next)

/-- The text of statements whose first comment has the number `next`. -/
def printStmts (indent next : Nat) : List Stmt → List Char
  | [] => []
  | s :: rest =>
    printStmt indent next false s ++ printStmts indent (next + s.comments.length) rest

end

/-- The text of the first statement of a program: a string is kept from being a directive. -/
def printFirst : Stmt → List Char
  | .expression (.string s) => wrap true (stringLiteral s) ++ [';', '\n']
  | s => printStmt 0 0 true s

/-- The text of a program, with placeholders for its comments. -/
def printProgram : List Stmt → List Char
  | [] => []
  | s :: rest => printFirst s ++ printStmts 0 s.comments.length rest

end ScriptTree.JavaScript
