import ScriptTree.Proofs.JavaScript.Segments

/-!
# The first statement of a program

A statement is printed in the same way wherever it stands, but for the first one of a program. A
string is put in parentheses there, and a dot with nothing before it gets a space. This is all:
`printFirst_eq`.
-/

namespace ScriptTree.JavaScript
set_option autoImplicit false
open Placeholder

/-! ## Dots with nothing before them -/

/-- Whether the text of an expression opens with a dot that has nothing before it: the access to a
property of a name without letters, outside of parentheses. The place asks for a level. -/
def Expr.opensWithDot (level : Nat) : Expr → Bool
  | .dot owner _ => owner.isName "" || owner.opensWithDot Level.member
  | .call callee _ => callee.opensWithDot Level.member
  | .index owner _ => owner.opensWithDot Level.member
  | .binary op left _ => decide (level < op.level) && left.opensWithDot (leftLevel op left)
  | .conditional test _ _ =>
    decide (level < Level.conditional) && test.opensWithDot Level.conditional
  | _ => false

/-- A space, if there is one. -/
def spaceIf (space : Bool) : List Char :=
  if space then [' '] else []

/-- A place where the level alone decides on the parentheses of a binary operation. -/
def Place.Strict (p : Place) : Prop :=
  ∀ op : BinaryOp, wrapsBinary p op = decide (op.level ≤ p.level)

theorem Place.strict_of_leftOperand {p : Place} (left : p.leftOperand = true) : p.Strict := by
  intro op
  simp [wrapsBinary, left]

/-- Logical operations are at the levels six to eight. -/
theorem Place.strict_of_level {p : Place} (level : p.level < 6 ∨ 8 < p.level) : p.Strict := by
  intro op
  have range : op.isLogical = true → 6 ≤ op.level ∧ op.level ≤ 8 := by cases op <;> decide
  unfold wrapsBinary
  cases logical : op.isLogical with
  | false => simp
  | true =>
    have := range logical
    have differ : (p.level == op.level) = false := beq_eq_false_iff_ne.2 (by omega)
    simp [differ]

theorem wrap_ne_nil (wrapped : Bool) {cs : List Char} (some : cs ≠ []) : wrap wrapped cs ≠ [] := by
  cases wrapped <;> simp [wrap, some]

theorem unaryText_ne_nil (p : Place) (op : UnaryOp) : unaryText p op ≠ [] := by
  have symbol : op.symbol.toList ≠ [] := by cases op <;> decide
  unfold unaryText
  split
  · simp
  · split
    · simp
    · exact symbol

theorem negativeText_ne_nil (p : Place) (cs : List Char) : negativeText p cs ≠ [] := by
  unfold negativeText
  split
  · simp [wrap]
  · split <;> simp

theorem endsInInteger_of_numberText_eq_nil {p : Place} {x : Number.Binary64}
    (empty : numberText p x = []) : (Expr.number x).endsInInteger = true := by
  match x with
  | .nan =>
    have text : "NaN".toList = [] := empty
    exact absurd text (by decide)
  | .infinity false =>
    have text : "Infinity".toList = [] := empty
    exact absurd text (by decide)
  | .infinity true =>
    have text : negativeText p "Infinity".toList = [] := empty
    exact absurd text (negativeText_ne_nil p _)
  | .finite true m =>
    have text : negativeText p (magnitudeText m) = [] := empty
    exact absurd text (negativeText_ne_nil p _)
  | .finite false m =>
    have text : magnitudeText m = [] := empty
    rw [Expr.endsInInteger, text]
    rfl

/-- Only a name without letters has no text, but for a number that keeps a dot away anyhow. -/
theorem isName_of_printExpr_eq_nil {indent : Nat} {p : Place} {e : Expr}
    (empty : printExpr indent p e = []) : e.isName "" = true ∨ e.endsInInteger = true := by
  cases e with
  | identifier name =>
    rw [printExpr] at empty
    exact .inl (beq_iff_eq.2 (String.toList_eq_nil_iff.1 empty))
  | number x =>
    rw [printExpr] at empty
    exact .inr (endsInInteger_of_numberText_eq_nil empty)
  | null => simp [printExpr] at empty
  | bool b => cases b <;> simp [printExpr] at empty
  | string s => simp [printExpr, stringLiteral] at empty
  | call callee arguments => simp [printExpr, wrap] at empty
  | dot owner name => simp [printExpr] at empty
  | index owner property => simp [printExpr] at empty
  | arrow params body =>
    rw [printExpr] at empty
    exact absurd empty (wrap_ne_nil _ (by simp))
  | binary op left right =>
    rw [printExpr] at empty
    exact absurd empty (wrap_ne_nil _ (by simp))
  | conditional test consequent alternate =>
    rw [printExpr] at empty
    exact absurd empty (wrap_ne_nil _ (by simp))
  | unary op argument =>
    have text : wrap _ (unaryText _ op ++ _) = [] := empty
    exact absurd text (wrap_ne_nil _ (by simp [unaryText_ne_nil]))
  | array elements =>
    rw [printExpr] at empty
    split at empty <;> simp at empty
  | object fields =>
    cases fields with
    | nil =>
      rw [printExpr] at empty
      exact absurd empty (wrap_ne_nil _ (by simp))
    | cons field rest =>
      cases rest with
      | nil =>
        rw [printExpr] at empty
        exact absurd empty (wrap_ne_nil _ (by simp))
      | cons second rest =>
        rw [printExpr] at empty
        · exact absurd empty (wrap_ne_nil _ (by simp))
        · simp
        · simp

/-- The text of a dotted access. -/
theorem printExpr_dot (indent : Nat) (p : Place) (owner : Expr) (name : String) :
    printExpr indent p (.dot owner name) =
      printExpr indent (p.first Level.member) owner ++
        (spaceIf (owner.endsInInteger ||
          (p.blank && (printExpr indent (p.first Level.member) owner).isEmpty)) ++
          '.' :: name.toList) := by
  rw [printExpr, List.append_assoc]
  rfl

theorem numberText_blank (level : Nat) (opens : Bool) (sign : Option UnaryOp) (leftOperand : Bool)
    (x : Number.Binary64) :
    numberText ⟨level, opens, true, sign, leftOperand⟩ x =
      numberText ⟨level, opens, false, sign, leftOperand⟩ x := by
  rcases x with _ | ⟨_ | _⟩ | ⟨_ | _, m⟩ <;> rfl

/-- A dot with nothing before it gets a space where nothing was printed, and else the text of an
expression does not show whether something was printed before. -/
theorem printExpr_blank (indent level : Nat) (opens : Bool) (sign : Option UnaryOp)
    (leftOperand : Bool) (strict : Place.Strict ⟨level, opens, true, sign, leftOperand⟩)
    (e : Expr) :
    printExpr indent ⟨level, opens, true, sign, leftOperand⟩ e =
      spaceIf (e.opensWithDot level) ++
        printExpr indent ⟨level, opens, false, sign, leftOperand⟩ e := by
  have member : Place.Strict ⟨Level.member, opens, true, none, false⟩ :=
    Place.strict_of_level (.inr (Nat.lt_of_sub_eq_succ rfl))
  cases e with
  | identifier name => rfl
  | null => rfl
  | bool b => rfl
  | number x => exact numberText_blank level opens sign leftOperand x
  | string s => rfl
  | array elements => rfl
  | arrow params body => rfl
  | object fields => rfl
  | unary op argument =>
    have same (wrapped : Bool) :
        unaryText (Place.inside ⟨level, opens, true, sign, leftOperand⟩ wrapped) op =
          unaryText (Place.inside ⟨level, opens, false, sign, leftOperand⟩ wrapped) op := by
      cases wrapped <;> rfl
    exact congrArg (fun text => wrap (decide (Level.unary ≤ level)) (text ++ _)) (same _)
  | call callee arguments =>
    have inner := printExpr_blank indent Level.member opens none false member callee
    simp only [printExpr, Place.first, inner, Expr.opensWithDot, List.append_assoc]
  | dot owner name =>
    have inner := printExpr_blank indent Level.member opens none false member owner
    rw [printExpr_dot, printExpr_dot, Expr.opensWithDot]
    cases letters : owner.isName "" with
    | true =>
      -- A name without letters: the space is what stands before the dot.
      cases owner with
      | identifier n =>
        obtain rfl := beq_iff_eq.1 letters
        rfl
      | _ => cases letters
    | false =>
      -- The owner has a text, unless it is a number, and then a space stands behind it anyhow.
      have behind : (owner.endsInInteger || (true &&
          (printExpr indent ⟨Level.member, opens, true, none, false⟩ owner).isEmpty)) =
          owner.endsInInteger := by
        cases number : owner.endsInInteger with
        | true => rfl
        | false =>
          have text : printExpr indent ⟨Level.member, opens, true, none, false⟩ owner ≠ [] := by
            intro empty
            have := isName_of_printExpr_eq_nil empty
            simp [letters, number] at this
          simpa using text
      simp only [Place.first, behind, Bool.false_or, Bool.false_and, Bool.or_false]
      rw [inner, List.append_assoc]
  | index owner property =>
    have inner := printExpr_blank indent Level.member opens none false member owner
    simp only [printExpr, Place.first, inner, Expr.opensWithDot]
    cases letters : owner.isName "let" with
    | true =>
      cases owner with
      | identifier n => rfl
      | _ => cases letters
    | false => simp [wrap]
  | binary op left right =>
    have inner := printExpr_blank indent (leftLevel op left) opens none true
      (Place.strict_of_leftOperand rfl) left
    have wrapped : wrapsBinary ⟨level, opens, false, sign, leftOperand⟩ op =
        decide (op.level ≤ level) := strict op
    simp only [printExpr, strict op, wrapped, Expr.opensWithDot]
    by_cases fits : op.level ≤ level
    · simp [fits, Place.inside, spaceIf, Nat.not_lt.2 fits]
    · simp [fits, Place.inside, Place.first, inner, Nat.not_le.1 fits, wrap]
  | conditional test consequent alternate =>
    have inner := printExpr_blank indent Level.conditional opens none false
      (Place.strict_of_level (.inl (Nat.lt_of_sub_eq_succ rfl))) test
    simp only [printExpr, Expr.opensWithDot]
    by_cases fits : Level.conditional ≤ level
    · simp [fits, Place.inside, spaceIf, Nat.not_lt.2 fits]
    · simp [fits, Place.inside, Place.first, inner, Nat.not_le.1 fits, wrap]

/-! ## Statements -/

/-- Whether the text of a statement opens with a dot that has nothing before it. -/
def Stmt.opensWithDot : Stmt → Bool
  | .expression e => e.opensWithDot Level.lowest
  | _ => false

/-- Whether a statement is a string. -/
def Stmt.isString : Stmt → Bool
  | .expression (.string _) => true
  | _ => false

theorem printStmt_blank (s : Stmt) :
    printStmt 0 0 true s = spaceIf s.opensWithDot ++ printStmt 0 0 false s := by
  cases s with
  | expression e =>
    have statement : Place.Strict ⟨Level.lowest, true, true, none, false⟩ :=
      Place.strict_of_level (.inl (Nat.lt_of_sub_eq_succ rfl))
    have text := printExpr_blank 0 Level.lowest true none false statement e
    rw [printStmt, printStmt, printExprStmt, printExprStmt, text]
    simp [tabs, Stmt.opensWithDot]
  | declaration kind bindings => rfl
  | block body => rfl
  | comment c =>
    rw [printStmt, printStmt, printExprStmt_placeholderExpr, printExprStmt_placeholderExpr]
    rfl

/-- **A first statement that is no string** is printed as any other statement, but for the space
before a dot. -/
theorem printFirst_eq {s : Stmt} (noString : s.isString = false) :
    printFirst s = spaceIf s.opensWithDot ++ printStmt 0 0 false s := by
  rw [printFirst.eq_2 s (by rintro text rfl; cases noString)]
  exact printStmt_blank s

end ScriptTree.JavaScript
